import TrucoPaulista.Proofs.Delivery

namespace TrucoPaulista

/-- What those in a room are told of it: who has which seat in which team, is ready and is connected,
whether a hand may start, and whose turn it is. -/
def RoomView.announcement (view : RoomView) : Event :=
  .roomState view.matchId
    (view.players.map (fun player => ⟨player.seat, player.seat.team, player.ready, player.connected⟩))
    view.canStart view.currentTurn

/-- What those at a table are told of its match. Without a hand there is no vira, and no round was
played. -/
def Match.announcement (m : Match) (matchId : MatchId) : Event :=
  .matchState matchId m.state m.score m.pointsToWin (m.hand.map Hand.vira)
    (.ofNat ((m.hand.map (fun h => h.rounds.countP Round.isFinished)).getD 0))

section Reads

variable {archive archive' : Archive} {text : String}

theorem Archive.named_congr (same : archive'.stored = archive.stored) :
    archive'.named text = archive.named text := by
  unfold Archive.named Archive.lookup
  rw [same]

variable (archive text)

/-- A call for a hand is answered with the hand that the match which is stored then has. -/
theorem Service.startHand_reads (vira : Rank) : (startHand text vira).Yields archive
    (fun start archive' => ∃ matchId m h, archive'.named text = .ok (matchId, m) ∧
      m.hand = some h ∧ start.matchId = matchId ∧ start.vira = h.vira)
    (fun _ _ => True) := by
  rcases startHand_cases archive text vira with
    ⟨_, _, _, done⟩ | ⟨_, _, _, done⟩ | ⟨_, _, _, _, _, _, done⟩ |
    ⟨matchId, m, m', outcome, named, begun, done⟩
  · exact (Action.yields_iff_of_error done).mpr trivial
  · exact (Action.yields_iff_of_error done).mpr trivial
  · exact (Action.yields_iff_of_error done).mpr trivial
  · refine (Action.yields_iff_of_ok done).mpr ?_
    have sound := Archive.sound_of_named named
    have sound' := sound.start vira
    rw [begun] at sound'
    rcases m.start_cases vira with ⟨_, ended⟩ | ⟨state, going⟩ | ⟨_, started⟩
    · simp [ended] at begun
    · obtain ⟨same, rfl⟩ := Prod.mk.inj (begun.symm.trans going)
      obtain rfl := Except.ok.inj same
      obtain ⟨h, found, _⟩ := sound.hand_of_inProgress state
      exact ⟨matchId, m', h, named, found, rfl, by simp [Match.handStart, found]⟩
    · obtain ⟨same, made⟩ := Prod.mk.inj (begun.symm.trans started)
      obtain rfl := Except.ok.inj same
      have found : m'.hand = some (.start vira) := by rw [made]
      have later : (archive.after 2).named text = .ok (matchId, m) := named
      refine ⟨matchId, m', .start vira, ?_, found, rfl, by simp [Match.handStart, found]⟩
      rw [if_pos rfl]
      exact Archive.named_put later sound'

/-- A card is answered with the match that is stored then. -/
theorem Service.playCard_reads (side : Side) (card : Card) : (playCard text side card).Yields archive
    (fun result archive' => ∃ matchId m, archive'.named text = .ok (matchId, m) ∧
      result.state = m.view matchId)
    (fun _ _ => True) := by
  rcases playCard_cases archive text side card with
    ⟨_, _, _, done⟩ | ⟨_, _, _, done⟩ | ⟨_, _, _, _, _, _, done⟩ | ⟨matchId, m, m', _, named, played, done⟩
  · exact (Action.yields_iff_of_error done).mpr trivial
  · exact (Action.yields_iff_of_error done).mpr trivial
  · exact (Action.yields_iff_of_error done).mpr trivial
  · refine (Action.yields_iff_of_ok done).mpr ⟨matchId, m', ?_, rfl⟩
    have sound := (Archive.sound_of_named named).play side card
    rw [played] at sound
    have later : (archive.after 2).named text = .ok (matchId, m) := named
    exact Archive.named_put later sound

/-- The view of a match is the one of the match that is stored. -/
theorem Service.viewState_reads : (viewState text).Yields archive
    (fun view archive' => ∃ matchId m, archive'.named text = .ok (matchId, m) ∧
      archive'.named text = archive.named text ∧ view = m.view matchId)
    (fun _ _ => True) := by
  rcases viewState_cases archive text with ⟨_, _, done⟩ | ⟨_, _, _, done⟩ | ⟨matchId, m, named, done⟩
  · exact (Action.yields_iff_of_error done).mpr trivial
  · exact (Action.yields_iff_of_error done).mpr trivial
  · exact (Action.yields_iff_of_ok done).mpr ⟨matchId, m, named, Archive.named_congr rfl, rfl⟩

end Reads

namespace AtTable

section Steps

variable (place : AtTable) (connection : ConnectionId)

/-- What is told of a hand that is called is read from the match as it is stored then. -/
theorem callHand_reads (vira : Option Rank) : (callHand connection vira).Yields place
    (fun opened mid => ∃ matchId m h, mid.floor.archive.named place.table.matchId = .ok (matchId, m) ∧
      m.hand = some h ∧ Event.ofStart opened.1 = .handStarted matchId h.vira ∧
      opened.2 = m.view matchId)
    (fun _ _ => True) := by
  unfold callHand
  simp only [Action.yields_bind, Action.yields_look]
  refine (seated_yields place connection).mono ?_ (fun _ _ _ => trivial)
  rintro session place ⟨rfl, _⟩
  split
  next => exact Action.yields_throw.mpr trivial
  next =>
    obtain ⟨dealer, drawn⟩ := place.pickVira_apply vira
    simp only [Action.yields_bind, Action.yields_pure]
    refine (Action.yields_iff_of_ok drawn).mpr ?_
    simp only [onFloor, FloorStep.ofService, FloorStep.ofLobby, Action.yields_on,
      Action.yields_mapRefusal]
    refine (Service.startHand_reads _ _ _).mono ?_ (fun _ _ => id)
    rintro start archive ⟨matchId, m, h, named, found, name, vira'⟩
    refine ⟨?_, fun _ _ _ => trivial⟩
    intro _ lobby _
    refine (Service.viewState_reads archive place.table.matchId).mono ?_ (fun _ _ => id)
    rintro view archive' ⟨matchId', m', named', same, rfl⟩
    obtain ⟨rfl, rfl⟩ := Prod.mk.inj (Except.ok.inj (named'.symm.trans (same.trans named)))
    exact ⟨matchId', m', h, named', found, by rw [Event.ofStart, name, vira'], rfl⟩

/-- What is told of a card that is laid names the seat and its team, and shows the match as it is stored
then. -/
theorem layCard_reads (card : Card) : (layCard connection card).Yields place
    (fun played mid => ∃ matchId m, mid.floor.archive.named place.table.matchId = .ok (matchId, m) ∧
      Event.ofCard played = .cardPlayed matchId played.seat played.seat.team card ∧
      played.result.state = m.view matchId)
    (fun _ _ => True) := by
  unfold layCard
  simp only [Action.yields_bind, Action.yields_look]
  refine (seated_yields place connection).mono ?_ (fun _ _ _ => trivial)
  rintro session place ⟨rfl, _⟩
  split
  next => exact Action.yields_throw.mpr trivial
  next =>
    simp only [Action.yields_bind, yields_change, Action.yields_pure, onFloor, FloorStep.ofService,
      Action.yields_on]
    refine (Service.playCard_reads _ _ _ _).mono ?_ (fun _ _ => id)
    rintro result archive ⟨matchId, m, named, state⟩
    exact ⟨matchId, m, named, by rw [Event.ofCard, state]; rfl, state⟩

end Steps

section Copies

variable (place : AtTable) (connection : ConnectionId)

theorem copies_subscribe_le (queue query : QueueId) : (subscribe connection queue place).copies query ≤
    place.copies query + if queue = query then 1 else 0 := by
  have kept := (List.filter_sublist (p := fun entry : ConnectionId × QueueId =>
    (place.floor.lobby.session entry.1).isSome)
    (l := insertEntry connection queue place.table.subscribers.entries)).map Prod.snd
  exact (kept.count_le query).trans (count_insertEntry_le connection queue query _)

theorem copies_getUp_le (query : QueueId) : (getUp connection place).copies query ≤ place.copies query := by
  have kept := (List.filter_sublist (p := fun entry : ConnectionId × QueueId => decide (entry.1 ≠ connection))
    (l := place.table.subscribers.entries)).map Prod.snd
  exact kept.count_le query

end Copies

end AtTable

/-- What those at the table are told of a message, by its reply and the place after it: nothing of one
that is refused. Who sits down with a full queue is unseated over the news of it, which may then show a
room that is not the one after the message. -/
def Message.Tells {α : Type} (place place' : AtTable) : Message α → α → List Event → Prop
  | .join _ _ queue, reply, told =>
    match reply with
    | .error _ => told = []
    | .ok _ =>
      ∃ view : RoomView, told = [view.announcement] ∧
        (place.floor.isFull queue = false → view = place'.roomView)
  | .setReady _ _, reply, told =>
    match reply with
    | .error _ => told = []
    | .ok _ => told = [place'.roomView.announcement]
  | .startHand _ _, reply, told =>
    match reply with
    | .error _ => told = []
    | .ok _ =>
      ∃ matchId m h, place'.floor.archive.named place.table.matchId = .ok (matchId, m) ∧
        m.hand = some h ∧
        told = [.handStarted matchId h.vira, m.announcement matchId, place'.roomView.announcement]
  | .playCard connection card, reply, told =>
    match reply with
    | .error _ => told = []
    | .ok _ =>
      ∃ matchId m session, place'.floor.archive.named place.table.matchId = .ok (matchId, m) ∧
        place.floor.lobby.session connection = some session ∧
        told = [.cardPlayed matchId session.seat session.seat.team card, m.announcement matchId,
          place'.roomView.announcement]
  | .getState, _, told => told = []
  | .leave connection, _, told =>
    told = if (place.floor.lobby.session connection).isSome then [place'.roomView.announcement] else []
  | .close, _, told => told = []

/-- Whether the one who sends a message that is accepted is at the table after it as before, or with the
queue that comes with the message if there is room in it. -/
def Message.KeepsSender {ρ : Type} (place place' : AtTable) : Message ρ → ρ → Prop
  | .join connection _ queue, reply =>
    reply.isOk → place.floor.roomIn queue ≠ 0 → place'.table.subscribers.get? connection = some queue
  | .setReady _ _, _ | .startHand _ _, _ | .playCard _ _, _ | .getState, _ => place'.table = place.table
  | .leave _, _ | .close, _ => True

namespace AtTable

section Told

variable {place mid : AtTable}

/-- Whether some events have been put into the queues since, each of them once for everyone at the
table. -/
def Spreads (place place' : AtTable) (told : List Event) : Prop :=
  ∀ queue, place'.floor.waitingIn queue =
    place.floor.waitingIn queue ++ told.flatMap (List.replicate (place'.copies queue))

theorem tells_nothing (queues : mid.floor.queues = place.floor.queues) : place.Spreads mid [] := by
  intro queue
  rw [Floor.waitingIn, Floor.waitingIn, queues]
  exact (List.append_nil _).symm

theorem hasRoomFor_getUp {count : Nat} (hasRoom : place.HasRoomFor count) (connection : ConnectionId) :
    (getUp connection place).HasRoomFor count := by
  refine hasRoom.of_fewer ?_ (place.copies_getUp_le connection) rfl
  intro other queue told
  rw [getUp, Dict.get?_erase] at told
  split at told
  next => cases told
  next => exact told

/-- Where there is room for some news and the state of the room, everybody is told both once, and nobody
loses the seat over it. -/
theorem HasRoomFor.tells (news : List Event) (hasRoom : mid.HasRoomFor (news.length + 1))
    (queues : mid.floor.queues = place.floor.queues) :
    (mid.announce news).roomView = mid.roomView ∧
      place.Spreads (mid.announce news) (news ++ [.ofRoom mid.roomView]) ∧
      (mid.announce news).table = mid.table := by
  have hears := hasRoom.hears_announce
  refine ⟨?_, ?_, hears.table⟩
  · rw [roomView, roomView, hears.table, hears.lobby]
  · intro queue
    have same : (mid.announce news).copies queue = mid.copies queue := by
      rw [copies, copies, hears.table]
    rw [hears.waiting, same, Floor.waitingIn, Floor.waitingIn, queues]

/-- Whoever acts at the table tells everybody of it, and all keep their places. The matches are stored as
they were before anybody was told. -/
theorem Quiet.tells (quiet : place.Quiet mid) (hasRoom : place.HasRoomFor 3) (news : List Event)
    (few : news.length ≤ 2) :
    (mid.announce news).roomView = mid.roomView ∧
      place.Spreads (mid.announce news) (news ++ [.ofRoom mid.roomView]) ∧
      (mid.announce news).table = place.table ∧
      ∀ text, (mid.announce news).floor.archive.named text = mid.floor.archive.named text := by
  have hasRoom' : mid.HasRoomFor (news.length + 1) := by
    refine (hasRoom.mono (by omega)).of_fewer ?_ ?_ quiet.queues
    · rw [quiet.table]
      exact fun _ _ => id
    · intro queue
      rw [copies, quiet.table]
      exact le_rfl
  obtain ⟨same, told, table⟩ := hasRoom'.tells news quiet.queues
  exact ⟨same, told, table.trans quiet.table, fun text =>
    congrArg (Archive.named · text) (announce_keeps mid news).2⟩

section Join

variable (connection : ConnectionId) (queue : QueueId) (hasRoom : place.HasRoomFor 3)
  (table : mid.table = place.table) (queues : mid.floor.queues = place.floor.queues)

include table

theorem told_of_subscribe {other : ConnectionId} {query : QueueId}
    (told : (subscribe connection queue mid).table.subscribers.get? other = some query) :
    query = queue ∨ place.table.subscribers.get? other = some query := by
  obtain ⟨inserted, _⟩ := Dict.get?_filter_eq_some.mp told
  rw [Dict.get?_insert, table] at inserted
  split at inserted
  next => exact Or.inl (Option.some.inj inserted).symm
  next => exact Or.inr inserted

include hasRoom queues

/-- Whoever sits down with a queue of their own needs but one place, and one that others have as well
has that place left over. -/
theorem fits_subscribe : (subscribe connection queue mid).Fits := by
  intro other query told
  have room : (subscribe connection queue mid).floor.roomIn query = place.floor.roomIn query := by
    rw [Floor.roomIn, Floor.roomIn, ← queues]
    rfl
  have before : mid.copies query = place.copies query := by rw [copies, copies, table]
  have copies := mid.copies_subscribe_le connection queue query
  rw [before] at copies
  rw [room]
  by_cases nobody : place.copies query = 0
  · rw [nobody] at copies
    split at copies <;> omega
  · obtain ⟨sitter, there⟩ := Dict.mem_values.mp (List.count_pos_iff.mp (Nat.pos_of_ne_zero nobody))
    have places := hasRoom sitter query there
    split at copies <;> omega

/-- Whoever has just sat down is told the room with the others. -/
theorem spreads_subscribe : place.Spreads ((subscribe connection queue mid).announce [])
    [.ofRoom (subscribe connection queue mid).roomView] := by
  have fits : (subscribe connection queue mid).Fits := fits_subscribe connection queue hasRoom table queues
  intro query
  have before : (subscribe connection queue mid).floor.waitingIn query = place.floor.waitingIn query := by
    rw [Floor.waitingIn, Floor.waitingIn, ← queues]
    rfl
  rw [List.flatMap_singleton, ← before]
  exact waitingIn_broadcast_of_fits fits (.ofRoom (subscribe connection queue mid).roomView) query

/-- Unless the queue was full, the room is still what everybody was told. -/
theorem roomView_subscribe (quick : place.floor.isFull queue = false) :
    ((subscribe connection queue mid).announce []).roomView =
      (subscribe connection queue mid).roomView := by
  have fits : (subscribe connection queue mid).Fits := fits_subscribe connection queue hasRoom table queues
  have all : ∀ other query, (subscribe connection queue mid).table.subscribers.get? other = some query →
      (subscribe connection queue mid).floor.isFull query = false := by
    intro other query told
    have same : (subscribe connection queue mid).floor.isFull query = place.floor.isFull query := by
      rw [Floor.isFull, Floor.isFull, ← queues]
      rfl
    rw [same]
    rcases told_of_subscribe connection queue table told with rfl | there
    · exact quick
    · exact quick_of_room hasRoom there
  have stands := broadcast_of_fits fits (.ofRoom (subscribe connection queue mid).roomView) all
  have lobby : ((subscribe connection queue mid).announce []).floor.lobby =
      (subscribe connection queue mid).floor.lobby := by
    refine (congrArg (fun place : AtTable => place.floor.lobby) stands).trans ?_
    exact (Floor.sendAll_keeps _ _ _).1
  unfold AtTable.roomView
  rw [lobby]
  rfl

/-- Whoever has sat down with a free place in the queue is told of the match from then on. -/
theorem listens_subscribe (seated : (mid.floor.lobby.session connection).isSome)
    (takes : place.floor.roomIn queue ≠ 0) :
    ((subscribe connection queue mid).announce []).table.subscribers.get? connection = some queue := by
  have fits : (subscribe connection queue mid).Fits := fits_subscribe connection queue hasRoom table queues
  have stays := subscribers_broadcast_of_fits fits (.ofRoom (subscribe connection queue mid).roomView)
  have same : (subscribe connection queue mid).floor.roomIn queue = place.floor.roomIn queue := by
    rw [Floor.roomIn, Floor.roomIn, ← queues]
    rfl
  refine (congrArg (Dict.get? · connection) stays).trans ?_
  have listens : (subscribe connection queue mid).table.subscribers.get? connection = some queue :=
    Dict.get?_filter_eq_some.mpr ⟨by rw [Dict.get?_insert, if_pos rfl], seated⟩
  rw [Dict.get?_filter_eq_some, same]
  exact ⟨listens, decide_eq_true takes⟩

end Join

/-- A message is told to everyone at the table, or to nobody. -/
theorem tells_handle (mirrored : place.floor.lobby.Mirrored) (hasRoom : place.HasRoomFor 3) {α : Type}
    (message : Message α) : ∃ told,
      message.Tells place (handle message place).2 (handle message place).1 told ∧
      place.Spreads (handle message place).2 told ∧
      message.KeepsSender place (handle message place).2 (handle message place).1 := by
  rw [handle_eq]
  cases message with
  | join connection token queue =>
    rw [Message.upshot]
    rcases Upshot.of_cases (place.sitDown_yields connection token queue) with
      ⟨session, _, stands, before, lobby, quiet, joined, rfl⟩ | ⟨refusal, mid, stands, idle⟩ <;> rw [stands]
    · have table : ({ before with floor := { before.floor with lobby } } : AtTable).table =
          place.table := quiet.table
      have told := spreads_subscribe connection queue hasRoom table quiet.queues
      have view := roomView_subscribe connection queue hasRoom table quiet.queues
      have listens := listens_subscribe connection queue hasRoom table quiet.queues
      have sits := (mirrored.join_yields connection token).answer session lobby joined
      have seated : (lobby.session connection).isSome := Option.isSome_of_eq_some sits.seated
      exact ⟨_, ⟨_, rfl, fun quick => (view quick).symm⟩, told, fun _ => listens seated⟩
    · exact ⟨[], rfl, tells_nothing idle.queues, fun accepted => absurd accepted Bool.false_ne_true⟩
  | setReady connection ready =>
    rw [Message.upshot]
    rcases Upshot.of_cases (place.becomeReady_yields connection ready) with
      ⟨view, mid, stands, quiet, _⟩ | ⟨refusal, mid, stands, idle⟩ <;> rw [stands]
    · obtain ⟨same, told, table, _⟩ := quiet.tells hasRoom [] (by decide)
      exact ⟨_, by rw [← same]; rfl, told, table⟩
    · exact ⟨[], rfl, tells_nothing idle.queues, idle.table⟩
  | startHand connection vira =>
    rw [Message.upshot]
    rcases Upshot.of_cases ((place.callHand_yields connection vira).and
        (place.callHand_reads connection vira)) with
      ⟨opened, mid, stands, ⟨quiet, _⟩, matchId, m, h, named, found, start, state⟩ |
      ⟨refusal, mid, stands, untold, _⟩ <;> rw [stands]
    · obtain ⟨same, told, table, names⟩ :=
        quiet.tells hasRoom [.ofStart opened.1, .ofMatch opened.2] (by simp)
      refine ⟨_, ⟨matchId, m, h, (names _).trans named, found, ?_⟩, told, table⟩
      rw [← same, start, state]
      rfl
    · have quiet : place.Quiet mid := untold.elim And.left Idle.quiet
      exact ⟨[], rfl, tells_nothing quiet.queues, quiet.table⟩
  | playCard connection card =>
    rw [Message.upshot]
    rcases Upshot.of_cases ((place.layCard_yields connection card).and
        (place.layCard_reads connection card)) with
      ⟨played, mid, stands, ⟨quiet, ⟨session, found, _, seat⟩, _⟩, matchId, m, named, card', state⟩ |
      ⟨refusal, mid, stands, idle, _⟩ <;> rw [stands]
    · obtain ⟨same, told, table, names⟩ :=
        quiet.tells hasRoom [.ofCard played, .ofMatch played.result.state] (by simp)
      refine ⟨_, ⟨matchId, m, session, (names _).trans named, found, ?_⟩, told, table⟩
      rw [← same, card', seat, state]
      rfl
    · exact ⟨[], rfl, tells_nothing idle.queues, idle.table⟩
  | getState =>
    have idle := place.getState_idle
    rw [Message.upshot, Upshot.told, Option.elim_none]
    generalize (getState.apply place).2 = mid at idle ⊢
    exact ⟨[], rfl, tells_nothing idle.queues, idle.table⟩
  | leave connection =>
    have seated : (place.floor.lobby.session connection).isSome =
        (place.floor.lobby.leave connection).1.isSome := by
      rw [mirrored.left_match, Option.isSome_map]
    obtain ⟨same, told, _⟩ : _ ∧ place.Spreads _ _ ∧ _ :=
      (hasRoomFor_getUp (hasRoom.mono (by decide)) connection).tells [] rfl
    unfold Message.Tells Message.upshot
    dsimp only
    rw [seated]
    cases (place.floor.lobby.leave connection).1 with
    | none => exact ⟨[], rfl, tells_nothing rfl, trivial⟩
    | some matchId => exact ⟨_, by rw [← same]; rfl, told, trivial⟩
  | close => exact ⟨[], rfl, tells_nothing rfl, trivial⟩

/-- A queue that one player has alone is told things once. -/
theorem copies_eq_one {connection : ConnectionId} {queue : QueueId}
    (listens : place.table.subscribers.get? connection = some queue)
    (alone : ∀ other, place.table.subscribers.get? other = some queue → other = connection) :
    place.copies queue = 1 := by
  have listeners : ∀ other ∈ (place.table.subscribers.entries.filter
      (fun entry => decide (entry.2 = queue))).map Prod.fst, other = connection := by
    intro other member
    obtain ⟨⟨_, query⟩, kept, rfl⟩ := List.mem_map.mp member
    obtain ⟨told, same⟩ := List.mem_filter.mp kept
    rw [decide_eq_true_eq] at same
    exact alone _ (Dict.mem_entries.mp (same ▸ told))
  -- no connection is at the table twice, so the entries of the queue are as many as their connections
  have distinct := place.table.subscribers.nodup_keys.sublist
    ((List.filter_sublist (p := fun entry : ConnectionId × QueueId => decide (entry.2 = queue))
      (l := place.table.subscribers.entries)).map Prod.fst)
  rw [List.eq_replicate_of_mem listeners, List.nodup_replicate, List.length_map] at distinct
  have counted : place.copies queue = (place.table.subscribers.entries.filter
      (fun entry => decide (entry.2 = queue))).length := by
    rw [copies, Dict.values, List.count, List.countP_map, List.countP_eq_length_filter]
    rfl
  have some' := copies_pos listens
  omega

/-- A player who shares the queue with nobody finds in it just what was told. -/
theorem Spreads.alone {place' : AtTable} {told : List Event} (spreads : place.Spreads place' told)
    {connection : ConnectionId} {queue : QueueId}
    (listens : place'.table.subscribers.get? connection = some queue)
    (alone : ∀ other, place'.table.subscribers.get? other = some queue → other = connection) :
    place'.floor.waitingIn queue = place.floor.waitingIn queue ++ told := by
  have once : told.flatMap (List.replicate 1) = told := List.flatMap_singleton' told
  rw [spreads queue, copies_eq_one listens alone, once]

end Told

end AtTable

end TrucoPaulista
