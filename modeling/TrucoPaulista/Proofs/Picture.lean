import TrucoPaulista.Proofs.Announce
import TrucoPaulista.Proofs.Queues

namespace TrucoPaulista

theorem getLast?_filter_of_last {α : Type} {list : List α} {last : α} {chosen : α → Bool}
    (found : list.getLast? = some last) (mine : chosen last) :
    (list.filter chosen).getLast? = some last := by
  obtain ⟨init, rfl⟩ := List.getLast?_eq_some_iff.mp found
  rw [List.filter_append, List.filter_cons_of_pos mine, List.filter_nil]
  exact List.getLast?_concat

def Event.isRoomState : Event → Bool
  | .roomState .. => true
  | _ => false

section Views

theorem RoomPlayer.ofView_injective : Function.Injective RoomPlayer.ofView := by
  rintro ⟨seat, ready, connected⟩ ⟨seat', ready', connected'⟩ same
  obtain ⟨rfl, _, rfl, rfl⟩ := RoomPlayer.mk.inj same
  rfl

theorem Event.ofRoom_injective : Function.Injective Event.ofRoom := by
  rintro ⟨matchId, players, canStart, turn⟩ ⟨matchId', players', canStart', turn'⟩ same
  simpa [ofRoom, (List.map_injective_iff.mpr RoomPlayer.ofView_injective).eq_iff] using same

theorem Room.isConnected_iff_players {room : Room} {seat : Seat} :
    room.isConnected seat ↔ ∃ view ∈ room.players, view.seat = seat ∧ view.connected := by
  simp only [players, List.mem_filterMap, Option.map_eq_some_iff, isConnected]
  constructor
  · intro connected
    cases there : room.chair? seat with
    | none => simp [there] at connected
    | some chair =>
      rw [there, Option.bind_some] at connected
      exact ⟨_, ⟨seat, by cases seat <;> simp [Seat.all], chair, there, rfl⟩, rfl, connected⟩
  · rintro ⟨_, ⟨place, _, chair, there, rfl⟩, rfl, connected⟩
    rw [there, Option.bind_some]
    exact connected

theorem Lobby.roomView_eq (lobby : Lobby) (matchId : MatchId) :
    lobby.roomView matchId = (lobby.room matchId).view matchId := by
  unfold roomView Lobby.room
  cases lobby.rooms.get? matchId with
  | none => rfl
  | some room => rfl

theorem Lobby.leave_eq_self {lobby : Lobby} {connection : ConnectionId}
    (nowhere : (lobby.leave connection).1 = none) : (lobby.leave connection).2 = lobby := by
  unfold leave at nowhere ⊢
  split at nowhere
  next => rfl
  next =>
    dsimp only at nowhere
    split at nowhere <;> cases nowhere

/-- A player of a room that is the same in two lobbies has the same seat in both. -/
theorem Lobby.Mirrored.session_of_room {lobby lobby' : Lobby} {matchId : MatchId}
    {connection : ConnectionId} {session : Session} (mirrored : lobby.Mirrored)
    (mirrored' : lobby'.Mirrored) (same : lobby'.rooms.get? matchId = lobby.rooms.get? matchId)
    (found : lobby.session connection = some session) (here : session.matchId = matchId) :
    lobby'.session connection = some session := by
  obtain ⟨bound, _⟩ := bound_of_session found
  have room : lobby'.room session.matchId = lobby.room session.matchId := by
    rw [here, Lobby.room, Lobby.room, same]
  have held := (mirrored.bound _ _ _).mp bound
  have held' : lobby'.connectionAt? session.matchId session.seat = some connection := by
    rw [Lobby.connectionAt?, room]
    exact held
  have bound' := (mirrored'.bound _ _ _).mpr held'
  rw [← found, lobby'.session_of_bound bound', lobby.session_of_bound bound, Lobby.tokenAt?,
    Lobby.tokenAt?, room]

end Views

namespace AtTable

theorem Follows.turn_eq_none {place : AtTable} {matchId : MatchId} {hand : Option Hand}
    (follows : place.Follows matchId hand) (nothing : place.hand = none) : place.room.turn = none := by
  have stored := follows.stored
  rw [← follows.name] at stored
  rw [AtTable.hand, stored] at nothing
  by_contra given
  obtain ⟨seat, turn⟩ := Option.ne_none_iff_exists'.mp given
  cases found : place.floor.lobby.rooms.get? matchId with
  | none =>
    rw [AtTable.room, follows.name, Lobby.room, found] at turn
    cases turn
  | some room =>
    rw [AtTable.room, follows.name, Lobby.room_of_get? _ _ found] at turn
    obtain ⟨h, being, _⟩ := follows.turn room found seat turn
    exact Option.some_ne_none h (being.symm.trans nothing)

section Waiting

variable (place : AtTable)

/-- A queue gets nothing but the event, and does get it if it is still told. -/
theorem waitingIn_broadcast (event : Event) (queue : QueueId) : ∃ tail,
    (place.broadcast event).floor.waitingIn queue = place.floor.waitingIn queue ++ tail ∧
    (∀ told ∈ tail, told = event) ∧
    ∀ connection, (place.broadcast event).table.subscribers.get? connection = some queue → tail ≠ [] := by
  refine ⟨_, place.floor.waitingIn_sendAll event place.table.subscribers.entries queue, ?_, ?_⟩
  · exact fun told member => List.eq_of_mem_replicate member
  · intro connection listens
    obtain ⟨told, taken⟩ := Dict.get?_filter_eq_some.mp listens
    have accepted : (connection, Delivery.accepted) ∈
        (place.floor.sendAll event place.table.subscribers.entries).1 := by
      obtain ⟨delivery, member, same⟩ := List.any_eq_true.mp taken
      simp only [Bool.and_eq_true, decide_eq_true_eq] at same
      obtain ⟨rfl, sent⟩ := same
      rw [← sent]
      exact member
    have member := Dict.mem_entries.mpr told
    obtain ⟨other, there, room⟩ := place.floor.roomIn_ne_zero_of_accepted accepted
    obtain rfl : other = queue := Option.some.inj ((Dict.mem_entries.mp there).symm.trans told)
    have counted : 0 < (place.table.subscribers.entries.map Prod.snd).count other :=
      List.count_pos_iff.mpr (List.mem_map_of_mem member)
    have some' := (Nat.lt_min.mpr ⟨counted, Nat.pos_of_ne_zero room⟩).ne'
    exact fun empty => some' (List.replicate_eq_nil_iff _ |>.mp empty)

/-- What anybody at the table is told last is the state of the room after the news. -/
theorem waitingIn_announce (news : List Event) (queue : QueueId) : ∃ tail,
    (place.announce news).floor.waitingIn queue = place.floor.waitingIn queue ++ tail ∧
    ∀ connection, (place.announce news).table.subscribers.get? connection = some queue →
      tail.getLast? = some (.ofRoom (news.foldl broadcast place).roomView) := by
  unfold announce broadcastRoom
  induction news generalizing place with
  | nil =>
    obtain ⟨tail, sent, events, got⟩ := place.waitingIn_broadcast (.ofRoom place.roomView) queue
    refine ⟨tail, sent, ?_⟩
    intro connection listens
    have nonempty := got connection listens
    rw [List.getLast?_eq_some_getLast nonempty, events _ (List.getLast_mem nonempty)]
    rfl
  | cons event rest ih =>
    obtain ⟨head, sent, _⟩ := place.waitingIn_broadcast event queue
    obtain ⟨tail, sent', last⟩ := ih (place.broadcast event)
    refine ⟨head ++ tail, ?_, ?_⟩
    · rw [← List.append_assoc, ← sent]
      exact sent'
    · intro connection listens
      rw [List.getLast?_append, last connection listens]
      rfl

end Waiting

/-- Whether the players at a table are all told the state of the room, but for those that have hung up:
nobody is unseated because of a queue that is full. -/
def IsHeard (place : AtTable) : Prop :=
  ∀ connection queue, place.table.subscribers.get? connection = some queue →
    place.floor.isOpen queue → place.broadcastRoom.table.subscribers.get? connection = some queue

/-- Whether those that are told things at a table have their seats there. -/
def IsSeated (place : AtTable) : Prop :=
  ∀ connection queue, place.table.subscribers.get? connection = some queue →
    ∃ session, place.floor.lobby.session connection = some session ∧
      session.matchId = place.table.matchId

section Heard

variable {place mid place' : AtTable}

theorem roomView_eq (place : AtTable) : place.roomView = place.room.view place.table.matchId :=
  place.floor.lobby.roomView_eq _

theorem Stirs.isSeated (stirs : mid.Stirs place') (seated : mid.IsSeated) : place'.IsSeated := by
  intro connection queue told
  obtain ⟨told', same⟩ := stirs.kept connection queue told
  rw [same, stirs.name]
  exact seated connection queue told'

/-- The seat of a player who was unseated is shown without a connection, as it was not before. -/
theorem isConnected_of_unseated (mirrored : place.floor.lobby.Mirrored) (stirs : place.Stirs place')
    {connection : ConnectionId} {session : Session}
    (found : place.floor.lobby.session connection = some session)
    (here : session.matchId = place.table.matchId)
    (gone : place'.floor.lobby.session connection = none) :
    place.room.isConnected session.seat ∧ place'.room.isConnected session.seat = false := by
  obtain ⟨bound, _⟩ := Lobby.bound_of_session found
  have held := (mirrored.bound connection session.matchId session.seat).mp bound
  rw [here] at held
  refine ⟨Option.isSome_of_eq_some held, ?_⟩
  by_contra connected
  rw [Bool.not_eq_false] at connected
  obtain ⟨other, held'⟩ := Option.isSome_iff_exists.mp connected
  have name := stirs.name
  have held'' : place'.floor.lobby.connectionAt? place.table.matchId session.seat = some other := by
    rw [← name]
    exact held'
  -- whoever is at the seat now was there before, so it is the one that has gone
  obtain ⟨session', found', here', seat'⟩ := stirs.mirrored.exists_session
    ((stirs.mirrored.bound _ _ _).mpr held'')
  rcases stirs.session other with same | ⟨gone', _⟩
  · obtain ⟨bound', _⟩ := Lobby.bound_of_session (same.symm.trans found')
    have before := (mirrored.bound other _ _).mp bound'
    rw [here', seat', held] at before
    obtain rfl := Option.some.inj before
    simp [gone] at found'
  · simp [gone'] at found'

variable (mirrored : place.floor.lobby.Mirrored) (seated : place.IsSeated)

include mirrored seated

theorem isHeard_of_players
    (same : place.broadcastRoom.roomView.players = place.roomView.players) : place.IsHeard := by
  have stirs := stirs_broadcast mirrored (.ofRoom place.roomView)
  intro connection queue told opens
  obtain ⟨session, found, here⟩ := seated connection queue told
  by_contra dropped
  have gone : place.broadcastRoom.floor.lobby.session connection = none := by
    by_contra stays
    exact dropped (stirs.told connection queue told opens (Option.isSome_iff_ne_none.mpr stays))
  obtain ⟨before, after⟩ := isConnected_of_unseated mirrored stirs found here gone
  rw [roomView_eq, roomView_eq] at same
  have same' : place.broadcastRoom.room.players = place.room.players := same
  rw [Room.isConnected_iff_players, ← same', ← Room.isConnected_iff_players] at before
  have after' : place.broadcastRoom.room.isConnected session.seat = false := after
  simp [before] at after'

omit mirrored seated in
theorem IsHeard.roomView (heard : place.IsHeard) : place.broadcastRoom.roomView = place.roomView := by
  obtain ⟨lagging, told⟩ := place.told_broadcast (.ofRoom place.roomView)
  have nobody : lagging = [] := by
    rw [List.eq_nil_iff_forall_not_mem]
    intro connection slow
    obtain ⟨queue, there, full⟩ := told.slow connection slow
    have opens : place.floor.isOpen queue := by
      rw [← told.isOpen]
      exact Floor.isOpen_of_isFull full
    exact ((told.subscribers connection queue).mp (heard connection queue there opens)).2.2 slow
  have lobby : place.broadcastRoom.floor.lobby = place.floor.lobby := by
    rw [broadcastRoom, told.lobby, nobody]
    rfl
  unfold AtTable.roomView
  rw [lobby]
  rfl

theorem Comes.isSeated {ρ : Type} {message : Message ρ} {upshot : Upshot ρ}
    (comes : place.Comes message upshot) : upshot.place.IsSeated := by
  have still : ∀ {mid : AtTable}, place.Quiet mid →
      Lobby.SameSeats place.floor.lobby mid.floor.lobby → mid.IsSeated := by
    intro mid quiet same connection queue told
    rw [quiet.table] at told ⊢
    rw [Lobby.session_of_same same]
    exact seated connection queue told
  have idly : ∀ {mid : AtTable}, place.Idle mid → mid.IsSeated :=
    fun idle => still idle.quiet (idle.lobby ▸ .refl _)
  cases comes with
  | @join connection token queue session before lobby quiet joined =>
    obtain ⟨_, here, sits, _, others⟩ :=
      (mirrored.join_yields connection token).answer session lobby joined
    intro other waiting told
    obtain ⟨told', sits'⟩ := Dict.get?_filter_eq_some.mp told
    have name : before.table.matchId = place.table.matchId := congrArg Table.matchId quiet.table
    by_cases same : other = connection
    · exact ⟨session, same ▸ sits, here.trans name.symm⟩
    · have told'' : place.table.subscribers.get? other = some waiting := by
        rw [← quiet.table]
        simpa [same] using told'
      obtain ⟨session', found, here'⟩ := seated other waiting told''
      rcases others other same with unmoved | ⟨gone, _⟩
      · exact ⟨session', unmoved.trans found, here'.trans name.symm⟩
      · have sits'' : (lobby.session other).isSome := by simpa using sits'
        simp [gone] at sits''
  | @setReady connection ready mid quiet _ readied =>
    exact still quiet (readied ▸ Lobby.sameSeats_setReady _ connection ready)
  | startHand quiet opens => exact still quiet opens.sameSeats
  | playCard quiet _ _ passed => exact still quiet (passed ▸ place.sameSeats_passTurn _ _)
  | getState idle => exact idly idle
  | @leave connection =>
    intro other queue told
    rw [getUp, Dict.get?_erase] at told
    split at told
    next => cases told
    next apart =>
      obtain ⟨session, found, here⟩ := seated other queue told
      exact ⟨session, (mirrored.session_leave apart).trans found, here⟩
  | close => exact seated
  | refused idle => exact idly idle

end Heard

theorem Sitting.isSeated {matchId : MatchId} {place : AtTable} (sitting : Sitting matchId place) :
    place.IsSeated := by
  induction sitting with
  | opened _ _ nobody _ =>
    intro connection queue told
    simp [nobody] at told
  | @handled before _ sitting message seated =>
    have comes := before.comes_upshot message
    rw [handle_eq]
    exact (stirs_told (comes.mirrored sitting.mirrored)).isSeated (comes.isSeated sitting.mirrored seated)
  | @aside before _ sitting other fewer mirrored seated =>
    intro connection queue told
    obtain ⟨session, found, here⟩ := seated connection queue (fewer connection queue told)
    have name := sitting.run.follows.elim fun _ follows => follows.name
    refine ⟨session, ?_, here.trans (name.trans other.name.symm)⟩
    exact sitting.mirrored.session_of_room mirrored other.room found (here.trans name)

end AtTable

/-- The last state of the room of a match that was put into each queue. -/
abbrev Pictures := QueueId → Option Event

def Pictures.after (pictures : Pictures) (place place' : AtTable) : Pictures := fun queue =>
  let told := (place'.floor.waitingIn queue).drop (place.floor.waitingIn queue).length
  (told.filter Event.isRoomState).getLast?.or (pictures queue)

/-- Whether what those at the table were told last is the state of the room after a message: nobody is
unseated over the news of it, or nothing is told and the state that was shown before is the same. -/
def Upshot.IsShown {ρ : Type} (place : AtTable) (shown : Prop) (upshot : Upshot ρ) : Prop :=
  match upshot.news with
  | some news => (news.foldl AtTable.broadcast upshot.place).IsHeard
  | none => shown ∧ upshot.place.roomView = place.roomView

namespace AtTable

/-- The table of a match from the first one on, the last states of its room that were put into the
queues, and whether the room is still in that state. -/
inductive Watched (matchId : MatchId) : AtTable → Pictures → Prop → Prop where
  | opened {place : AtTable} (name : place.table.matchId = matchId)
      (unoccupied : place.floor.lobby.rooms.get? matchId = none)
      (nobody : ∀ connection, place.table.subscribers.get? connection = none)
      (mirrored : place.floor.lobby.Mirrored) : Watched matchId place (fun _ => none) True
  | handled {place : AtTable} {pictures : Pictures} {shown : Prop} {ρ : Type}
      (before : Watched matchId place pictures shown) (message : Message ρ) :
      Watched matchId (AtTable.handle message place).2
        (pictures.after place (AtTable.handle message place).2)
        ((message.upshot place).IsShown place shown)
  | aside {place place' : AtTable} {pictures : Pictures} {shown : Prop}
      (before : Watched matchId place pictures shown) (other : Aside matchId place place')
      (fewer : ∀ connection queue, place'.table.subscribers.get? connection = some queue →
        place.table.subscribers.get? connection = some queue)
      (mirrored : place'.floor.lobby.Mirrored) : Watched matchId place' pictures shown

/-- Whether those at a table were told a state of the room last, and the one that it has exactly if
it is shown. A state that is not shown may differ in its players, or in a turn that was given since,
but a turn that is gone was told to be gone. -/
def IsPictured (place : AtTable) (pictures : Pictures) (shown : Prop) : Prop :=
  ∀ connection queue, place.table.subscribers.get? connection = some queue →
    ∃ view, pictures queue = some (.ofRoom view) ∧ (view = place.roomView ↔ shown) ∧
      (view.players = place.roomView.players → place.roomView.currentTurn = none →
        view.currentTurn = none)

section Pictures

variable {matchId : MatchId} {place : AtTable} {pictures : Pictures} {shown : Prop}

theorem Watched.sitting (watched : Watched matchId place pictures shown) : Sitting matchId place := by
  induction watched with
  | opened name unoccupied nobody mirrored => exact .opened name unoccupied nobody mirrored
  | handled _ message sitting => exact sitting.handled message
  | aside _ other fewer mirrored sitting => exact sitting.aside other fewer mirrored

/-- Once things are announced everybody has been told a state of the room, which is the present one
exactly if nobody was unseated over it. -/
theorem isPictured_announce {mid : AtTable} (mirrored : mid.floor.lobby.Mirrored) (seated : mid.IsSeated)
    (queues : mid.floor.queues = place.floor.queues) (news : List Event) :
    (mid.announce news).IsPictured (pictures.after place (mid.announce news))
      (news.foldl broadcast mid).IsHeard := by
  have stirs := stirs_news mirrored news
  have shows : (mid.announce news).roomView.players = (news.foldl broadcast mid).roomView.players →
      (news.foldl broadcast mid).IsHeard :=
    isHeard_of_players stirs.mirrored (stirs.isSeated seated)
  intro connection queue listens
  obtain ⟨tail, sent, last⟩ := mid.waitingIn_announce news queue
  have before : place.floor.waitingIn queue = mid.floor.waitingIn queue := by
    rw [Floor.waitingIn, Floor.waitingIn, queues]
  refine ⟨(news.foldl broadcast mid).roomView, ?_, ⟨?_, ?_⟩, ?_⟩
  · unfold Pictures.after
    dsimp only
    rw [sent, before, List.drop_left, getLast?_filter_of_last (last connection listens) rfl]
    rfl
  · exact fun same => shows (congrArg RoomView.players same.symm)
  · exact fun heard => heard.roomView.symm
  · intro same turn
    have still : (mid.announce news).roomView = (news.foldl broadcast mid).roomView :=
      (shows same.symm).roomView
    rw [← still, turn]

/-- What the room may come to without anybody being told: a turn that nobody had is given. -/
def Slips (place mid : AtTable) : Prop :=
  mid.roomView = place.roomView ∨ mid.roomView.players = place.roomView.players ∧
    place.roomView.currentTurn = none ∧ mid.roomView.currentTurn ≠ none

/-- While nobody is told anything, what was told stays right exactly if the room stays the same. -/
theorem IsPictured.slips {mid : AtTable} (pictured : place.IsPictured pictures shown)
    (queues : mid.floor.queues = place.floor.queues)
    (fewer : ∀ connection queue, mid.table.subscribers.get? connection = some queue →
      place.table.subscribers.get? connection = some queue)
    (slips : place.Slips mid) :
    mid.IsPictured (pictures.after place mid) (shown ∧ mid.roomView = place.roomView) := by
  intro connection queue listens
  obtain ⟨view, told, same, turn⟩ := pictured connection queue (fewer connection queue listens)
  have kept : pictures.after place mid queue = pictures queue := by
    simp [Pictures.after, Floor.waitingIn, queues]
  refine ⟨view, kept.trans told, ?_⟩
  rcases slips with still | ⟨players, before, after⟩
  · rw [still]
    exact ⟨same.trans (and_iff_left rfl).symm, turn⟩
  · refine ⟨iff_of_false ?_ ?_, fun _ now => absurd now after⟩
    · rintro rfl
      exact after (turn players before)
    · rintro ⟨_, now⟩
      exact after (now ▸ before)

theorem Opens.slips {mid : AtTable} {hand : Option Hand} (follows : place.Follows matchId hand)
    (quiet : place.Quiet mid) (opens : place.Opens mid) : place.Slips mid := by
  obtain ⟨taken, kind⟩ := opens.room_cases quiet
  have shows : ∀ room', mid.room = room' → mid.roomView = room'.view place.table.matchId := by
    rintro _ rfl
    rw [roomView_eq, quiet.table]
  unfold Slips
  rw [place.roomView_eq]
  rcases kind with ⟨none', _, begun⟩ | ⟨_, awaiting, resumed⟩
  · rw [shows _ begun]
    exact Or.inr ⟨rfl, follows.turn_eq_none none', Option.some_ne_none _⟩
  · rw [shows _ resumed]
    cases turn : place.room.turn with
    | some seat =>
      have same := (Room.resumeHand_eq_self_iff taken awaiting).mpr (turn ▸ Option.some_ne_none seat)
      exact Or.inl (by rw [same])
    | none =>
      have players : (place.room.resumeHand awaiting).players = place.room.players := by
        unfold Room.players Room.chair?
        rw [Room.chairs_resumeHand]
      have given : (place.room.resumeHand awaiting).turn ≠ none :=
        Room.turn_resumeHand_ne_none taken awaiting
      exact Or.inr ⟨players, turn, given⟩

/-- A message of which nobody is told gives a turn at most, and brings nobody to the table. -/
theorem Comes.untold {ρ : Type} {message : Message ρ} {upshot : Upshot ρ} {hand : Option Hand}
    (comes : place.Comes message upshot) (follows : place.Follows matchId hand)
    (untold : upshot.news = none) : place.Slips upshot.place ∧
      ∀ connection queue, upshot.place.table.subscribers.get? connection = some queue →
        place.table.subscribers.get? connection = some queue := by
  have idly : ∀ {mid : AtTable}, place.Idle mid → place.Slips mid ∧
      ∀ connection queue, mid.table.subscribers.get? connection = some queue →
        place.table.subscribers.get? connection = some queue := by
    intro mid idle
    refine ⟨Or.inl ?_, ?_⟩
    · rw [roomView_eq, roomView_eq, idle.room, idle.table]
    · rw [idle.table]
      exact fun _ _ => id
  cases comes with
  | join => cases untold
  | setReady => cases untold
  | startHand quiet opens =>
    -- the hand was begun or taken up, and then the call failed
    refine ⟨opens.slips follows quiet, ?_⟩
    rw [quiet.table]
    exact fun _ _ => id
  | playCard => cases untold
  | getState idle => exact idly idle
  | @leave connection =>
    have stays := Lobby.leave_eq_self (Option.map_eq_none_iff.mp untold)
    refine ⟨Or.inl ?_, ?_⟩
    · unfold AtTable.roomView getUp
      rw [stays]
    · intro other queue told
      rw [getUp, Dict.get?_erase] at told
      split at told
      next => cases told
      next => exact told
  | close => exact ⟨Or.inl rfl, fun _ _ => id⟩
  | refused idle => exact idly idle

theorem Watched.isPictured (watched : Watched matchId place pictures shown) :
    place.IsPictured pictures shown := by
  induction watched with
  | opened _ _ nobody _ =>
    intro connection queue listens
    simp [nobody] at listens
  | @handled before _ _ _ watched message pictured =>
    have sitting := watched.sitting
    obtain ⟨hand, follows⟩ := sitting.run.follows
    have comes := before.comes_upshot message
    rw [handle_eq]
    generalize message.upshot before = upshot at comes ⊢
    unfold Upshot.IsShown Upshot.told
    cases told : upshot.news with
    | some news =>
      exact isPictured_announce (comes.mirrored sitting.mirrored)
        (comes.isSeated sitting.mirrored sitting.isSeated) comes.queues news
    | none =>
      obtain ⟨slips, fewer⟩ := comes.untold follows told
      exact pictured.slips comes.queues fewer slips
  | @aside before after pictures shown watched other fewer _ pictured =>
    have name := watched.sitting.run.follows.elim fun _ follows => follows.name
    have same : after.roomView = before.roomView := by
      rw [roomView_eq, roomView_eq, AtTable.room, AtTable.room, other.name, name, Lobby.room, Lobby.room,
        other.room]
    intro connection queue listens
    rw [same]
    exact pictured connection queue (fewer connection queue listens)

/-- The last state of the room that somebody at the table of a match was told is the one that the
room has, exactly when it is shown: nobody was unseated over the last news of it, and no turn was
given since in a call that failed. -/
theorem Watched.picture_iff (watched : Watched matchId place pictures shown)
    {connection : ConnectionId} {queue : QueueId}
    (listens : place.table.subscribers.get? connection = some queue) :
    pictures queue = some (.ofRoom place.roomView) ↔ shown := by
  obtain ⟨view, told, same, _⟩ := watched.isPictured connection queue listens
  rw [told, Option.some_inj, Event.ofRoom_injective.eq_iff, same]

theorem Watched.handledAll (watched : Watched matchId place pictures shown)
    (messages : List (Sigma Message)) :
    ∃ pictures' shown', Watched matchId (handleAll messages place) pictures' shown' := by
  induction messages generalizing place pictures shown with
  | nil => exact ⟨pictures, shown, watched⟩
  | cons message rest ih => exact ih (watched.handled message.2)

theorem isHeard_of_entries (same : place.broadcastRoom.table.subscribers.entries =
    place.table.subscribers.entries) : place.IsHeard := by
  intro connection queue told _
  rw [← Dict.mem_entries, same, Dict.mem_entries]
  exact told

/-- The table of a match that was just created, and some queues. -/
def newTableWith (queues : Dict QueueId EventQueue) : AtTable :=
  { newTable with floor := { newTable.floor with queues } }

theorem watched_newTableWith (queues : Dict QueueId EventQueue) :
    Watched "match_1" (newTableWith queues) (fun _ => none) True :=
  .opened rfl rfl (fun _ => rfl) Lobby.mirrored_empty

/-- The table of a match that was just created, and four queues, the first one with room for nine
events: the last of them is the beginning of the first hand. -/
def crammed : AtTable :=
  let queues := ((Dict.empty.insert 0 (.empty 9)).insert 1 (.empty 64)).insert 2 (.empty 64)
  newTableWith (queues.insert 3 (.empty 64))

/-- The first player is unseated over the state of the match, and the others are told of it. -/
theorem Watched.picture_iff_hand_begun : ∃ place pictures shown, Watched "match_1" place pictures shown ∧
    place.room.isConnected .t1a = false ∧ place.room.turn = some .t2a ∧
    pictures 1 = some (.ofRoom place.roomView) := by
  let call : Message (Except Refusal HandStart) := .startHand "b" (some .four)
  obtain ⟨place, ⟨pictures, shown, ready⟩, listens, away, turn, told⟩ :
      ∃ place, (∃ pictures shown, Watched "match_1" place pictures shown) ∧
        (handle call place).2.table.subscribers.get? "b" = some 1 ∧
        (handle call place).2.room.isConnected .t1a = false ∧
        (handle call place).2.room.turn = some .t2a ∧
        (call.upshot place).news.any (fun news =>
          let place := news.foldl broadcast (call.upshot place).place
          decide (place.broadcastRoom.table.subscribers.entries = place.table.subscribers.entries)) :=
    ⟨_, (watched_newTableWith _ : Watched _ crammed _ _).handledAll openingMessages.dropLast,
      by decide +kernel, by decide +kernel, by decide +kernel, by decide +kernel⟩
  have watched := ready.handled call
  refine ⟨_, _, _, watched, away, turn, (watched.picture_iff listens).mpr ?_⟩
  obtain ⟨news, announced, heard⟩ := (Option.any_eq_true _ _).mp told
  rw [Upshot.IsShown, announced]
  exact isHeard_of_entries (of_decide_eq_true heard)

/-- The second player to sit down is told that the first one is connected, but that player is unseated
over just this news. -/
theorem picture_stale_after_unseating : ∃ place pictures shown, Watched "match_1" place pictures shown ∧
    place.table.subscribers.get? "b" = some 1 ∧ place.room.isConnected .t1a = false ∧
    pictures 1 ≠ some (.ofRoom place.roomView) := by
  have joined := watched_newTableWith ((Dict.empty.insert 0 (.empty 1)).insert 1 (.empty 64))
    |>.handled (.join "a" "ana" 0)
    |>.handled (.join "b" "bia" 1)
  exact ⟨_, _, _, joined, by decide +kernel, by decide +kernel, by decide +kernel⟩

end Pictures

end AtTable

end TrucoPaulista
