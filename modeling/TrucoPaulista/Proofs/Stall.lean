import TrucoPaulista.Proofs.Announce

namespace TrucoPaulista

namespace Room

/-- Whether the turn is at a seat without a connection. -/
def isDeserted (room : Room) : Bool := room.turn.any (fun seat => !room.isConnected seat)

/-- Whether somebody is connected who may play now. -/
def hasPlayer (room : Room) : Bool :=
  Seat.all.any (fun seat => room.isConnected seat && room.mayPlay seat)

/-- Whether the turn waits for somebody who is gone while another may play. -/
def isStalled (room : Room) : Bool := room.isDeserted && room.hasPlayer

/-- What a room becomes while connections go: whoever may play is not kept waiting for a seat that
was left. -/
structure Thins (room room' : Room) : Prop where
  fewer : ∀ seat, room'.isConnected seat → room.isConnected seat
  awaiting : room'.awaiting = room.awaiting
  deserted : room'.hasPlayer → room'.isDeserted = room.isDeserted

section Turns

variable {room room' mid : Room} {seat : Seat}

theorem isDeserted_iff : room.isDeserted ↔
    ∃ seat, room.turn = some seat ∧ room.isConnected seat = false := by
  simp [isDeserted, Option.any_eq_true]

theorem hasPlayer_iff : room.hasPlayer ↔ ∃ seat, room.isConnected seat ∧ room.mayPlay seat := by
  simp only [hasPlayer, List.any_eq_true, Bool.and_eq_true]
  constructor
  · rintro ⟨seat, _, player⟩
    exact ⟨seat, player⟩
  · rintro ⟨seat, player⟩
    exact ⟨seat, by cases seat <;> simp [Seat.all], player⟩

theorem isConnected_eq : room.isConnected seat = (room.connectionAt? seat).isSome := rfl

theorem isTaken_of_isConnected (connected : room.isConnected seat) : room.isTaken seat := by
  unfold isTaken
  cases there : room.chair? seat with
  | none => simp [isConnected, there] at connected
  | some chair => rfl

theorem isDeserted_congr (turn : room'.turn = room.turn)
    (connected : ∀ seat, room'.isConnected seat = room.isConnected seat) :
    room'.isDeserted = room.isDeserted := by
  unfold isDeserted
  simp only [turn, connected]

theorem isConnected_of_nextLiveTurn {next : Seat} (player : room.hasPlayer)
    (found : room.nextLiveTurn seat = some next) : room.isConnected next := by
  obtain ⟨live, connected, may⟩ := hasPlayer_iff.mp player
  have candidate : live ∈ room.candidates seat := by
    refine List.mem_filter.mpr ⟨by cases seat <;> cases live <;> simp [Seat.successors], ?_⟩
    simp [isTaken_of_isConnected connected, may]
  unfold nextLiveTurn at found
  rcases chosen : (room.candidates seat).find? room.isConnected with _ | first
  · exact absurd connected (List.find?_eq_none.mp chosen live candidate)
  · rw [chosen, Option.some_or] at found
    exact Option.some.inj found ▸ List.find?_some chosen

theorem Thins.refl (room : Room) : room.Thins room := ⟨fun _ => id, rfl, fun _ => rfl⟩

theorem Thins.hasPlayer (thins : room.Thins room') (player : room'.hasPlayer) : room.hasPlayer := by
  obtain ⟨seat, connected, may⟩ := hasPlayer_iff.mp player
  refine hasPlayer_iff.mpr ⟨seat, thins.fewer seat connected, ?_⟩
  rwa [mayPlay, ← thins.awaiting]

theorem Thins.trans (first : room.Thins mid) (second : mid.Thins room') : room.Thins room' where
  fewer seat connected := first.fewer seat (second.fewer seat connected)
  awaiting := second.awaiting.trans first.awaiting
  deserted player := (second.deserted player).trans (first.deserted (second.hasPlayer player))

theorem turn_disconnect (seat : Seat) (connection : ConnectionId) :
    (room.disconnect seat connection).turn = room.turn ∧
      (room.disconnect seat connection).awaiting = room.awaiting := by
  unfold disconnect
  split
  next => split <;> exact ⟨rfl, rfl⟩
  next => exact ⟨rfl, rfl⟩

theorem thins_leave {connection : ConnectionId} (held : room.connectionAt? seat = some connection) :
    room.Thins ((room.disconnect seat connection).passTurn seat) := by
  obtain ⟨turn, awaiting⟩ := room.turn_disconnect seat connection
  have connections : ∀ query, (room.disconnect seat connection).connectionAt? query =
      if query = seat then none else room.connectionAt? query :=
    fun _ => room.connectionAt?_disconnect connection held
  generalize room.disconnect seat connection = left at *
  have connected : ∀ query, (left.passTurn seat).isConnected query =
      (decide (query ≠ seat) && room.isConnected query) := by
    intro query
    rw [isConnected_eq, connectionAt?, chair?, chairs_passTurn]
    change (left.connectionAt? query).isSome = _
    rw [connections]
    by_cases same : query = seat <;> simp [same, isConnected_eq]
  refine ⟨?_, ?_, ?_⟩
  · intro query still
    rw [connected, Bool.and_eq_true] at still
    exact still.2
  · rw [← awaiting]
    unfold passTurn
    split <;> rfl
  · intro player
    by_cases here : room.turn = some seat
    · -- the turn was at the seat that is left, and passes to a live one since there is a player
      have passed : left.passTurn seat = { left with turn := left.nextLiveTurn seat } := by
        rw [passTurn, turn, if_pos here]
      have before : room.isDeserted = false := by
        simp [isDeserted, here, isConnected_eq, held]
      rw [before, ← Bool.not_eq_true, isDeserted_iff]
      rintro ⟨next, found, away⟩
      rw [passed] at player found away
      have player' : left.hasPlayer := player
      have away' : left.isConnected next = false := away
      simp [isConnected_of_nextLiveTurn player' found] at away'
    · have kept : left.passTurn seat = left := by rw [passTurn, turn, if_neg here]
      unfold isDeserted
      rw [kept, turn]
      cases current : room.turn with
      | none => rfl
      | some query =>
        have apart : query ≠ seat := by
          rintro rfl
          exact here current
        rw [← kept]
        simp [connected, apart]

theorem isDeserted_seated (turn : room'.turn = room.turn)
    (connected : ∀ query, room'.isConnected query = (decide (query = seat) || room.isConnected query)) :
    room'.isDeserted ↔ room.isDeserted ∧ room.turn ≠ some seat := by
  rw [isDeserted_iff, isDeserted_iff, turn]
  constructor
  · rintro ⟨query, current, away⟩
    rw [connected, Bool.or_eq_false_iff, decide_eq_false_iff_not] at away
    refine ⟨⟨query, current, away.2⟩, ?_⟩
    intro here
    exact away.1 (Option.some.inj (current.symm.trans here))
  · rintro ⟨⟨query, current, away⟩, elsewhere⟩
    have apart : query ≠ seat := by
      rintro rfl
      exact elsewhere current
    exact ⟨query, current, by simp [connected, apart, away]⟩

theorem isDeserted_beginHand : room.beginHand.isDeserted = !room.isConnected .t1a := rfl

theorem isDeserted_resumeHand (awaiting : Option Side) (player : (room.resumeHand awaiting).hasPlayer) :
    (room.resumeHand awaiting).isDeserted = room.isDeserted := by
  unfold resumeHand at player ⊢
  split at player
  next => rfl
  next none' =>
    have before : room.isDeserted = false := by simp [isDeserted, none']
    rw [before, ← Bool.not_eq_true, isDeserted_iff]
    rintro ⟨next, found, away⟩
    have player' : hasPlayer { room with awaiting } := player
    have away' : isConnected { room with awaiting } next = false := away
    simp [isConnected_of_nextLiveTurn player' found] at away'

theorem isDeserted_advanceTurn {awaiting : Option Side} (turn : room.turn = some seat) :
    (room.advanceTurn awaiting).isDeserted ↔
      ∃ next, nextTurn { room with awaiting } seat = some next ∧ room.isConnected next = false := by
  unfold advanceTurn
  rw [isDeserted_iff, turn]
  rfl

end Turns

end Room

namespace Lobby

/-- Whether nothing but the going of connections has happened to the room of a match. -/
def Thins (matchId : MatchId) (lobby lobby' : Lobby) : Prop :=
  ∀ room', lobby'.rooms.get? matchId = some room' →
    ∃ room, lobby.rooms.get? matchId = some room ∧ room.Thins room'

section Rooms

variable {lobby lobby' mid : Lobby} {matchId : MatchId}

theorem Thins.refl (lobby : Lobby) : Thins matchId lobby lobby := fun room found => ⟨room, found, .refl room⟩

theorem Thins.trans (first : Thins matchId lobby mid) (second : Thins matchId mid lobby') :
    Thins matchId lobby lobby' := by
  intro room' found
  obtain ⟨room, between, thins⟩ := second room' found
  obtain ⟨room'', before, thins'⟩ := first room between
  exact ⟨room'', before, thins'.trans thins⟩

theorem Thins.room (thins : Thins matchId lobby lobby') (player : (lobby'.room matchId).hasPlayer) :
    (lobby.room matchId).Thins (lobby'.room matchId) := by
  cases found : lobby'.rooms.get? matchId with
  | none =>
    have closed : lobby'.room matchId = .empty := by rw [Lobby.room, found]; rfl
    rw [closed] at player
    cases player
  | some room' =>
    obtain ⟨room, before, thins'⟩ := thins room' found
    rwa [lobby'.room_of_get? matchId found, lobby.room_of_get? matchId before]

theorem Mirrored.thins_leave (mirrored : lobby.Mirrored) (connection : ConnectionId) :
    Thins matchId lobby (lobby.leave connection).2 := by
  intro room' found
  obtain ⟨room, before, same | ⟨seat, bound, rfl⟩⟩ := Lobby.room_of_leave found
  · exact ⟨room, before, same ▸ .refl room⟩
  · have held := (mirrored.bound connection matchId seat).mp bound
    rw [Lobby.connectionAt?, lobby.room_of_get? matchId before] at held
    exact ⟨room, before, Room.thins_leave held⟩

theorem turn_setReady (lobby : Lobby) (connection : ConnectionId) (ready : Bool) :
    ((lobby.setReady connection ready).2.room matchId).turn = (lobby.room matchId).turn := by
  unfold setReady
  split
  next => rfl
  next name seat _ =>
    split
    next => rfl
    next room found =>
      split
      next => rfl
      next chair _ =>
        unfold Lobby.room
        rw [Dict.get?_insert]
        split
        next same => simp [same, found, Room.sit]
        next => rfl

theorem turn_of_isPlayersTurn {connection : ConnectionId} {session : Session}
    (turn : lobby.isPlayersTurn connection matchId) (seated : lobby.session connection = some session) :
    ∃ room, lobby.rooms.get? matchId = some room ∧ room.turn = some session.seat := by
  unfold isPlayersTurn at turn
  rw [(bound_of_session seated).1] at turn
  simp only [currentTurn, Bool.and_eq_true, decide_eq_true_eq, Option.bind_eq_some_iff] at turn
  exact turn.2

/-- A turn at a seat without a connection stays so until somebody sits down there. -/
theorem Mirrored.isDeserted_join (mirrored : lobby.Mirrored) {connection : ConnectionId}
    {token : String} {session : Session}
    (joined : lobby.join matchId connection token = (.ok session, lobby')) :
    (lobby'.room matchId).isDeserted ↔
      (lobby.room matchId).isDeserted ∧ (lobby.room matchId).turn ≠ some session.seat := by
  rcases lobby.join_cases matchId connection token with
    ⟨_, refused⟩ | ⟨session', found, rfl, again⟩ | ⟨seat, _, _, _, taken⟩
  · cases joined.symm.trans refused
  · obtain ⟨same, rfl⟩ := Prod.mk.inj (joined.symm.trans again)
    obtain rfl := Except.ok.inj same
    have held := (mirrored.bound connection _ _).mp (bound_of_session found).1
    -- the room is the same, and the connection was at its seat already
    refine Room.isDeserted_seated rfl ?_
    intro query
    by_cases here : query = session.seat
    · have connected : (lobby'.room session.matchId).isConnected session.seat := by
        rw [Room.isConnected_eq]
        exact Option.isSome_of_eq_some held
      simp [here, connected]
    · simp [here]
  · obtain ⟨same, rfl⟩ := Prod.mk.inj (joined.symm.trans taken)
    obtain rfl := Except.ok.inj same
    rw [room_take, if_pos rfl]
    refine Room.isDeserted_seated rfl ?_
    intro query
    simp only [Room.isConnected_eq, Room.take, Room.connectionAt?_sit]
    by_cases here : query = seat <;> simp [here]

end Rooms

end Lobby

/-- The side that is awaited after a card. -/
def CardPlayed.awaited (played : CardPlayed) : Option Side :=
  if played.result.outcome.round.isNone then some played.seat.side.other else none

/-- When a message leaves the turn at a seat without a connection: whoever sits down may fill that
seat, a hand begins at the first seat whoever is there, and a card passes the turn to the next seat
that may play whether anybody is there or not. Otherwise it is as before. -/
def Message.Deserts {ρ : Type} (place : AtTable) : Message ρ → ρ → AtTable → Prop
  | .join _ _ _, .ok session, _ => place.room.isDeserted ∧ place.room.turn ≠ some session.seat
  | .startHand _ _, _, place' =>
    if place.hand.isNone && place'.hand.isSome then place.room.isConnected .t1a = false
    else place.room.isDeserted
  | .playCard _ _, .ok played, _ => played.result.outcome.handCompleted = false ∧
      ∃ next, Room.nextTurn { place.room with awaiting := played.awaited } played.seat = some next ∧
        place.room.isConnected next = false
  | _, _, _ => place.room.isDeserted

theorem Message.deserts_congr {ρ : Type} {place mid place' : AtTable} {message : Message ρ} {reply : ρ}
    (same : place'.hand = mid.hand) :
    message.Deserts place reply place' ↔ message.Deserts place reply mid := by
  cases message with
  | startHand => simp only [Message.Deserts, same]
  | join => cases reply <;> rfl
  | playCard => cases reply <;> rfl
  | _ => rfl

theorem Message.deserts_of_refused {ρ : Type} {place mid : AtTable} {message : Message ρ} {reply : ρ}
    (refused : message.isRefusal reply) (same : mid.hand = place.hand) :
    message.Deserts place reply mid ↔ place.room.isDeserted := by
  cases message with
  | startHand =>
    have old : ¬(place.hand.isNone && mid.hand.isSome) = true := by
      rw [same]
      cases place.hand <;> simp
    simp only [Message.Deserts, if_neg old]
  | join =>
    cases reply with
    | error => rfl
    | ok => cases refused
  | playCard =>
    cases reply with
    | error => rfl
    | ok => cases refused
  | _ => rfl

namespace AtTable

section Turns

variable {place : AtTable}

/-- A hand begins with the turn at the first seat, whoever is there. When it is taken up again, a turn
at a seat without a connection stays so. -/
theorem Opens.isDeserted {mid : AtTable} (quiet : place.Quiet mid) (opens : place.Opens mid)
    (player : mid.room.hasPlayer) : mid.room.isDeserted ↔
      if place.hand.isNone && mid.hand.isSome then place.room.isConnected .t1a = false
      else place.room.isDeserted := by
  obtain ⟨_, ⟨none', some', begun⟩ | ⟨some', awaiting, resumed⟩⟩ := opens.room_cases quiet
  · have fresh : (place.hand.isNone && mid.hand.isSome) = true := by
      simp [none', Option.isSome_iff_ne_none, some']
    rw [if_pos fresh, begun, Room.isDeserted_beginHand]
    simp
  · have old : ¬(place.hand.isNone && mid.hand.isSome) = true := by simp [some']
    rw [resumed] at player ⊢
    rw [if_neg old, Room.isDeserted_resumeHand awaiting player]

/-- A card leaves the turn at a seat without a connection exactly if the hand goes on and the next seat
that may play is one. -/
theorem isDeserted_passTurn {mid : AtTable} {connection : ConnectionId} {played : CardPlayed}
    (quiet : place.Quiet mid)
    (seated : ∃ session, place.floor.lobby.session connection = some session ∧
      session.matchId = place.table.matchId ∧ played.seat = session.seat)
    (turn : place.floor.lobby.isPlayersTurn connection place.table.matchId)
    (passed : mid.floor.lobby = (passTurn played.seat.side played.result.outcome place).floor.lobby) :
    mid.room.isDeserted ↔ played.result.outcome.handCompleted = false ∧
      ∃ next, Room.nextTurn { place.room with awaiting := played.awaited } played.seat = some next ∧
        place.room.isConnected next = false := by
  obtain ⟨session, found, _, at'⟩ := seated
  obtain ⟨room, there, current⟩ := Lobby.turn_of_isPlayersTurn turn found
  rw [← at'] at current
  have before : place.room = room := Lobby.room_of_get? _ _ there
  unfold AtTable.passTurn at passed
  dsimp only at passed
  have after : mid.room = if played.result.outcome.handCompleted then room.endHand
      else room.advanceTurn played.awaited := by
    rw [AtTable.room, quiet.table, passed]
    split
    next => exact Lobby.room_change there _
    next => exact Lobby.room_change there _
  rw [after, before]
  cases played.result.outcome.handCompleted with
  | true => simp [Room.endHand, Room.isDeserted]
  | false => simpa using Room.isDeserted_advanceTurn current

/-- Before anybody is told of a message, and while a player is there, the turn is at a seat without a
connection exactly if the message leaves it there. -/
theorem Comes.isDeserted_iff {ρ : Type} {message : Message ρ} {upshot : Upshot ρ}
    (comes : place.Comes message upshot) (mirrored : place.floor.lobby.Mirrored)
    (player : upshot.place.room.hasPlayer) :
    upshot.place.room.isDeserted ↔ message.Deserts place upshot.reply upshot.place := by
  cases comes with
  | @join connection token queue session before lobby quiet joined =>
    have stands : AtTable.room (subscribe connection queue
        { before with floor := { before.floor with lobby } }) = lobby.room place.table.matchId := by
      rw [← quiet.table]
      rfl
    dsimp only
    rw [stands]
    exact mirrored.isDeserted_join joined
  | @setReady connection ready mid quiet seated readied =>
    have kept := Lobby.sameSeats_setReady place.floor.lobby connection ready
    have deserted : mid.room.isDeserted = place.room.isDeserted := by
      refine Room.isDeserted_congr ?_ ?_
      · rw [AtTable.room, quiet.table, readied]
        exact Lobby.turn_setReady _ connection ready
      · intro seat
        rw [AtTable.room, quiet.table, readied]
        exact congrArg Option.isSome (kept.connectionAt? _ seat)
    exact deserted ▸ Iff.rfl
  | startHand quiet opens => exact opens.isDeserted quiet player
  | playCard quiet seated turn passed => exact isDeserted_passTurn quiet seated turn passed
  | getState idle => exact idle.room ▸ Iff.rfl
  | @leave connection => exact ((mirrored.thins_leave connection).room player).deserted player ▸ Iff.rfl
  | close => exact Iff.rfl
  | refused idle refused =>
    rw [Message.deserts_of_refused refused idle.hand]
    exact idle.room ▸ Iff.rfl

theorem thins_told {ρ : Type} {upshot : Upshot ρ} (mirrored : upshot.place.floor.lobby.Mirrored)
    (matchId : MatchId) : Lobby.Thins matchId upshot.place.floor.lobby upshot.told.floor.lobby := by
  have leaves : ∀ (lobby : Lobby) (connection : ConnectionId),
      lobby.Mirrored ∧ Lobby.Thins matchId upshot.place.floor.lobby lobby →
      (lobby.leave connection).2.Mirrored ∧
        Lobby.Thins matchId upshot.place.floor.lobby (lobby.leave connection).2 := by
    rintro lobby connection ⟨still, thins⟩
    exact ⟨still.leave connection, thins.trans (still.thins_leave connection)⟩
  exact (lobby_told leaves ⟨mirrored, .refl _⟩).2

/-- The turn waits for somebody who is gone, while another could play, exactly when the message has
left it at a seat without a connection. Whoever loses a seat over being told never has the turn
wait. -/
theorem Sitting.stalled_iff {matchId : MatchId} (sitting : Sitting matchId place) {ρ : Type}
    (message : Message ρ) : (handle message place).2.room.isStalled ↔
      (handle message place).2.room.hasPlayer ∧
        message.Deserts place (handle message place).1 (handle message place).2 := by
  have comes := place.comes_upshot message
  rw [handle_eq, Room.isStalled, Bool.and_eq_true, and_comm]
  refine and_congr_right (fun player => ?_)
  dsimp only at player ⊢
  generalize message.upshot place = upshot at comes player ⊢
  obtain ⟨name, archive⟩ := told_keeps upshot
  have after : upshot.told.room = upshot.told.floor.lobby.room upshot.place.table.matchId := by
    rw [AtTable.room, name]
  rw [after] at player
  have thins := (thins_told (comes.mirrored sitting.mirrored) upshot.place.table.matchId).room player
  calc upshot.told.room.isDeserted
      ↔ upshot.place.room.isDeserted := by
        rw [after, thins.deserted player]
        rfl
    _ ↔ message.Deserts place upshot.reply upshot.place :=
        comes.isDeserted_iff sitting.mirrored (thins.hasPlayer player)
    _ ↔ message.Deserts place upshot.reply upshot.told :=
        (Message.deserts_congr (by rw [hand, hand, name, archive])).symm

/-- The player on the turn leaves in the middle of a round, and a partner of the same side has it. -/
theorem Sitting.stalled_iff_leaving_on_turn : ∃ place, Sitting "match_1" place ∧
    place.room.turn = some .t2a ∧ (handle (.leave "c") place).2.room.turn = some .t2b ∧
    (handle (.leave "c") place).2.room.isStalled = false := by
  have played := sitting_newTable.handledAll (openingMessages ++ [⟨_, .playCard "a" ⟨.three, .clubs⟩⟩])
  obtain ⟨place, sitting, turn, turn', steady⟩ : ∃ place, Sitting "match_1" place ∧
      place.room.turn = some .t2a ∧ (handle (.leave "c") place).2.room.turn = some .t2b ∧
      place.room.isDeserted = false :=
    ⟨_, played, by decide +kernel, by decide +kernel, by decide +kernel⟩
  refine ⟨place, sitting, turn, turn', ?_⟩
  rw [← Bool.not_eq_true, sitting.stalled_iff (.leave "c")]
  rintro ⟨_, deserted⟩
  have deserted' : place.room.isDeserted := deserted
  simp [steady] at deserted'

/-- A player leaves before the turn comes to the seat. The next card passes it there, although the
partner is connected and may play. -/
theorem turn_passes_to_deserted_seat : ∃ place, Sitting "match_1" place ∧
    place.room.turn = some .t2a ∧ place.room.isConnected .t2a = false ∧
    place.room.isConnected .t2b ∧ place.room.mayPlay .t2b := by
  have played := sitting_newTable.handledAll
    (openingMessages ++ [⟨_, .leave "c"⟩, ⟨_, .playCard "a" ⟨.three, .clubs⟩⟩])
  exact ⟨_, played, by decide +kernel, by decide +kernel, by decide +kernel, by decide +kernel⟩

end Turns

end AtTable

end TrucoPaulista
