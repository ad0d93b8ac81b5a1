import TrucoPaulista.Proofs.Seating

namespace TrucoPaulista

namespace Lobby

/-- The bindings of the connections are the seats that they hold. No token has two seats in a room,
and no room is kept in which nobody is connected. -/
structure Mirrored (lobby : Lobby) : Prop where
  bound : ∀ connection matchId seat, lobby.bindings.get? connection = some (matchId, seat) ↔
    lobby.connectionAt? matchId seat = some connection
  distinct : ∀ matchId seat other token, lobby.tokenAt? matchId seat = some token →
    lobby.tokenAt? matchId other = some token → seat = other
  proper : ∀ matchId seat token, lobby.tokenAt? matchId seat = some token →
    token.isEmpty = false ∧ Text.trim token = token
  live : ∀ matchId, lobby.hasRoom matchId →
    ∃ seat connection, lobby.connectionAt? matchId seat = some connection

/-- What a lobby is after a connection has gone from its seat: rooms that are left keep their tokens,
and somebody is connected in each of them. -/
structure Left (lobby : Lobby) (connection : ConnectionId) (matchId : MatchId) (seat : Seat)
    (lobby' : Lobby) : Prop where
  bindings : lobby'.bindings = lobby.bindings.erase connection
  connectionAt? : ∀ query place, lobby'.connectionAt? query place =
    if query = matchId ∧ place = seat then none else lobby.connectionAt? query place
  tokenAt? : ∀ query place, lobby'.hasRoom query →
    lobby'.tokenAt? query place = lobby.tokenAt? query place
  live : ∀ query, lobby'.hasRoom query →
    ∃ place other, lobby'.connectionAt? query place = some other

/-- Whether two lobbies differ at most in who is ready, whose turn it is and which side is awaited. -/
structure SameSeats (lobby lobby' : Lobby) : Prop where
  bindings : lobby'.bindings = lobby.bindings
  connectionAt? : ∀ matchId seat, lobby'.connectionAt? matchId seat = lobby.connectionAt? matchId seat
  tokenAt? : ∀ matchId seat, lobby'.tokenAt? matchId seat = lobby.tokenAt? matchId seat
  hasRoom : ∀ matchId, lobby'.hasRoom matchId = lobby.hasRoom matchId

section Steps

variable {lobby lobby' : Lobby} {matchId : MatchId} {connection : ConnectionId} {seat : Seat}

theorem SameSeats.refl (lobby : Lobby) : SameSeats lobby lobby :=
  ⟨rfl, fun _ _ => rfl, fun _ _ => rfl, fun _ => rfl⟩

/-- A room that is changed keeps its seats as long as its chairs hold the same tokens over the same
connections. -/
theorem sameSeats_insert {room room' : Room} (found : lobby.rooms.get? matchId = some room)
    (connections : ∀ seat, room'.connectionAt? seat = room.connectionAt? seat)
    (tokens : ∀ seat, room'.tokenAt? seat = room.tokenAt? seat) :
    SameSeats lobby { lobby with rooms := lobby.rooms.insert matchId room' } := by
  have rooms : ∀ query, Lobby.room { lobby with rooms := lobby.rooms.insert matchId room' } query =
      if query = matchId then room' else lobby.room query := by
    intro query
    simp only [Lobby.room, Dict.get?_insert]
    split <;> rfl
  have same := lobby.room_of_get? matchId found
  refine ⟨rfl, ?_, ?_, ?_⟩
  · intro query seat
    unfold Lobby.connectionAt?
    rw [rooms]
    split
    next here => rw [here, same, connections]
    next => rfl
  · intro query seat
    unfold Lobby.tokenAt?
    rw [rooms]
    split
    next here => rw [here, same, tokens]
    next => rfl
  · intro query
    rw [hasRoom_eq, hasRoom_eq, Dict.get?_insert]
    split
    next here => simp [here, found]
    next => rfl

theorem sameSeats_setReady (lobby : Lobby) (connection : ConnectionId) (ready : Bool) :
    SameSeats lobby (lobby.setReady connection ready).2 := by
  unfold setReady
  split
  next => exact .refl lobby
  next matchId seat _ =>
    split
    next => exact .refl lobby
    next room found =>
      split
      next => exact .refl lobby
      next chair there =>
        refine sameSeats_insert found ?_ ?_
        · intro query
          rw [Room.connectionAt?_sit]
          split
          next same => simp [Room.connectionAt?, same, there]
          next => rfl
        · intro query
          rw [Room.tokenAt?_sit]
          split
          next same => simp [Room.tokenAt?, same, there]
          next => rfl

theorem sameSeats_change (lobby : Lobby) (matchId : MatchId) {step : Room → Room}
    (chairs : ∀ room, (step room).chairs = room.chairs) :
    SameSeats lobby (lobby.change matchId step).2 := by
  unfold change
  split
  next => exact .refl lobby
  next room found =>
    refine sameSeats_insert found ?_ ?_ <;> intro query <;>
      simp only [Room.connectionAt?, Room.tokenAt?, Room.chair?, chairs]

theorem Mirrored.of_same (mirrored : lobby.Mirrored) (same : SameSeats lobby lobby') :
    lobby'.Mirrored := by
  constructor
  · intro connection matchId seat
    rw [same.bindings, same.connectionAt?]
    exact mirrored.bound connection matchId seat
  · intro matchId seat other token
    rw [same.tokenAt?, same.tokenAt?]
    exact mirrored.distinct matchId seat other token
  · intro matchId seat token
    rw [same.tokenAt?]
    exact mirrored.proper matchId seat token
  · intro matchId
    rw [same.hasRoom]
    simpa only [same.connectionAt?] using mirrored.live matchId

/-- A seat may be taken for the token it was given, or for one that has no seat in the room if it is
free. -/
theorem Mirrored.take (mirrored : lobby.Mirrored) {token : String}
    (unbound : lobby.bindings.get? connection = none) (solid : token.isEmpty = false)
    (trimmed : Text.trim token = token)
    (kind : lobby.tokenAt? matchId seat = some token ∨ (lobby.room matchId).chair? seat = none ∧
      ∀ query, lobby.tokenAt? matchId query ≠ some token) :
    (lobby.take matchId connection token seat).Mirrored := by
  have only : ∀ other, lobby.tokenAt? matchId other = some token → other = seat := by
    intro other known
    rcases kind with here | ⟨_, unknown⟩
    · exact mirrored.distinct matchId other seat token known here
    · exact absurd known (unknown other)
  constructor
  · intro other query place
    rw [bindings_take, connectionAt?_take]
    have before := mirrored.bound other query place
    by_cases newcomer : other = connection
    · subst newcomer
      have nowhere : lobby.connectionAt? query place ≠ some other := by
        rw [Ne, ← before, unbound]
        simp
      by_cases here : query = matchId ∧ place = seat
      · simp [here]
      · have apart : ¬(matchId = query ∧ seat = place) := fun same => here ⟨same.1.symm, same.2.symm⟩
        simp [here, nowhere, apart]
    · rw [if_neg newcomer]
      by_cases here : query = matchId ∧ place = seat
      · obtain ⟨rfl, rfl⟩ := here
        have apart : connection ≠ other := fun same => newcomer same.symm
        simp only [and_self, if_true, Option.some.injEq, apart, iff_false]
        split
        next => simp
        next stays => rwa [before]
      · rw [if_neg here]
        split
        next displaced =>
          have old := (mirrored.bound other matchId seat).mpr displaced
          rw [← before, old]
          simpa [eq_comm] using here
        next => exact before
  · intro query place other held
    simp only [tokenAt?_take]
    grind [mirrored.distinct]
  · intro query place held
    rw [tokenAt?_take]
    split
    next =>
      intro same
      obtain rfl := Option.some.inj same
      exact ⟨solid, trimmed⟩
    next => exact mirrored.proper query place held
  · intro query
    rw [hasRoom_take, Bool.or_eq_true, decide_eq_true_eq]
    rintro (rfl | open')
    · exact ⟨seat, connection, by simp [connectionAt?_take]⟩
    · by_cases here : query = matchId
      · exact ⟨seat, connection, by simp [connectionAt?_take, here]⟩
      · obtain ⟨place, other, held⟩ := mirrored.live query open'
        exact ⟨place, other, by simp [connectionAt?_take, here, held]⟩

theorem Mirrored.join (mirrored : lobby.Mirrored) (matchId : MatchId) (connection : ConnectionId)
    (token : String) : (lobby.join matchId connection token).2.Mirrored := by
  rcases lobby.join_cases matchId connection token with
    ⟨_, refused⟩ | ⟨_, _, _, again⟩ | ⟨seat, unbound, solid, kind, taken⟩
  · rw [refused]
    exact mirrored
  · rw [again]
    exact mirrored
  · rw [taken]
    exact mirrored.take unbound solid (Text.trim_trim token) kind

theorem room_of_closed (closed : lobby.hasRoom matchId = false) : lobby.room matchId = .empty := by
  rw [hasRoom_eq, Option.isSome_eq_false_iff, Option.isNone_iff_eq_none] at closed
  simp [Lobby.room, closed]

theorem hasRoom_of_connectionAt? (held : lobby.connectionAt? matchId seat = some connection) :
    lobby.hasRoom matchId := by
  by_contra closed
  rw [Bool.not_eq_true] at closed
  simp [Lobby.connectionAt?, room_of_closed closed] at held

/-- A connection that is bound to a seat goes from there. -/
theorem Mirrored.leave_of_bound (mirrored : lobby.Mirrored)
    (bound : lobby.bindings.get? connection = some (matchId, seat)) :
    (lobby.leave connection).1 = some matchId ∧
      Left lobby connection matchId seat (lobby.leave connection).2 := by
  have held := (mirrored.bound connection matchId seat).mp bound
  obtain ⟨room, found⟩ := Option.isSome_iff_exists.mp (hasRoom_of_connectionAt? held)
  have same := lobby.room_of_get? matchId found
  rw [Lobby.connectionAt?, same] at held
  obtain ⟨room', remains⟩ : ∃ room', room' = (room.disconnect seat connection).passTurn seat := ⟨_, rfl⟩
  have connections : ∀ place, room'.connectionAt? place =
      if place = seat then none else room.connectionAt? place := by
    intro place
    calc room'.connectionAt? place
        = (room.disconnect seat connection).connectionAt? place := by
          simp only [remains, Room.connectionAt?, Room.chair?, Room.chairs_passTurn]
      _ = _ := Room.connectionAt?_disconnect connection held
  have tokens : ∀ place, room'.tokenAt? place = room.tokenAt? place := by
    intro place
    calc room'.tokenAt? place
        = (room.disconnect seat connection).tokenAt? place := by
          simp only [remains, Room.tokenAt?, Room.chair?, Room.chairs_passTurn]
      _ = _ := Room.tokenAt?_disconnect connection
  have done : lobby.leave connection = (some matchId, ⟨if room'.isLive then
      lobby.rooms.insert matchId room' else lobby.rooms.erase matchId, lobby.bindings.erase connection⟩) := by
    unfold Lobby.leave
    rw [bound]
    dsimp only
    rw [found, remains]
  rw [done]
  cases live : room'.isLive with
  | true =>
    have rooms : ∀ query, Lobby.room ⟨lobby.rooms.insert matchId room', lobby.bindings.erase connection⟩
        query = if query = matchId then room' else lobby.room query := by
      intro query
      simp only [Lobby.room, Dict.get?_insert]
      split <;> rfl
    refine ⟨rfl, rfl, ?_, ?_, ?_⟩
    · intro query place
      simp only [Lobby.connectionAt?, if_true, rooms]
      by_cases here : query = matchId <;> simp [here, connections, same]
    · intro query place _
      simp only [Lobby.tokenAt?, if_true, rooms]
      by_cases here : query = matchId <;> simp [here, tokens, same]
    · intro query open'
      simp only [Lobby.connectionAt?, if_true, rooms]
      by_cases here : query = matchId
      · simpa [here] using Room.isLive_iff.mp live
      · simp only [hasRoom_eq, if_true, Dict.get?_insert, if_neg here] at open'
        simpa [here, Lobby.connectionAt?] using mirrored.live query open'
  | false =>
    have nobody : ∀ place, room'.connectionAt? place = none := by
      intro place
      by_contra somebody
      obtain ⟨other, there⟩ := Option.ne_none_iff_exists'.mp somebody
      have alive := Room.isLive_iff.mpr ⟨place, other, there⟩
      simp [live] at alive
    have rooms : ∀ query, Lobby.room ⟨lobby.rooms.erase matchId, lobby.bindings.erase connection⟩
        query = if query = matchId then .empty else lobby.room query := by
      intro query
      simp only [Lobby.room, Dict.get?_erase]
      split <;> rfl
    have closed : Lobby.hasRoom ⟨lobby.rooms.erase matchId, lobby.bindings.erase connection⟩ matchId =
        false := by
      simp [hasRoom_eq]
    refine ⟨rfl, rfl, ?_, ?_, ?_⟩
    · intro query place
      simp only [Lobby.connectionAt?, Bool.false_eq_true, if_false, rooms]
      by_cases here : query = matchId
      · simpa [here, same, eq_comm] using (connections place).symm.trans (nobody place)
      · simp [here]
    · intro query place open'
      simp only [Bool.false_eq_true, if_false] at open' ⊢
      have away : query ≠ matchId := by
        rintro rfl
        simp [closed] at open'
      simp [Lobby.tokenAt?, rooms, away]
    · intro query open'
      simp only [Bool.false_eq_true, if_false] at open' ⊢
      have away : query ≠ matchId := by
        rintro rfl
        simp [closed] at open'
      simp only [hasRoom_eq, Dict.get?_erase, if_neg away] at open'
      simpa [Lobby.connectionAt?, rooms, away] using mirrored.live query open'

theorem Mirrored.leave (mirrored : lobby.Mirrored) (connection : ConnectionId) :
    (lobby.leave connection).2.Mirrored := by
  cases bound : lobby.bindings.get? connection with
  | none =>
    rw [lobby.leave_of_unbound connection bound]
    exact mirrored
  | some binding =>
    obtain ⟨matchId, seat⟩ := binding
    obtain ⟨_, left⟩ := mirrored.leave_of_bound bound
    have tokens : ∀ query place token, (lobby.leave connection).2.tokenAt? query place = some token →
        lobby.tokenAt? query place = some token := by
      intro query place token known
      rcases open' : (lobby.leave connection).2.hasRoom query with _ | _
      · simp [Lobby.tokenAt?, room_of_closed open'] at known
      · rwa [← left.tokenAt? query place open']
    refine ⟨?_, ?_, ?_, left.live⟩
    · intro other query place
      rw [left.bindings, Dict.get?_erase, left.connectionAt?]
      have before := mirrored.bound other query place
      by_cases gone : other = connection
      · subst gone
        rw [bound] at before
        by_cases here : query = matchId ∧ place = seat
        · simp [here]
        · have apart : ¬(matchId = query ∧ seat = place) := fun same => here ⟨same.1.symm, same.2.symm⟩
          simpa [here, apart] using before
      · rw [if_neg gone]
        split
        next here =>
          obtain ⟨rfl, rfl⟩ := here
          have holder := (mirrored.bound connection query place).mp bound
          rw [before, holder]
          simpa using fun same => gone same.symm
        next => exact before
    · intro query place other token known known'
      exact mirrored.distinct query place other token (tokens _ _ _ known) (tokens _ _ _ known')
    · intro query place token known
      exact mirrored.proper query place token (tokens _ _ _ known)

/-- Whether there is a room shows in the bindings alone. -/
theorem Mirrored.hasRoom_iff (mirrored : lobby.Mirrored) : lobby.hasRoom matchId ↔
    ∃ connection seat, lobby.bindings.get? connection = some (matchId, seat) := by
  constructor
  · intro open'
    obtain ⟨seat, connection, held⟩ := mirrored.live matchId open'
    exact ⟨connection, seat, (mirrored.bound connection matchId seat).mpr held⟩
  · rintro ⟨connection, seat, bound⟩
    exact hasRoom_of_connectionAt? ((mirrored.bound connection matchId seat).mp bound)

theorem bound_of_session {session : Session} (found : lobby.session connection = some session) :
    lobby.bindings.get? connection = some (session.matchId, session.seat) ∧
      lobby.tokenAt? session.matchId session.seat = some session.token := by
  cases bound : lobby.bindings.get? connection with
  | none => simp [lobby.session_of_unbound bound] at found
  | some binding =>
    obtain ⟨matchId, seat⟩ := binding
    rw [lobby.session_of_bound bound] at found
    obtain ⟨token, known, rfl⟩ := Option.map_eq_some_iff.mp found
    exact ⟨rfl, known⟩

theorem Mirrored.exists_session (mirrored : lobby.Mirrored)
    (bound : lobby.bindings.get? connection = some (matchId, seat)) :
    ∃ session, lobby.session connection = some session ∧ session.matchId = matchId ∧
      session.seat = seat := by
  have held := (mirrored.bound connection matchId seat).mp bound
  obtain ⟨chair, there, _⟩ := Option.bind_eq_some_iff.mp held
  have known : lobby.tokenAt? matchId seat = some chair.token := by
    simp [Lobby.tokenAt?, Room.tokenAt?, there]
  rw [lobby.session_of_bound bound, known]
  exact ⟨_, rfl, rfl, rfl⟩

theorem bindings_leave (lobby : Lobby) (connection other : ConnectionId) :
    (lobby.leave connection).2.bindings.get? other =
      if other = connection then none else lobby.bindings.get? other := by
  unfold Lobby.leave
  split
  next unbound => split <;> simp_all
  next => dsimp only; split <;> simp

/-- A room that is left is the one that was there, but for the seat of whoever went. -/
theorem room_of_leave {room' : Room}
    (found : (lobby.leave connection).2.rooms.get? matchId = some room') :
    ∃ room, lobby.rooms.get? matchId = some room ∧ (room' = room ∨
      ∃ seat, lobby.bindings.get? connection = some (matchId, seat) ∧
        room' = (room.disconnect seat connection).passTurn seat) := by
  unfold leave at found
  split at found
  next => exact ⟨room', found, Or.inl rfl⟩
  next name seat bound =>
    dsimp only at found
    split at found
    next => exact ⟨room', found, Or.inl rfl⟩
    next room there =>
      by_cases same : matchId = name
      · subst same
        split at found
        next =>
          -- somebody is left in the room, or else it would have been closed
          rw [Dict.get?_insert, if_pos rfl] at found
          exact ⟨room, there, Or.inr ⟨seat, bound, (Option.some.inj found).symm⟩⟩
        next => simp at found
      · refine ⟨room', ?_, Or.inl rfl⟩
        split at found
        next => simpa [same] using found
        next => simpa [same] using found

/-- Who stays is not concerned when somebody else goes. -/
theorem Mirrored.session_leave (mirrored : lobby.Mirrored) {other : ConnectionId}
    (apart : other ≠ connection) : (lobby.leave connection).2.session other = lobby.session other := by
  have same : (lobby.leave connection).2.bindings.get? other = lobby.bindings.get? other := by
    rw [bindings_leave, if_neg apart]
  cases stays : lobby.bindings.get? other with
  | none => rw [lobby.session_of_unbound stays, session_of_unbound _ (same.trans stays)]
  | some binding =>
    obtain ⟨query, place⟩ := binding
    rw [lobby.session_of_bound stays, session_of_bound _ (same.trans stays)]
    cases bound : lobby.bindings.get? connection with
    | none => rw [lobby.leave_of_unbound connection bound]
    | some binding =>
      obtain ⟨matchId, seat⟩ := binding
      obtain ⟨_, left⟩ := mirrored.leave_of_bound bound
      have held := ((mirrored.leave connection).bound other query place).mp (same.trans stays)
      rw [left.tokenAt? query place (hasRoom_of_connectionAt? held)]

end Steps

/-- What a lobby becomes by any operations on it, beginning with an empty one. -/
inductive Run : Lobby → Prop where
  | empty : Run .empty
  | join {lobby : Lobby} (before : Run lobby) (matchId : MatchId) (connection : ConnectionId)
      (token : String) : Run (lobby.join matchId connection token).2
  | leave {lobby : Lobby} (before : Run lobby) (connection : ConnectionId) :
      Run (lobby.leave connection).2
  | setReady {lobby : Lobby} (before : Run lobby) (connection : ConnectionId) (ready : Bool) :
      Run (lobby.setReady connection ready).2
  | beginHand {lobby : Lobby} (before : Run lobby) (matchId : MatchId) :
      Run (lobby.beginHand matchId).2
  | resumeHand {lobby : Lobby} (before : Run lobby) (matchId : MatchId) (awaiting : Option Side) :
      Run (lobby.resumeHand matchId awaiting).2
  | advanceTurn {lobby : Lobby} (before : Run lobby) (matchId : MatchId) (awaiting : Option Side) :
      Run (lobby.advanceTurn matchId awaiting).2
  | endHand {lobby : Lobby} (before : Run lobby) (matchId : MatchId) : Run (lobby.endHand matchId).2

section Runs

variable {lobby : Lobby}

theorem mirrored_empty : Lobby.empty.Mirrored := by
  have closed : ∀ matchId, Lobby.empty.hasRoom matchId = false := fun _ => rfl
  have rooms : ∀ matchId, Lobby.empty.room matchId = .empty := fun _ => rfl
  have unbound : ∀ connection, Lobby.empty.bindings.get? connection = none := fun _ => rfl
  constructor <;> simp [Lobby.connectionAt?, Lobby.tokenAt?, rooms, closed, unbound]

theorem Run.mirrored (run : Run lobby) : lobby.Mirrored := by
  induction run with
  | empty => exact mirrored_empty
  | join _ matchId connection token mirrored => exact mirrored.join matchId connection token
  | leave _ connection mirrored => exact mirrored.leave connection
  | setReady _ connection ready mirrored => exact mirrored.of_same (sameSeats_setReady _ connection ready)
  | beginHand _ matchId mirrored => exact mirrored.of_same (sameSeats_change _ matchId fun _ => rfl)
  | resumeHand _ matchId awaiting mirrored =>
    exact mirrored.of_same (sameSeats_change _ matchId fun _ => Room.chairs_resumeHand awaiting)
  | advanceTurn _ matchId awaiting mirrored =>
    exact mirrored.of_same (sameSeats_change _ matchId fun _ => Room.chairs_advanceTurn awaiting)
  | endHand _ matchId mirrored => exact mirrored.of_same (sameSeats_change _ matchId fun _ => rfl)

/-- A connection is bound to a seat exactly when the room of the match exists and the connection is
the one at that seat, so it is at no other seat, in this room or another. The tokens in a room
differ from one another, and each has something to it besides white space, of which it has none at
its ends. A room exists exactly when somebody is connected in it. -/
theorem Run.bindings_mirror_rooms (run : Run lobby) :
    (∀ connection matchId seat, lobby.bindings.get? connection = some (matchId, seat) ↔
      ∃ room chair, lobby.rooms.get? matchId = some room ∧ room.chair? seat = some chair ∧
        chair.connection = some connection) ∧
    (∀ matchId room, lobby.rooms.get? matchId = some room →
      (∀ seat other chair chair', room.chair? seat = some chair → room.chair? other = some chair' →
        chair.token = chair'.token → seat = other) ∧
      ∀ seat chair, room.chair? seat = some chair →
        chair.token.isEmpty = false ∧ Text.trim chair.token = chair.token) ∧
    (∀ matchId, lobby.hasRoom matchId ↔
      ∃ room seat, lobby.rooms.get? matchId = some room ∧ room.isConnected seat) := by
  have mirrored := run.mirrored
  refine ⟨?_, ?_, ?_⟩
  · intro connection matchId seat
    rw [mirrored.bound]
    constructor
    · intro held
      obtain ⟨room, found⟩ := Option.isSome_iff_exists.mp (hasRoom_of_connectionAt? held)
      rw [Lobby.connectionAt?, lobby.room_of_get? matchId found] at held
      obtain ⟨chair, there, same⟩ := Option.bind_eq_some_iff.mp held
      exact ⟨room, chair, found, there, same⟩
    · rintro ⟨room, chair, found, there, same⟩
      simp [Lobby.connectionAt?, lobby.room_of_get? matchId found, Room.connectionAt?, there, same]
  · intro matchId room found
    have tokens : ∀ seat chair, room.chair? seat = some chair →
        lobby.tokenAt? matchId seat = some chair.token := by
      intro seat chair there
      simp [Lobby.tokenAt?, lobby.room_of_get? matchId found, Room.tokenAt?, there]
    constructor
    · intro seat other chair chair' there there' same
      refine mirrored.distinct matchId seat other chair.token (tokens seat chair there) ?_
      rw [same]
      exact tokens other chair' there'
    · intro seat chair there
      exact mirrored.proper matchId seat chair.token (tokens seat chair there)
  · intro matchId
    constructor
    · intro exists'
      obtain ⟨room, found⟩ := Option.isSome_iff_exists.mp exists'
      obtain ⟨seat, connection, held⟩ := mirrored.live matchId exists'
      rw [Lobby.connectionAt?, lobby.room_of_get? matchId found] at held
      exact ⟨room, seat, found, Option.isSome_iff_exists.mpr ⟨connection, held⟩⟩
    · rintro ⟨room, _, found, _⟩
      exact Option.isSome_iff_exists.mpr ⟨room, found⟩

/-- A token that comes back over another connection, while the first one is still there and goes
only then. -/
theorem Run.bindings_mirror_rooms_after_rejoin :
    ∃ lobby, Run lobby ∧ lobby.bindings.get? "c" = some ("match_1", .t1a) ∧
      lobby.bindings.get? "a" = none ∧
      ∃ room chair, lobby.rooms.get? "match_1" = some room ∧ room.chair? .t1a = some chair ∧
        chair.connection = some "c" := by
  have run := Run.empty
    |>.join "match_1" "a" "ana"
    |>.join "match_1" "b" "bia"
    |>.join "match_1" "c" " ana "
    |>.leave "a"
    |>.leave "b"
  obtain ⟨lobby, run, bound, gone⟩ : ∃ lobby, Run lobby ∧
      lobby.bindings.get? "c" = some ("match_1", .t1a) ∧ lobby.bindings.get? "a" = none :=
    ⟨_, run, by decide +kernel, by decide +kernel⟩
  exact ⟨lobby, run, bound, gone, (run.bindings_mirror_rooms.1 _ _ _).mp bound⟩

end Runs

end Lobby

end TrucoPaulista
