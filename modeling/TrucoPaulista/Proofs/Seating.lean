import Mathlib.Data.List.DropRight
import TrucoPaulista.Proofs.Dict
import TrucoPaulista.Lobby

namespace TrucoPaulista

theorem Text.trim_trim (text : String) : Text.trim (Text.trim text) = Text.trim text := by
  unfold Text.trim
  rw [String.toList_ofList]
  congr 1
  generalize text.toList = cs
  have front : (trimChars cs).dropWhile isBlank = trimChars cs := by
    refine List.dropWhile_eq_self_iff.mpr (fun nonempty => ?_)
    have start : trimChars cs <+: cs.dropWhile isBlank := List.rdropWhile_prefix isBlank _
    have solid : 0 < (cs.dropWhile isBlank).length := nonempty.trans_le start.length_le
    have first : (trimChars cs)[0] = (cs.dropWhile isBlank)[0] := start.getElem nonempty
    rw [first]
    exact List.dropWhile_get_zero_not isBlank cs solid
  have back : (trimChars cs).rdropWhile isBlank = trimChars cs := List.rdropWhile_idempotent _ _
  calc trimChars (trimChars cs)
      = ((trimChars cs).dropWhile isBlank).rdropWhile isBlank := rfl
    _ = trimChars cs := by rw [front, back]

namespace Room

/-- The connection over which a seat is held. -/
def connectionAt? (room : Room) (seat : Seat) : Option ConnectionId :=
  (room.chair? seat).bind Chair.connection

/-- The token that has a seat. -/
def tokenAt? (room : Room) (seat : Seat) : Option String := (room.chair? seat).map Chair.token

/-- The room after a connection has taken a seat for a token, as ready as the seat was. -/
def take (room : Room) (seat : Seat) (connection : ConnectionId) (token : String) : Room :=
  room.sit seat ⟨token, some connection, ((room.chair? seat).map Chair.ready).getD false⟩

section Seats

variable {room : Room} {seat query : Seat}

@[simp] theorem chair?_sit (chair : Chair) :
    (room.sit seat chair).chair? query = if query = seat then some chair else room.chair? query :=
  Chairs.get_set _ _ _ _

@[simp] theorem connectionAt?_sit (chair : Chair) : (room.sit seat chair).connectionAt? query =
    if query = seat then chair.connection else room.connectionAt? query := by
  unfold connectionAt?
  rw [chair?_sit]
  split <;> rfl

@[simp] theorem tokenAt?_sit (chair : Chair) : (room.sit seat chair).tokenAt? query =
    if query = seat then some chair.token else room.tokenAt? query := by
  unfold tokenAt?
  rw [chair?_sit]
  split <;> rfl

theorem chairs_passTurn : (room.passTurn seat).chairs = room.chairs := by
  unfold passTurn
  split <;> rfl

@[simp] theorem connectionAt?_empty : empty.connectionAt? seat = none := by
  simp [connectionAt?, chair?, empty]

@[simp] theorem tokenAt?_empty : empty.tokenAt? seat = none := by
  simp [tokenAt?, chair?, empty]

theorem chairs_resumeHand (awaiting : Option Side) : (room.resumeHand awaiting).chairs = room.chairs := by
  unfold resumeHand
  split <;> rfl

theorem chairs_advanceTurn (awaiting : Option Side) :
    (room.advanceTurn awaiting).chairs = room.chairs := by
  unfold advanceTurn
  dsimp only
  split <;> rfl

theorem connectionAt?_disconnect (connection : ConnectionId)
    (held : room.connectionAt? seat = some connection) :
    (room.disconnect seat connection).connectionAt? query =
      if query = seat then none else room.connectionAt? query := by
  obtain ⟨chair, there, same⟩ := Option.bind_eq_some_iff.mp held
  unfold disconnect
  simp [there, same]

theorem tokenAt?_disconnect (connection : ConnectionId) :
    (room.disconnect seat connection).tokenAt? query = room.tokenAt? query := by
  unfold disconnect
  split
  next chair there =>
    split
    next =>
      rw [tokenAt?_sit]
      split
      next same => simp [tokenAt?, same, there]
      next => rfl
    next => rfl
  next => rfl

theorem isLive_iff : room.isLive ↔ ∃ seat connection, room.connectionAt? seat = some connection := by
  simp only [isLive, List.any_eq_true, isConnected, Option.isSome_iff_exists, connectionAt?]
  constructor
  · rintro ⟨seat, _, held⟩
    exact ⟨seat, held⟩
  · rintro ⟨seat, held⟩
    exact ⟨seat, by cases seat <;> simp [Seat.all], held⟩

theorem seatOfToken?_eq_some {token : String} (found : room.seatOfToken? token = some seat) :
    room.tokenAt? seat = some token := by
  have same := List.find?_some found
  unfold tokenAt?
  cases there : room.chair? seat with
  | none => simp [there] at same
  | some chair => simpa [there] using same

theorem seatOfToken?_eq_none {token : String} (missing : room.seatOfToken? token = none) :
    room.tokenAt? seat ≠ some token := by
  have other := List.find?_eq_none.mp missing seat (by cases seat <;> simp [Seat.all])
  unfold tokenAt?
  cases there : room.chair? seat with
  | none => simp
  | some chair => simpa [there] using other

theorem freeSeat?_eq_some (found : room.freeSeat? = some seat) : room.chair? seat = none := by
  simpa [isTaken] using List.find?_some found

/-- A room in which nobody has ever sat has a free seat. -/
theorem isTaken_of_freeSeat?_eq_none (full : room.freeSeat? = none) : room.isTaken seat := by
  simpa using List.find?_eq_none.mp full seat (by cases seat <;> simp [Seat.all])

end Seats

end Room

namespace Lobby

/-- The room of a match, an empty one where there is none. -/
def room (lobby : Lobby) (matchId : MatchId) : Room := (lobby.rooms.get? matchId).getD .empty

/-- The connection over which a seat in a match is held. -/
def connectionAt? (lobby : Lobby) (matchId : MatchId) (seat : Seat) : Option ConnectionId :=
  (lobby.room matchId).connectionAt? seat

/-- The token that has a seat in a match. -/
def tokenAt? (lobby : Lobby) (matchId : MatchId) (seat : Seat) : Option String :=
  (lobby.room matchId).tokenAt? seat

/-- The lobby after a connection has taken a seat for a token; who had the seat before has it no
more. -/
def take (lobby : Lobby) (matchId : MatchId) (connection : ConnectionId) (token : String)
    (seat : Seat) : Lobby where
  rooms := lobby.rooms.insert matchId ((lobby.room matchId).take seat connection token)
  bindings := ((lobby.connectionAt? matchId seat).elim lobby.bindings lobby.bindings.erase).insert
    connection (matchId, seat)

section Cases

variable (lobby : Lobby) (matchId : MatchId) (connection : ConnectionId)

/-- A connection that is bound to the seat it was given has taken the seat. -/
theorem bind_take (token : String) (seat : Seat) :
    Lobby.bind ⟨lobby.rooms.insert matchId ((lobby.room matchId).take seat connection token),
        (lobby.connectionAt? matchId seat).elim lobby.bindings lobby.bindings.erase⟩
      matchId connection seat =
      (.ok ⟨matchId, seat, token, connection⟩, lobby.take matchId connection token seat) := by
  have found : Lobby.sessionAt (lobby.take matchId connection token seat) connection matchId seat =
      some ⟨matchId, seat, token, connection⟩ := by
    simp [sessionAt, take, Room.take]
  unfold bind
  dsimp only
  unfold take at found ⊢
  rw [found]

/-- The token gets the seat that it has, or else the first free one. -/
theorem seatToken_eq (token : String) : lobby.seatToken matchId connection token =
    match ((lobby.room matchId).seatOfToken? token).or (lobby.room matchId).freeSeat? with
    | some seat =>
      (.ok ⟨matchId, seat, token, connection⟩, lobby.take matchId connection token seat)
    | none => (.error .matchFull, lobby) := by
  have entered : lobby.room matchId = (lobby.rooms.get? matchId).getD .empty := rfl
  unfold seatToken
  dsimp only
  simp only [← entered, Dict.insert_insert]
  cases known : (lobby.room matchId).seatOfToken? token with
  | some seat =>
    obtain ⟨chair, there, rfl⟩ := Option.map_eq_some_iff.mp (Room.seatOfToken?_eq_some known)
    have same : (lobby.room matchId).sit seat { chair with connection := some connection } =
        (lobby.room matchId).take seat connection chair.token := by
      simp [Room.take, there]
    have stale : lobby.connectionAt? matchId seat = chair.connection := by
      simp [connectionAt?, Room.connectionAt?, there]
    rw [Option.some_or]
    dsimp only
    rw [there]
    dsimp only
    rw [same, ← stale]
    exact lobby.bind_take matchId connection chair.token seat
  | none =>
    rw [Option.none_or]
    dsimp only
    cases next : (lobby.room matchId).freeSeat? with
    | none =>
      have seated : (lobby.room matchId).isTaken .t1a := Room.isTaken_of_freeSeat?_eq_none next
      cases found : lobby.rooms.get? matchId with
      | none =>
        rw [entered, found] at seated
        simp [Room.isTaken, Room.chair?, Room.empty] at seated
      | some room =>
        have same : lobby.room matchId = room := by rw [entered, found]; rfl
        rw [same, Dict.insert_self found]
    | some seat =>
      have vacant := Room.freeSeat?_eq_some next
      have same : (lobby.room matchId).sit seat ⟨token, some connection, false⟩ =
          (lobby.room matchId).take seat connection token := by
        simp [Room.take, vacant]
      have stale : lobby.connectionAt? matchId seat = none := by
        simp [connectionAt?, Room.connectionAt?, vacant]
      have done := lobby.bind_take matchId connection token seat
      rw [stale] at done
      dsimp only
      rw [same]
      exact done

/-- The token gets its seat back, or else a seat that nobody has had; or there is none. -/
theorem seatToken_cases (token : String) :
    ((∀ seat, (lobby.room matchId).isTaken seat) ∧ (∀ seat, lobby.tokenAt? matchId seat ≠ some token) ∧
      lobby.seatToken matchId connection token = (.error .matchFull, lobby)) ∨
    (∃ seat, (lobby.tokenAt? matchId seat = some token ∨
        (lobby.room matchId).chair? seat = none ∧ ∀ query, lobby.tokenAt? matchId query ≠ some token) ∧
      lobby.seatToken matchId connection token =
        (.ok ⟨matchId, seat, token, connection⟩, lobby.take matchId connection token seat)) := by
  have done := lobby.seatToken_eq matchId connection token
  cases known : (lobby.room matchId).seatOfToken? token with
  | some seat =>
    rw [known, Option.some_or] at done
    exact Or.inr ⟨seat, Or.inl (Room.seatOfToken?_eq_some known), done⟩
  | none =>
    have unknown : ∀ seat, lobby.tokenAt? matchId seat ≠ some token :=
      fun _ => Room.seatOfToken?_eq_none known
    rw [known, Option.none_or] at done
    cases next : (lobby.room matchId).freeSeat? with
    | none =>
      rw [next] at done
      exact Or.inl ⟨fun _ => Room.isTaken_of_freeSeat?_eq_none next, unknown, done⟩
    | some seat =>
      rw [next] at done
      exact Or.inr ⟨seat, Or.inr ⟨Room.freeSeat?_eq_some next, unknown⟩, done⟩

/-- What asking for a seat does: it is refused, or finds the seat that the connection has, or takes
one. -/
theorem join_cases (token : String) :
    (∃ refusal, lobby.join matchId connection token = (.error refusal, lobby)) ∨
    (∃ session, lobby.session connection = some session ∧ session.matchId = matchId ∧
      lobby.join matchId connection token = (.ok session, lobby)) ∨
    (∃ seat, lobby.bindings.get? connection = none ∧ (Text.trim token).isEmpty = false ∧
      (lobby.tokenAt? matchId seat = some (Text.trim token) ∨
        (lobby.room matchId).chair? seat = none ∧
          ∀ query, lobby.tokenAt? matchId query ≠ some (Text.trim token)) ∧
      lobby.join matchId connection token = (.ok ⟨matchId, seat, Text.trim token, connection⟩,
        lobby.take matchId connection (Text.trim token) seat)) := by
  unfold join
  dsimp only
  split
  next => exact Or.inl ⟨_, rfl⟩
  next solid =>
    split
    next bound seat binding =>
      split
      next => exact Or.inl ⟨_, rfl⟩
      next here =>
        split
        next session found =>
          refine Or.inr (Or.inl ⟨session, ?_, ?_, rfl⟩)
          · simpa [Lobby.session, binding, not_not.mp here] using found
          · obtain ⟨room, _, chair, _, rfl⟩ : ∃ room, lobby.rooms.get? matchId = some room ∧
                ∃ chair, room.chair? seat = some chair ∧
                  (⟨matchId, seat, chair.token, connection⟩ : Session) = session := by
              simpa [sessionAt, Option.bind_eq_some_iff] using found
            rfl
        next => exact Or.inl ⟨_, rfl⟩
    next unbound =>
      rcases lobby.seatToken_cases matchId connection (Text.trim token) with
        ⟨_, _, refused⟩ | ⟨seat, kind, done⟩
      · exact Or.inl ⟨_, refused⟩
      · exact Or.inr (Or.inr ⟨seat, unbound, by simpa using solid, kind, done⟩)

theorem leave_of_unbound (unbound : lobby.bindings.get? connection = none) :
    lobby.leave connection = (none, lobby) := by
  unfold leave
  rw [unbound]

end Cases

section Views

variable (lobby : Lobby) (matchId query : MatchId) (seat place : Seat)

theorem session_of_unbound {connection : ConnectionId}
    (unbound : lobby.bindings.get? connection = none) : lobby.session connection = none := by
  simp [session, unbound]

/-- A connection that is bound to a seat has the session of the token there. -/
theorem session_of_bound {connection : ConnectionId} {matchId : MatchId} {seat : Seat}
    (bound : lobby.bindings.get? connection = some (matchId, seat)) :
    lobby.session connection = (lobby.tokenAt? matchId seat).map
      (fun token => ⟨matchId, seat, token, connection⟩) := by
  simp only [session, bound, Option.bind_eq_bind, Option.bind_some, sessionAt, tokenAt?, room,
    Room.tokenAt?]
  cases lobby.rooms.get? matchId with
  | none => simp [Room.chair?, Room.empty]
  | some room =>
    rw [Option.bind_some, Option.getD_some]
    cases room.chair? seat <;> rfl

theorem hasRoom_eq : lobby.hasRoom matchId = (lobby.rooms.get? matchId).isSome := rfl

theorem room_of_get? {room : Room} (found : lobby.rooms.get? matchId = some room) :
    lobby.room matchId = room := by
  simp [Lobby.room, found]

section Take

variable (connection : ConnectionId) (token : String)

@[simp] theorem room_take : (lobby.take matchId connection token seat).room query =
    if query = matchId then (lobby.room matchId).take seat connection token else lobby.room query := by
  unfold take Lobby.room
  rw [Dict.get?_insert]
  split <;> rfl

theorem connectionAt?_take : (lobby.take matchId connection token seat).connectionAt? query place =
    if query = matchId ∧ place = seat then some connection else lobby.connectionAt? query place := by
  unfold connectionAt?
  rw [room_take]
  by_cases same : query = matchId
  · simp [same, Room.take]
  · simp [same]

theorem tokenAt?_take : (lobby.take matchId connection token seat).tokenAt? query place =
    if query = matchId ∧ place = seat then some token else lobby.tokenAt? query place := by
  unfold tokenAt?
  rw [room_take]
  by_cases same : query = matchId
  · simp [same, Room.take]
  · simp [same]

theorem hasRoom_take : (lobby.take matchId connection token seat).hasRoom query =
    (decide (query = matchId) || lobby.hasRoom query) := by
  rw [hasRoom_eq, hasRoom_eq, take, Dict.get?_insert]
  by_cases same : query = matchId <;> simp [same]

/-- Who takes a seat is bound to it, and who had it is bound no more. -/
theorem bindings_take (other : ConnectionId) :
    (lobby.take matchId connection token seat).bindings.get? other =
      if other = connection then some (matchId, seat)
      else if lobby.connectionAt? matchId seat = some other then none
      else lobby.bindings.get? other := by
  unfold take
  rw [Dict.get?_insert]
  cases lobby.connectionAt? matchId seat with
  | none => simp
  | some stale => simp [eq_comm]

end Take

end Views

end Lobby

end TrucoPaulista
