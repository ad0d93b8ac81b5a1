import TrucoPaulista.Proofs.Room
import TrucoPaulista.Proofs.Tenure

namespace TrucoPaulista

/-- The seats that a number of players fill are the first ones. -/
theorem Seat.filter_idxOf_lt {count : Nat} (few : count ≤ 4) :
    Seat.all.filter (fun seat => Seat.all.idxOf seat < count) = Seat.all.take count := by
  decide +revert

namespace Room

/-- Whether the seat that has the turn in a room, if one has it, is taken. -/
def TurnIsTaken (room : Room) : Prop := ∀ seat, room.turn = some seat → room.isTaken seat

section Steps

variable {room : Room}

theorem turnIsTaken_of_turn_eq_none (turn : room.turn = none) : room.TurnIsTaken := by
  intro seat found
  rw [turn] at found
  cases found

theorem turnIsTaken_of_turn {seat : Seat} (turn : room.turn = some seat)
    (taken : room.isTaken seat) : room.TurnIsTaken := by
  intro query found
  obtain rfl : seat = query := Option.some.inj (turn.symm.trans found)
  exact taken

theorem TurnIsTaken.sit (kept : room.TurnIsTaken) (seat : Seat) (chair : Chair) :
    (room.sit seat chair).TurnIsTaken :=
  fun query found => room.isTaken_sit seat query chair (kept query found)

theorem TurnIsTaken.disconnect (kept : room.TurnIsTaken) (seat : Seat) (connection : ConnectionId) :
    (room.disconnect seat connection).TurnIsTaken := by
  unfold Room.disconnect
  split
  next =>
    split
    next => exact kept.sit seat _
    next => exact kept
  next => exact kept

theorem TurnIsTaken.passTurn (kept : room.TurnIsTaken) (seat : Seat) :
    (room.passTurn seat).TurnIsTaken := by
  unfold Room.passTurn
  split
  next =>
    -- the side that is awaited may leave no candidate at all, and then nobody has the turn
    intro next found
    exact (of_nextLiveTurn found).1
  next => exact kept

theorem turnIsTaken_beginHand (first : room.isTaken .t1a) : room.beginHand.TurnIsTaken :=
  turnIsTaken_of_turn rfl first

theorem TurnIsTaken.resumeHand (kept : room.TurnIsTaken) (awaiting : Option Side) :
    (room.resumeHand awaiting).TurnIsTaken := by
  unfold Room.resumeHand
  split
  next => exact kept
  next =>
    intro next found
    exact (of_nextLiveTurn found).1

theorem turnIsTaken_advanceTurn (first : room.isTaken .t1a) (awaiting : Option Side) :
    (room.advanceTurn awaiting).TurnIsTaken := by
  unfold Room.advanceTurn
  dsimp only
  split
  next =>
    intro next found
    exact (of_nextTurn found).1
  next => exact turnIsTaken_of_turn rfl first

theorem turnIsTaken_endHand (room : Room) : room.endHand.TurnIsTaken :=
  turnIsTaken_of_turn_eq_none rfl

end Steps

end Room

namespace Lobby

/-- What holds of a lobby after any operations: in every room the seats are taken in order, and the
turn is at one of them. No operation looks whether the first seat is taken before it gives it the
turn; that it is taken follows from the order in which seats are given away. -/
structure Rotates (lobby : Lobby) : Prop where
  run : Run lobby
  roster : ∀ matchId, ∃ tokens, lobby.Roster matchId tokens
  turn : ∀ matchId, (lobby.room matchId).TurnIsTaken

section Steps

variable {lobby : Lobby} {matchId : MatchId}

theorem rotates_empty : Lobby.empty.Rotates where
  run := .empty
  roster _ := ⟨[], Roster.of_closed rfl⟩
  turn _ := Room.turnIsTaken_of_turn_eq_none rfl

theorem isTaken_of_connectionAt? {seat : Seat} {connection : ConnectionId}
    (held : lobby.connectionAt? matchId seat = some connection) :
    (lobby.room matchId).isTaken seat := by
  obtain ⟨chair, there, _⟩ := Option.bind_eq_some_iff.mp held
  exact Option.isSome_iff_exists.mpr ⟨chair, there⟩

theorem Roster.ne_nil {tokens : List String} (roster : lobby.Roster matchId tokens)
    (mirrored : lobby.Mirrored) (open' : lobby.hasRoom matchId) : tokens ≠ [] := by
  obtain ⟨seat, connection, held⟩ := mirrored.live matchId open'
  have before := (roster.isTaken_iff seat).mp (isTaken_of_connectionAt? held)
  exact List.ne_nil_of_length_pos (Nat.zero_lt_of_lt before)

theorem Rotates.isTaken_first (rotates : lobby.Rotates) (open' : lobby.hasRoom matchId) :
    (lobby.room matchId).isTaken .t1a := by
  obtain ⟨tokens, roster⟩ := rotates.roster matchId
  rw [roster.isTaken_iff]
  exact List.length_pos_of_ne_nil (roster.ne_nil rotates.run.mirrored open')

/-- Turns stay at taken seats if the change of a room leaves its turn at one. -/
theorem turnIsTaken_change {step : Room → Room} {name : MatchId}
    (kept : ∀ query, (lobby.room query).TurnIsTaken)
    (changed : lobby.hasRoom name → (step (lobby.room name)).TurnIsTaken) :
    ((lobby.change name step).2.room matchId).TurnIsTaken := by
  unfold change
  split
  next => exact kept matchId
  next room found =>
    have open' : lobby.hasRoom name := Option.isSome_iff_exists.mpr ⟨room, found⟩
    have stepped := changed open'
    rw [lobby.room_of_get? name found] at stepped
    simp only [Lobby.room, Dict.get?_insert]
    split
    next => exact stepped
    next => exact kept matchId

theorem turnIsTaken_setReady (kept : (lobby.room matchId).TurnIsTaken) (connection : ConnectionId)
    (ready : Bool) : ((lobby.setReady connection ready).2.room matchId).TurnIsTaken := by
  unfold setReady
  split
  next => exact kept
  next name seat _ =>
    split
    next => exact kept
    next room found =>
      split
      next => exact kept
      next =>
        simp only [Lobby.room, Dict.get?_insert]
        split
        next here =>
          subst here
          rw [lobby.room_of_get? matchId found] at kept
          exact kept.sit seat _
        next => exact kept

theorem turnIsTaken_join (kept : ∀ query, (lobby.room query).TurnIsTaken) (name : MatchId)
    (connection : ConnectionId) (token : String) :
    ((lobby.join name connection token).2.room matchId).TurnIsTaken := by
  rcases lobby.join_cases name connection token with
    ⟨_, refused⟩ | ⟨_, _, _, again⟩ | ⟨seat, _, _, _, taken⟩
  · rw [refused]
    exact kept matchId
  · rw [again]
    exact kept matchId
  · rw [taken, room_take]
    split
    next => exact (kept name).sit seat _
    next => exact kept matchId

theorem turnIsTaken_leave (kept : (lobby.room matchId).TurnIsTaken) (connection : ConnectionId) :
    ((lobby.leave connection).2.room matchId).TurnIsTaken := by
  rcases open' : (lobby.leave connection).2.hasRoom matchId with _ | _
  · rw [room_of_closed open']
    exact Room.turnIsTaken_of_turn_eq_none rfl
  · obtain ⟨room, before, same | ⟨seat, _, left⟩⟩ := room_of_leave (hasRoom_iff_get?.mp open')
    · rw [lobby.room_of_get? matchId before] at kept
      rw [same]
      exact kept
    · rw [lobby.room_of_get? matchId before] at kept
      rw [left]
      exact (kept.disconnect seat connection).passTurn seat

/-- Every operation keeps the turn at a taken seat. -/
theorem Rotates.turn_perform (rotates : lobby.Rotates) (move : Move) (matchId : MatchId) :
    ((lobby.perform move).room matchId).TurnIsTaken := by
  cases move with
  | join name connection token => exact turnIsTaken_join rotates.turn name connection token
  | leave connection => exact turnIsTaken_leave (rotates.turn matchId) connection
  | setReady connection ready => exact turnIsTaken_setReady (rotates.turn matchId) connection ready
  | beginHand name =>
    exact turnIsTaken_change rotates.turn fun open' =>
      Room.turnIsTaken_beginHand (rotates.isTaken_first open')
  | resumeHand name awaiting =>
    exact turnIsTaken_change rotates.turn fun _ => (rotates.turn name).resumeHand awaiting
  | advanceTurn name awaiting =>
    exact turnIsTaken_change rotates.turn fun open' =>
      Room.turnIsTaken_advanceTurn (rotates.isTaken_first open') awaiting
  | endHand name =>
    exact turnIsTaken_change rotates.turn fun _ => Room.turnIsTaken_endHand _

theorem Rotates.perform (rotates : lobby.Rotates) (move : Move) : (lobby.perform move).Rotates where
  run := rotates.run.perform move
  roster matchId := by
    obtain ⟨tokens, roster⟩ := rotates.roster matchId
    exact ⟨_, roster.perform move⟩
  turn := rotates.turn_perform move

theorem Rotates.after (rotates : lobby.Rotates) (moves : List Move) :
    (lobby.after moves).Rotates := by
  induction moves generalizing lobby with
  | nil => exact rotates
  | cons move rest ih => exact ih (rotates.perform move)

end Steps

section Runs

variable {matchId : MatchId} {room : Room}

/-- After any operations the taken seats of every room are the first ones, and there are some. The
turn is with nobody or at a taken seat, however few players there are and whichever side is
awaited. -/
theorem turn_at_taken_seat (moves : List Move)
    (found : (Lobby.empty.after moves).rooms.get? matchId = some room) :
    Seat.all.filter room.isTaken ≠ [] ∧ Seat.all.filter room.isTaken <+: Seat.all ∧
      ((Lobby.empty.after moves).currentTurn matchId = none ∨
        ∃ seat, (Lobby.empty.after moves).currentTurn matchId = some seat ∧ room.isTaken seat) := by
  have rotates := rotates_empty.after moves
  have open' : (Lobby.empty.after moves).hasRoom matchId := Option.isSome_iff_exists.mpr ⟨room, found⟩
  obtain ⟨tokens, roster⟩ := rotates.roster matchId
  have nonempty := roster.ne_nil rotates.run.mirrored open'
  have kept := rotates.turn matchId
  have here := Lobby.room_of_get? _ matchId found
  rw [here] at kept
  have filled : Seat.all.filter room.isTaken = Seat.all.take tokens.length := by
    rw [← Seat.filter_idxOf_lt roster.few]
    refine List.filter_congr fun seat _ => ?_
    rw [Bool.eq_iff_iff, ← here, roster.isTaken_iff, decide_eq_true_eq]
  have turn : (Lobby.empty.after moves).currentTurn matchId = room.turn := by
    rw [currentTurn, found, Option.bind_some]
  refine ⟨?_, ?_, ?_⟩
  · rw [filled, ne_eq, List.take_eq_nil_iff, not_or]
    exact ⟨fun none' => nonempty (List.length_eq_zero_iff.mp none'), by decide⟩
  · rw [filled]
    exact List.take_prefix _ _
  · rw [turn]
    cases now : room.turn with
    | none => exact Or.inl rfl
    | some seat => exact Or.inr ⟨seat, rfl, kept seat now⟩

/-- Two players of one side. The card of the other side is awaited, so the turn is with nobody, until
it comes to the first seat, whose player has gone meanwhile. -/
theorem turn_at_taken_seat_of_one_side :
    let moves : List Move := [.join "match_1" "a" "ana", .join "match_1" "b" "bia",
      .beginHand "match_1", .advanceTurn "match_1" (some .b), .leave "a",
      .advanceTurn "match_1" (some .b)]
    ∃ room, (Lobby.empty.after moves).rooms.get? "match_1" = some room ∧
      (Lobby.empty.after moves).currentTurn "match_1" = some .t1a ∧
      room.isConnected .t1a = false ∧ room.isTaken .t1a := by
  intro moves
  obtain ⟨room, found, away⟩ : ∃ room,
      (Lobby.empty.after moves).rooms.get? "match_1" = some room ∧ room.isConnected .t1a = false :=
    ⟨_, rfl, by decide +kernel⟩
  have turn : (Lobby.empty.after moves).currentTurn "match_1" = some .t1a := by decide +kernel
  obtain ⟨_, _, nobody | ⟨seat, there, taken⟩⟩ := turn_at_taken_seat moves found
  · rw [turn] at nobody
    cases nobody
  · obtain rfl := Option.some.inj (turn.symm.trans there)
    exact ⟨room, found, turn, away, taken⟩

end Runs

end Lobby

end TrucoPaulista
