import TrucoPaulista.Hand
import TrucoPaulista.Lobby

namespace TrucoPaulista

namespace Room

/-- Whether a seat that has the turn in a room is taken and may play, and the room waits for the
side that the hand being played waits for. -/
def Follows (room : Room) (hand : Option Hand) : Prop :=
  ∀ seat, room.turn = some seat →
    ∃ h, hand = some h ∧ room.isTaken seat ∧ room.awaiting = h.awaiting ∧ room.mayPlay seat

section Seats

variable {room : Room} {seat next : Seat}

theorem mayPlay_iff : room.mayPlay seat ↔ ∀ side, room.awaiting = some side → seat.side = side := by
  unfold mayPlay
  cases room.awaiting <;> simp

theorem of_mem_candidates (member : next ∈ room.candidates seat) :
    room.isTaken next ∧ room.mayPlay next := by
  unfold candidates at member
  simpa using (List.mem_filter.mp member).2

theorem of_nextTurn (found : room.nextTurn seat = some next) :
    room.isTaken next ∧ room.mayPlay next :=
  of_mem_candidates (List.mem_of_head? found)

theorem of_nextLiveTurn (found : room.nextLiveTurn seat = some next) :
    room.isTaken next ∧ room.mayPlay next := by
  unfold nextLiveTurn at found
  rcases Option.or_eq_some_iff.mp found with live | ⟨_, first⟩
  · exact of_mem_candidates (List.mem_of_find?_eq_some live)
  · exact of_nextTurn first

theorem isTaken_sit (room : Room) (seat query : Seat) (chair : Chair) (taken : room.isTaken query) :
    (room.sit seat chair).isTaken query := by
  unfold isTaken chair? sit at *
  by_cases same : query = seat <;> simp [same, taken]

theorem isTaken_of_canStart (full : room.canStart) (seat : Seat) : room.isTaken seat := by
  unfold canStart at full
  have ready := List.all_eq_true.mp full seat (by cases seat <;> simp [Seat.all])
  unfold isTaken
  cases found : room.chair? seat with
  | none => simp [found] at ready
  | some chair => rfl

end Seats

section Steps

variable {room : Room} {hand : Option Hand}

theorem follows_of_turn_eq_none (turn : room.turn = none) : room.Follows hand := by
  intro seat found
  simp [turn] at found

theorem Follows.sit (follows : room.Follows hand) (seat : Seat) (chair : Chair) :
    (room.sit seat chair).Follows hand := by
  intro query turn
  obtain ⟨h, being, taken, awaiting, allowed⟩ := follows query turn
  exact ⟨h, being, room.isTaken_sit seat query chair taken, awaiting, allowed⟩

theorem Follows.disconnect (follows : room.Follows hand) (seat : Seat) (connection : ConnectionId) :
    (room.disconnect seat connection).Follows hand := by
  unfold Room.disconnect
  split
  next chair _ =>
    split
    next => exact follows.sit seat _
    next => exact follows
  next => exact follows

theorem Follows.passTurn (follows : room.Follows hand) (seat : Seat) :
    (room.passTurn seat).Follows hand := by
  unfold Room.passTurn
  split
  next turn =>
    -- the chair of the seat that was left may stay the only candidate, so nobody need be there
    obtain ⟨h, being, _, awaiting, _⟩ := follows seat turn
    intro next found
    have chosen := of_nextLiveTurn found
    exact ⟨h, being, chosen.1, awaiting, chosen.2⟩
  next => exact follows

theorem follows_beginHand {h : Hand} (full : room.canStart) (awaiting : h.awaiting = none) :
    room.beginHand.Follows (some h) := by
  intro seat turn
  exact ⟨h, rfl, isTaken_of_canStart full seat, awaiting.symm, rfl⟩

theorem Follows.resumeHand {h : Hand} (follows : room.Follows (some h)) :
    (room.resumeHand h.awaiting).Follows (some h) := by
  unfold Room.resumeHand
  split
  next => exact follows
  next =>
    intro seat found
    have chosen := of_nextLiveTurn found
    exact ⟨h, rfl, chosen.1, rfl, chosen.2⟩

theorem follows_advanceTurn {h : Hand} (turn : room.turn ≠ none) :
    (room.advanceTurn h.awaiting).Follows (some h) := by
  unfold Room.advanceTurn
  dsimp only
  split
  next =>
    intro seat found
    have chosen := of_nextTurn found
    exact ⟨h, rfl, chosen.1, rfl, chosen.2⟩
  next missing => exact absurd missing turn

theorem follows_endHand (room : Room) (hand : Option Hand) : room.endHand.Follows hand :=
  follows_of_turn_eq_none rfl

end Steps

end Room

namespace Lobby

/-- Whether the turn in the room of a match, if it has one, is one in this hand. -/
def Follows (lobby : Lobby) (matchId : MatchId) (hand : Option Hand) : Prop :=
  ∀ room, lobby.rooms.get? matchId = some room → room.Follows hand

section Steps

variable {lobby lobby' : Lobby} {matchId : MatchId} {hand : Option Hand}

theorem Follows.of_rooms (follows : lobby.Follows matchId hand)
    (same : lobby'.rooms.get? matchId = lobby.rooms.get? matchId) : lobby'.Follows matchId hand := by
  intro room found
  exact follows room (same ▸ found)

/-- A room that is changed is the one of the match, or it is of no concern. -/
theorem Follows.insert (follows : lobby.Follows matchId hand) {name : MatchId} {room : Room}
    (changed : name = matchId → room.Follows hand)
    (rooms : lobby'.rooms = lobby.rooms.insert name room) : lobby'.Follows matchId hand := by
  intro room' found
  rw [rooms, Dict.get?_insert] at found
  by_cases same : matchId = name
  · rw [if_pos same] at found
    exact Option.some.inj found ▸ changed same.symm
  · rw [if_neg same] at found
    exact follows room' found

@[simp] theorem rooms_bind (lobby : Lobby) (matchId : MatchId) (connection : ConnectionId)
    (seat : Seat) : (lobby.bind matchId connection seat).2.rooms = lobby.rooms := by
  unfold bind
  dsimp only
  split <;> rfl

theorem Follows.seatToken (follows : lobby.Follows matchId hand) (connection : ConnectionId)
    (token : String) : (lobby.seatToken matchId connection token).2.Follows matchId hand := by
  have entered : ((lobby.rooms.get? matchId).getD .empty).Follows hand := by
    cases found : lobby.rooms.get? matchId with
    | none => exact Room.follows_of_turn_eq_none rfl
    | some room => exact follows room found
  have opened : Lobby.Follows { lobby with
      rooms := lobby.rooms.insert matchId ((lobby.rooms.get? matchId).getD .empty) } matchId hand :=
    follows.insert (fun _ => entered) rfl
  unfold Lobby.seatToken
  dsimp only
  split
  next seat _ =>
    split
    next chair _ => exact opened.insert (fun _ => entered.sit seat _) (rooms_bind _ _ _ _)
    next => exact opened.of_rooms (by rw [rooms_bind])
  next =>
    split
    next => exact opened
    next seat _ => exact opened.insert (fun _ => entered.sit seat _) (rooms_bind _ _ _ _)

theorem Follows.join (follows : lobby.Follows matchId hand) (connection : ConnectionId)
    (token : String) : (lobby.join matchId connection token).2.Follows matchId hand := by
  unfold Lobby.join
  dsimp only
  split
  next => exact follows
  next =>
    split
    next =>
      split
      next => exact follows
      next => split <;> exact follows
    next => exact follows.seatToken connection _

/-- Whoever goes may take the room along, but no turn that the hand does not give. -/
theorem Follows.leave (follows : lobby.Follows matchId hand) (connection : ConnectionId) :
    (lobby.leave connection).2.Follows matchId hand := by
  unfold Lobby.leave
  split
  next => exact follows
  next name seat _ =>
    dsimp only
    split
    next => exact follows
    next room found =>
      split
      next =>
        refine follows.insert ?_ rfl
        rintro rfl
        exact ((follows room found).disconnect seat connection).passTurn seat
      next =>
        intro room' there
        rw [Dict.get?_erase] at there
        split at there
        next => simp at there
        next => exact follows room' there

theorem Follows.unseat (follows : lobby.Follows matchId hand) (connections : List ConnectionId) :
    (connections.foldl (fun lobby connection => (lobby.leave connection).2) lobby).Follows
      matchId hand := by
  induction connections generalizing lobby with
  | nil => exact follows
  | cons connection rest ih => exact ih (follows.leave connection)

theorem Follows.setReady (follows : lobby.Follows matchId hand) (connection : ConnectionId)
    (ready : Bool) : (lobby.setReady connection ready).2.Follows matchId hand := by
  unfold Lobby.setReady
  split
  next => exact follows
  next name seat _ =>
    split
    next => exact follows
    next room found =>
      split
      next => exact follows
      next chair _ =>
        refine follows.insert ?_ rfl
        rintro rfl
        exact (follows room found).sit seat _

/-- A player that has the turn has a session at the seat that has it. -/
theorem Follows.session_of_turn (follows : lobby.Follows matchId hand) {connection : ConnectionId}
    (turn : lobby.isPlayersTurn connection matchId) :
    ∃ room session, lobby.rooms.get? matchId = some room ∧ room.turn = some session.seat ∧
      lobby.session connection = some session ∧ session.matchId = matchId := by
  unfold isPlayersTurn at turn
  split at turn
  next bound seat binding =>
    simp only [currentTurn, Bool.and_eq_true, decide_eq_true_eq, Option.bind_eq_some_iff] at turn
    obtain ⟨rfl, room, found, current⟩ := turn
    obtain ⟨_, _, taken, _⟩ := follows room found seat current
    obtain ⟨chair, there⟩ := Option.isSome_iff_exists.mp taken
    refine ⟨room, ⟨bound, seat, chair.token, connection⟩, found, current, ?_, rfl⟩
    simp [session, binding, sessionAt, found, there]
  next => contradiction

theorem follows_change {step : Room → Room}
    (changed : ∀ room, lobby.rooms.get? matchId = some room → (step room).Follows hand) :
    (lobby.change matchId step).2.Follows matchId hand := by
  unfold change
  split
  next missing =>
    intro room found
    simp [missing] at found
  next room found =>
    intro room' there
    rw [Dict.get?_insert, if_pos rfl] at there
    exact Option.some.inj there ▸ changed room found

end Steps

end Lobby

end TrucoPaulista
