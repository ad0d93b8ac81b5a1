import TrucoPaulista.Proofs.Tenure

namespace TrucoPaulista

namespace Lobby

/-- The match whose room an operation changes without regard to who asks for it. -/
def Move.room? : Move → Option MatchId
  | .beginHand matchId | .resumeHand matchId _ | .advanceTurn matchId _ | .endHand matchId =>
    some matchId
  | .join _ _ _ | .leave _ | .setReady _ _ => none

/-- The reasons for which a lobby refuses an operation. -/
inductive Refuses (lobby : Lobby) : Move → RoomError → Prop where
  | missingToken {matchId : MatchId} {connection : ConnectionId} {token : String}
      (blank : (Text.trim token).isEmpty) :
      Refuses lobby (.join matchId connection token) .missingToken
  | alreadyInAnotherMatch {matchId other : MatchId} {connection : ConnectionId} {token : String}
      {seat : Seat} (solid : (Text.trim token).isEmpty = false)
      (bound : lobby.bindings.get? connection = some (other, seat)) (elsewhere : other ≠ matchId) :
      Refuses lobby (.join matchId connection token) (.alreadyInAnotherMatch other)
  | matchFull {matchId : MatchId} {connection : ConnectionId} {token : String}
      (solid : (Text.trim token).isEmpty = false)
      (unbound : lobby.bindings.get? connection = none)
      (stranger : ∀ seat, lobby.tokenAt? matchId seat ≠ some (Text.trim token))
      (taken : ∀ seat, (lobby.room matchId).isTaken seat) :
      Refuses lobby (.join matchId connection token) .matchFull
  | notJoined {connection : ConnectionId} {ready : Bool}
      (unbound : lobby.bindings.get? connection = none) :
      Refuses lobby (.setReady connection ready) .notJoined
  | roomNotFound {move : Move} {matchId : MatchId} (concerned : move.room? = some matchId)
      (closed : lobby.hasRoom matchId = false) : Refuses lobby move (.roomNotFound matchId)

/-- The refusal in an answer, if it is one. -/
def refusalIn {α : Type} : Except RoomError α → Option RoomError
  | .ok _ => none
  | .error refusal => some refusal

/-- The refusal with which a lobby answers an operation, if it does. -/
def refusal? (lobby : Lobby) : Move → Option RoomError
  | .join matchId connection token => refusalIn (lobby.join matchId connection token).1
  | .leave _ => none
  | .setReady connection ready => refusalIn (lobby.setReady connection ready).1
  | .beginHand matchId => refusalIn (lobby.beginHand matchId).1
  | .resumeHand matchId awaiting => refusalIn (lobby.resumeHand matchId awaiting).1
  | .advanceTurn matchId awaiting => refusalIn (lobby.advanceTurn matchId awaiting).1
  | .endHand matchId => refusalIn (lobby.endHand matchId).1

section Operations

variable {lobby : Lobby} {matchId : MatchId} {connection : ConnectionId} {refusal : RoomError}

/-- A connection that is bound to a seat finds its session there. -/
theorem Mirrored.sessionAt_of_bound (mirrored : lobby.Mirrored) {seat : Seat}
    (bound : lobby.bindings.get? connection = some (matchId, seat)) :
    ∃ session, lobby.sessionAt connection matchId seat = some session := by
  obtain ⟨session, found, _⟩ := mirrored.exists_session bound
  rw [Lobby.session, bound] at found
  exact ⟨session, found⟩

/-- Whoever asks for a seat is let in, or refused for a reason. -/
theorem Mirrored.join_answers (mirrored : lobby.Mirrored) (matchId : MatchId)
    (connection : ConnectionId) (token : String) :
    (∃ session, (lobby.join matchId connection token).1 = .ok session) ∨
    (∃ refusal, lobby.Refuses (.join matchId connection token) refusal ∧
      lobby.join matchId connection token = (.error refusal, lobby)) := by
  unfold Lobby.join
  dsimp only
  split
  next blank => exact Or.inr ⟨_, .missingToken blank, rfl⟩
  next solid =>
    rw [Bool.not_eq_true] at solid
    split
    next other seat bound =>
      split
      next elsewhere => exact Or.inr ⟨_, .alreadyInAnotherMatch solid bound elsewhere, rfl⟩
      next here =>
        obtain rfl := not_not.mp here
        obtain ⟨session, found⟩ := mirrored.sessionAt_of_bound bound
        exact Or.inl ⟨session, by rw [found]⟩
    next unbound =>
      rcases lobby.seatToken_cases matchId connection (Text.trim token) with
        ⟨taken, stranger, refused⟩ | ⟨seat, _, done⟩
      · exact Or.inr ⟨_, .matchFull solid unbound stranger taken, refused⟩
      · exact Or.inl ⟨_, congrArg Prod.fst done⟩

/-- Only a connection without a seat is refused to become ready. -/
theorem Mirrored.setReady_answers (mirrored : lobby.Mirrored) (connection : ConnectionId)
    (ready : Bool) :
    (∃ view, (lobby.setReady connection ready).1 = .ok view) ∨
    (lobby.bindings.get? connection = none ∧
      lobby.setReady connection ready = (.error .notJoined, lobby)) := by
  unfold Lobby.setReady
  split
  next unbound => exact Or.inr ⟨unbound, rfl⟩
  next matchId seat bound =>
    obtain ⟨session, found⟩ := mirrored.sessionAt_of_bound bound
    obtain ⟨room, there, chair, seated, _⟩ : ∃ room, lobby.rooms.get? matchId = some room ∧
        ∃ chair, room.chair? seat = some chair ∧
          (⟨matchId, seat, chair.token, connection⟩ : Session) = session := by
      simpa [sessionAt, Option.bind_eq_some_iff] using found
    rw [there]
    dsimp only
    rw [seated]
    exact Or.inl ⟨_, rfl⟩

theorem change_of_closed (closed : lobby.hasRoom matchId = false) (step : Room → Room) :
    lobby.change matchId step = (.error (.roomNotFound matchId), lobby) := by
  rw [hasRoom_eq, Option.isSome_eq_false_iff, Option.isNone_iff_eq_none] at closed
  rw [change, closed]

/-- A room is changed if there is one, and otherwise missed. -/
theorem change_answers (lobby : Lobby) (matchId : MatchId) (step : Room → Room) :
    (∃ view, (lobby.change matchId step).1 = .ok view) ∨
    (lobby.hasRoom matchId = false ∧
      lobby.change matchId step = (.error (.roomNotFound matchId), lobby)) := by
  cases open' : lobby.hasRoom matchId with
  | false => exact Or.inr ⟨rfl, change_of_closed open' step⟩
  | true =>
    have found := hasRoom_iff_get?.mp open'
    exact Or.inl ⟨_, by rw [change, found]⟩

/-- What is refused is refused for a reason, and changes nothing. -/
theorem Mirrored.reason_of_refused (mirrored : lobby.Mirrored) {move : Move}
    (refused : lobby.refusal? move = some refusal) :
    lobby.Refuses move refusal ∧ lobby.perform move = lobby := by
  have ofRoom : ∀ matchId step, move.room? = some matchId →
      lobby.refusal? move = refusalIn (lobby.change matchId step).1 →
      lobby.perform move = (lobby.change matchId step).2 →
      lobby.Refuses move refusal ∧ lobby.perform move = lobby := by
    intro matchId step concerned answered performed
    rw [answered] at refused
    rw [performed]
    rcases lobby.change_answers matchId step with ⟨_, done⟩ | ⟨closed, done⟩
    · simp [done, refusalIn] at refused
    · rw [done] at refused ⊢
      obtain rfl := Option.some.inj refused
      exact ⟨.roomNotFound concerned closed, rfl⟩
  cases move with
  | join matchId connection token =>
    rw [refusal?] at refused
    rcases mirrored.join_answers matchId connection token with ⟨_, done⟩ | ⟨_, reason, done⟩
    · simp [done, refusalIn] at refused
    · rw [done] at refused
      obtain rfl := Option.some.inj refused
      exact ⟨reason, congrArg Prod.snd done⟩
  | leave connection => simp [refusal?] at refused
  | setReady connection ready =>
    rw [refusal?] at refused
    rcases mirrored.setReady_answers connection ready with ⟨_, done⟩ | ⟨unbound, done⟩
    · simp [done, refusalIn] at refused
    · rw [done] at refused
      obtain rfl := Option.some.inj refused
      exact ⟨.notJoined unbound, congrArg Prod.snd done⟩
  | beginHand matchId => exact ofRoom matchId _ rfl rfl rfl
  | resumeHand matchId awaiting => exact ofRoom matchId _ rfl rfl rfl
  | advanceTurn matchId awaiting => exact ofRoom matchId _ rfl rfl rfl
  | endHand matchId => exact ofRoom matchId _ rfl rfl rfl

theorem Refuses.refused {move : Move} (reason : lobby.Refuses move refusal) :
    lobby.refusal? move = some refusal := by
  cases reason with
  | missingToken blank => simp [refusal?, join, blank, refusalIn]
  | alreadyInAnotherMatch solid bound elsewhere =>
    simp [refusal?, join, solid, bound, elsewhere, refusalIn]
  | @matchFull matchId connection token solid unbound stranger taken =>
    rw [refusal?, join_of_unbound unbound solid]
    rcases lobby.seatToken_cases matchId connection (Text.trim token) with
      ⟨_, _, done⟩ | ⟨seat, known | ⟨vacant, _⟩, _⟩
    · rw [done]
      rfl
    · exact absurd known (stranger seat)
    · have occupied := taken seat
      simp [Room.isTaken, vacant] at occupied
  | notJoined unbound => simp [refusal?, setReady, unbound, refusalIn]
  | roomNotFound concerned closed =>
    cases move with
    | join | leave | setReady => simp [Move.room?] at concerned
    | beginHand | resumeHand | advanceTurn | endHand =>
      obtain rfl := Option.some.inj concerned
      exact congrArg (fun answer => refusalIn answer.1) (change_of_closed closed _)

/-- A lobby refuses an operation exactly for the reasons that there are, each with its own refusal,
and then is as it was: no room comes into being, and none changes, nor does a binding. -/
theorem Run.refuses_for_reasons (run : Run lobby) (move : Move) :
    (∀ refusal, lobby.refusal? move = some refusal ↔ lobby.Refuses move refusal) ∧
    (lobby.refusal? move ≠ none → lobby.perform move = lobby) := by
  have mirrored := run.mirrored
  constructor
  · intro refusal
    constructor
    · intro refused
      exact (mirrored.reason_of_refused refused).1
    · intro reason
      exact reason.refused
  · intro refused
    obtain ⟨refusal, found⟩ := Option.ne_none_iff_exists'.mp refused
    exact (mirrored.reason_of_refused found).2

/-- Four have sat down in a room when a fifth comes, and one of the four asks for a seat in another
match. -/
theorem Run.refuses_for_reasons_full_room : ∃ lobby, Run lobby ∧
    lobby.refusal? (.join "match_1" "e" "eva") = some .matchFull ∧
    lobby.perform (.join "match_1" "e" "eva") = lobby ∧
    lobby.refusal? (.join "match_2" "a" "ana") = some (.alreadyInAnotherMatch "match_1") ∧
    lobby.perform (.join "match_2" "a" "ana") = lobby := by
  have run := Run.empty
    |>.join "match_1" "a" "ana"
    |>.join "match_1" "b" "bia"
    |>.join "match_1" "c" "caio"
    |>.join "match_1" "d" "davi"
  obtain ⟨lobby, run, stranger, taken, unbound, bound⟩ : ∃ lobby, Run lobby ∧
      (∀ seat, lobby.tokenAt? "match_1" seat ≠ some (Text.trim "eva")) ∧
      (∀ seat, (lobby.room "match_1").isTaken seat) ∧ lobby.bindings.get? "e" = none ∧
      lobby.bindings.get? "a" = some ("match_1", .t1a) := by
    refine ⟨_, run, ?_, ?_, by decide +kernel, by decide +kernel⟩
    · intro seat
      cases seat <;> decide +kernel
    · intro seat
      cases seat <;> decide +kernel
  obtain ⟨refused, kept⟩ := run.refuses_for_reasons (.join "match_1" "e" "eva")
  obtain ⟨refused', kept'⟩ := run.refuses_for_reasons (.join "match_2" "a" "ana")
  have full := (refused _).mpr (.matchFull (by decide +kernel) unbound stranger taken)
  have elsewhere := (refused' _).mpr
    (.alreadyInAnotherMatch (by decide +kernel) bound (by decide))
  exact ⟨lobby, run, full, kept (by simp [full]), elsewhere, kept' (by simp [elsewhere])⟩

end Operations

end Lobby

end TrucoPaulista
