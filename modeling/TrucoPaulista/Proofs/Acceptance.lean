import TrucoPaulista.Proofs.Course

namespace TrucoPaulista

/-- In a hand that is being played, the card of a side lies open exactly while the other side is
awaited. -/
theorem Hand.Running.isSome_cardOf_iff {h : Hand} (running : h.Running) (side : Side) :
    (h.current.cardOf side).isSome ↔ h.awaiting = some side.other := by
  rcases Round.open_cases running.ongoing with fresh | ⟨holder, answer, alone⟩
  · rw [fresh, Round.cardOf_start, Hand.awaiting_of_start fresh]
    simp
  · rw [Hand.awaiting_of_alone running.unfinished alone, alone]
    cases holder <;> cases side <;> simp [Side.other]

namespace Match

/-- The matches that a course leads to, however it began. -/
def Reached (m : Match) : Prop :=
  ∃ points first deeds, Begins points first ∧ m = first.after deeds

variable {m : Match}

theorem Reached.sound (reached : m.Reached) : m.Sound := by
  obtain ⟨points, first, deeds, begins, rfl⟩ := reached
  exact (begins.sound.1.after deeds).1

/-- A side has a card in the round that is being played. -/
def HasLaid (m : Match) (side : Side) : Prop :=
  ∃ h, m.hand = some h ∧ (h.current.cardOf side).isSome

theorem Sound.hasLaid_iff (sound : m.Sound) (side : Side) :
    m.HasLaid side ↔ ∃ h, m.hand = some h ∧ h.awaiting = some side.other := by
  constructor
  · rintro ⟨h, found, laid⟩
    exact ⟨h, found, ((sound.running h found).isSome_cardOf_iff side).mp laid⟩
  · rintro ⟨h, found, awaited⟩
    exact ⟨h, found, ((sound.running h found).isSome_cardOf_iff side).mpr awaited⟩

/-- A card is accepted only from a side that has none in the round. -/
theorem not_hasLaid_of_accepted {h h' : Hand} {side : Side} {card : Card}
    {round : Option RoundResult} (running : h.Running) (found : m.hand = some h)
    (played : h.play side card = (.ok round, h')) : ¬m.HasLaid side := by
  rintro ⟨same, found', laid⟩
  obtain rfl := Option.some.inj (found.symm.trans found')
  rw [Hand.play_of_laid card running.unfinished running.ongoing laid] at played
  simp at played

section Play

variable {side : Side} {card : Card}

/-- All that a match can answer to a card, with nothing said of the match that an accepted one
leaves. -/
theorem Sound.play_answers (sound : m.Sound) (side : Side) (card : Card) :
    (m.state ≠ .inProgress ∧ m.play side card = (.error .matchNotInProgress, m)) ∨
    (m.state = .inProgress ∧ m.HasLaid side ∧
      m.play side card = (.error (.sideAlreadyPlayed side), m)) ∨
    (m.state = .inProgress ∧ ¬m.HasLaid side ∧ ∃ outcome, (m.play side card).1 = .ok outcome) := by
  rcases sound.play_cases side card with ⟨idle, refused⟩ | ⟨going, h, found, laid, refused⟩ |
    ⟨going, h, h', _, found, played, _, accepted⟩ | ⟨going, h, h', _, found, played, _, accepted⟩
  · exact Or.inl ⟨idle, refused⟩
  · exact Or.inr (Or.inl ⟨going, ⟨h, found, laid⟩, refused⟩)
  · have free := not_hasLaid_of_accepted (sound.running h found) found played
    exact Or.inr (Or.inr ⟨going, free, _, congrArg Prod.fst accepted⟩)
  · have free := not_hasLaid_of_accepted (sound.running h found) found played
    exact Or.inr (Or.inr ⟨going, free, _, congrArg Prod.fst accepted⟩)

/-- A card is refused exactly if no hand is being played, or else if its side has laid a card in the
round. -/
theorem Sound.play_refused_iff (sound : m.Sound) {refusal : GameError} :
    (m.play side card).1 = .error refusal ↔
      (m.state ≠ .inProgress ∧ refusal = .matchNotInProgress) ∨
      (m.state = .inProgress ∧ m.HasLaid side ∧ refusal = .sideAlreadyPlayed side) := by
  rcases sound.play_answers side card with
    ⟨idle, refused⟩ | ⟨going, laid, refused⟩ | ⟨going, free, outcome, accepted⟩
  · simp [refused, idle, eq_comm]
  · simp [refused, going, laid, eq_comm]
  · simp [accepted, going, free]

theorem Sound.play_accepted_iff (sound : m.Sound) :
    (∃ outcome, (m.play side card).1 = .ok outcome) ↔
      m.state = .inProgress ∧ ¬m.HasLaid side := by
  rcases sound.play_answers side card with
    ⟨idle, refused⟩ | ⟨going, laid, refused⟩ | ⟨going, free, outcome, accepted⟩
  · simp [refused, idle]
  · simp [refused, laid]
  · simp [accepted, going, free]

theorem Sound.eq_of_play_refused (sound : m.Sound) {refusal : GameError}
    (answer : (m.play side card).1 = .error refusal) : (m.play side card).2 = m := by
  rcases sound.play_answers side card with ⟨_, refused⟩ | ⟨_, _, refused⟩ | ⟨_, _, _, accepted⟩
  · rw [refused]
  · rw [refused]
  · simp [accepted] at answer

end Play

theorem start_refused_iff {vira : Rank} {refusal : GameError} :
    (m.start vira).1 = .error refusal ↔ m.state = .finished ∧ refusal = .matchFinished := by
  rcases m.start_cases vira with ⟨state, done⟩ | ⟨state, done⟩ | ⟨state, done⟩
  · simp [done, state, eq_comm]
  · simp [done, state]
  · simp [done, state]

theorem eq_of_start_refused {vira : Rank} {refusal : GameError}
    (answer : (m.start vira).1 = .error refusal) : (m.start vira).2 = m := by
  rcases m.start_cases vira with ⟨_, done⟩ | ⟨_, done⟩ | ⟨_, done⟩
  · rw [done]
  · rw [done]
  · simp [done] at answer

/-- A match that a course led to refuses a card for one of two reasons: no hand is being played, or
the side has its card in the round already, so that the other side is awaited. Any other card is
accepted. A hand is refused only to a match that is over, and then it is. Whatever is refused, and
a hand that is called for while one is being played, leaves the match as it was. -/
theorem Reached.refuses_exactly (reached : m.Reached) (side : Side) (card : Card) (vira : Rank) :
    (∀ refusal, (m.play side card).1 = .error refusal ↔
      (m.state ≠ .inProgress ∧ refusal = .matchNotInProgress) ∨
      (m.state = .inProgress ∧ m.HasLaid side ∧ refusal = .sideAlreadyPlayed side)) ∧
    (m.HasLaid side ↔ ∃ h, m.hand = some h ∧ h.awaiting = some side.other) ∧
    ((∃ outcome, (m.play side card).1 = .ok outcome) ↔
      m.state = .inProgress ∧ ¬m.HasLaid side) ∧
    (∀ refusal, (m.start vira).1 = .error refusal ↔
      m.state = .finished ∧ refusal = .matchFinished) ∧
    (∀ refusal, (m.play side card).1 = .error refusal → (m.play side card).2 = m) ∧
    (∀ refusal, (m.start vira).1 = .error refusal → (m.start vira).2 = m) ∧
    ((m.start vira).1 = .ok .alreadyInProgress → (m.start vira).2 = m) := by
  have sound := reached.sound
  refine ⟨fun _ => sound.play_refused_iff, sound.hasLaid_iff side, sound.play_accepted_iff,
    fun _ => start_refused_iff, fun _ => sound.eq_of_play_refused,
    fun _ => eq_of_start_refused, ?_⟩
  intro again
  have answered : m.start vira = (.ok .alreadyInProgress, (m.start vira).2) := Prod.ext again rfl
  exact eq_of_not_started answered (by decide)

/-- In the second round of a hand side B has played, so that its next card is refused and one of
side A is not. -/
theorem Reached.refuses_exactly_second_round : ∃ m, secondRound.restore = .ok m ∧
    m.play .b ⟨.ace, .hearts⟩ = (.error (.sideAlreadyPlayed .b), m) ∧
    (∃ outcome, (m.play .a ⟨.ace, .hearts⟩).1 = .ok outcome) ∧
    m.start .king = (.ok .alreadyInProgress, m) := by
  obtain ⟨m, h, accepted, found, going, awaited, again⟩ :
      ∃ m h, secondRound.restore = .ok m ∧ m.hand = some h ∧ m.state = .inProgress ∧
        h.awaiting = some .a ∧ (m.start .king).1 = .ok .alreadyInProgress :=
    ⟨_, _, rfl, rfl, rfl, rfl, rfl⟩
  have reached : m.Reached := ⟨_, m, [], .restored accepted, rfl⟩
  obtain ⟨refused, laid, _, _, kept, _, same⟩ :=
    reached.refuses_exactly .b ⟨.ace, .hearts⟩ .king
  obtain ⟨_, free, answered, _⟩ := reached.refuses_exactly .a ⟨.ace, .hearts⟩ .king
  have second : (m.play .b ⟨.ace, .hearts⟩).1 = .error (.sideAlreadyPlayed .b) :=
    (refused _).mpr (Or.inr ⟨going, laid.mpr ⟨h, found, awaited⟩, rfl⟩)
  have absent : ¬m.HasLaid .a := by
    intro present
    obtain ⟨h', found', awaited'⟩ := free.mp present
    obtain rfl := Option.some.inj (found.symm.trans found')
    simp [awaited, Side.other] at awaited'
  exact ⟨m, accepted, Prod.ext second (kept _ second), answered.mpr ⟨going, absent⟩,
    Prod.ext again (same again)⟩

end Match

end TrucoPaulista
