import TrucoPaulista.Proofs.Course

namespace TrucoPaulista

namespace Score

section Points

variable {score : Score} {points : UInt32} {side query : Side}

@[simp] theorem of_zero (side : Side) : zero.of side = 0 := by
  cases side <;> rfl

theorem of_addPoint : (score.addPoint side).of query =
    if query = side then increment (score.of side) else score.of query := by
  cases side <;> cases query <;> rfl

/-- Points that are fewer than some others can be counted up. -/
theorem toNat_increment {fewer : UInt32} (less : fewer < points) :
    (increment fewer).toNat = fewer.toNat + 1 := by
  have below := UInt32.lt_iff_toNat_lt.mp less
  have largest := points.toNat_lt
  have countable : fewer ≠ UInt32.ofNat 4294967295 := by
    rintro rfl
    have value : (UInt32.ofNat 4294967295).toNat = 4294967295 := rfl
    omega
  rw [increment, if_neg countable, UInt32.toNat_add, UInt32.toNat_one]
  omega

/-- Whether no side has more than some points, and at most one side as many. -/
def Within (score : Score) (points : UInt32) : Prop :=
  ∀ side, score.of side ≤ points ∧ (score.of side = points → score.of side.other < points)

theorem leaderAt_eq_none : score.leaderAt points = none ↔ ∀ side, score.of side < points := by
  rw [← Option.not_isSome_iff_eq_none, isSome_leaderAt_iff]
  constructor
  · intro nobody side
    exact UInt32.not_le.mp fun reached => nobody ⟨side, reached⟩
  · rintro fewer ⟨side, reached⟩
    exact UInt32.not_le.mpr (fewer side) reached

theorem of_leaderAt (leads : score.leaderAt points = some side) : points ≤ score.of side := by
  simpa using List.find?_some leads

theorem Within.leaderAt_eq_some (within : score.Within points) :
    score.leaderAt points = some side ↔ score.of side = points := by
  constructor
  · intro leads
    exact UInt32.le_antisymm (within side).1 (of_leaderAt leads)
  · intro reached
    have some' : (score.leaderAt points).isSome :=
      isSome_leaderAt_iff.mpr ⟨side, UInt32.le_of_eq reached.symm⟩
    obtain ⟨leader, leads⟩ := Option.isSome_iff_exists.mp some'
    rcases side.eq_or_eq_other leader with rfl | rfl
    · exact leads
    · have fewer := (within side).2 reached
      exact absurd (of_leaderAt leads) (UInt32.not_le.mpr fewer)

/-- One more point for a side keeps a score in bounds that no side has reached. -/
theorem within_addPoint (fewer : ∀ side, score.of side < points) (side : Side) :
    (score.addPoint side).Within points := by
  intro query
  have counted := toNat_increment (fewer side)
  have room := UInt32.lt_iff_toNat_lt.mp (fewer side)
  by_cases same : query = side
  · subst same
    rw [of_addPoint, of_addPoint, if_pos rfl, if_neg (Side.other_ne query)]
    exact ⟨UInt32.le_iff_toNat_le.mpr (by omega), fun _ => fewer query.other⟩
  · rw [of_addPoint, if_neg same]
    refine ⟨UInt32.le_of_lt (fewer query), ?_⟩
    intro reached
    exact absurd (fewer query) (by rw [reached]; exact UInt32.lt_irrefl points)

end Points

end Score

/-- The number of hands that were reported as won by a side. -/
def handsWon (side : Side) (outcomes : List PlayOutcome) : Nat :=
  outcomes.countP (fun outcome => outcome.hand = some (.won side))

namespace Match

/-- What is answered to a deed. -/
inductive Reply where
  | begun (answer : Except GameError StartOutcome)
  | played (answer : Except GameError PlayOutcome)

/-- What a card that was accepted brought to an end. -/
def Reply.outcomes : Reply → List PlayOutcome
  | played (.ok outcome) => [outcome]
  | _ => []

def reply (m : Match) : Deed → Reply
  | .start vira => .begun (m.start vira).1
  | .play side card => .played (m.play side card).1

/-- What is answered to some deeds, one after the other. -/
def replies (m : Match) : List Deed → List Reply
  | [] => []
  | deed :: rest => m.reply deed :: (m.perform deed).replies rest

/-- What the cards that were accepted among some deeds brought to an end. -/
def outcomes (m : Match) (deeds : List Deed) : List PlayOutcome :=
  (m.replies deeds).flatMap Reply.outcomes

/-- A match in which no side ever had more points than are needed, nor both sides as many. -/
structure Regular (m : Match) : Prop where
  sound : m.Sound
  within : m.score.Within m.pointsToWin

/-- Whether a side has won a match for good: all that is tried afterwards is refused. -/
structure IsWonBy (m : Match) (side : Side) : Prop where
  winner : m.winner = some side
  start : ∀ vira, m.start vira = (.error .matchFinished, m)
  play : ∀ side card, m.play side card = (.error .matchNotInProgress, m)

section Steps

variable {m : Match} {deed : Deed}

theorem outcomes_cons (m : Match) (deed : Deed) (rest : List Deed) :
    m.outcomes (deed :: rest) = (m.reply deed).outcomes ++ (m.perform deed).outcomes rest :=
  List.flatMap_cons

theorem after_cons (m : Match) (deed : Deed) (rest : List Deed) :
    m.after (deed :: rest) = (m.perform deed).after rest := rfl

theorem Sound.fewer (sound : m.Sound) (going : m.state ≠ .finished) (side : Side) :
    m.score.of side < m.pointsToWin := by
  have leaderless : ¬(m.score.leaderAt m.pointsToWin).isSome := fun leads =>
    going (sound.finished.mpr leads)
  rw [Option.not_isSome_iff_eq_none, Score.leaderAt_eq_none] at leaderless
  exact leaderless side

/-- A deed is a card that ends the hand, or it leaves the score as it is and reports no winner. -/
theorem Sound.perform_cases (sound : m.Sound) (deed : Deed) :
    (m.state = .inProgress ∧ ∃ round result, m.perform deed = m.closeHand result ∧
      m.reply deed = .played (.ok ⟨round, some result,
        (m.closeHand result).score.leaderAt m.pointsToWin⟩)) ∨
    ((m.perform deed).score = m.score ∧
      ((m.reply deed).outcomes = [] ∨ ∃ round, (m.reply deed).outcomes = [⟨round, none, none⟩])) := by
  cases deed with
  | start vira =>
    refine Or.inr ⟨?_, Or.inl rfl⟩
    rcases m.start_cases vira with ⟨_, done⟩ | ⟨_, done⟩ | ⟨_, done⟩ <;> simp [Match.perform, done]
  | play side card =>
    rcases sound.play_cases side card with ⟨_, done⟩ | ⟨_, _, _, _, done⟩ |
      ⟨_, _, _, round, _, _, _, done⟩ | ⟨going, _, h, round, _, _, _, done⟩
    · simp [Match.perform, reply, done, Reply.outcomes]
    · simp [Match.perform, reply, done, Reply.outcomes]
    · simp [Match.perform, reply, done, Reply.outcomes]
    · exact Or.inl ⟨going, round, h.result.getD .drawn, by simp [Match.perform, done],
        by simp [reply, done]⟩

theorem of_closeHand (result : HandResult) (side : Side) :
    (m.closeHand result).score.of side =
      if result = .won side then Score.increment (m.score.of side) else m.score.of side := by
  cases result with
  | drawn => simp [closeHand]
  | won winner =>
    simp only [closeHand, Score.of_addPoint, HandResult.won.injEq]
    by_cases same : side = winner
    · simp [same]
    · simp [same, Ne.symm same]

theorem Regular.closeHand (regular : m.Regular) (going : m.state = .inProgress)
    (result : HandResult) : (m.closeHand result).Regular := by
  refine ⟨regular.sound.closeHand result, ?_⟩
  have fewer := regular.sound.fewer (by simp [going])
  cases result with
  | drawn => exact regular.within
  | won side => exact Score.within_addPoint fewer side

theorem Regular.perform (regular : m.Regular) (deed : Deed) : (m.perform deed).Regular := by
  obtain ⟨sound, points⟩ := regular.sound.perform deed
  rcases regular.sound.perform_cases deed with ⟨going, _, result, closed, _⟩ | ⟨same, _⟩
  · rw [closed]
    exact regular.closeHand going result
  · refine ⟨sound, ?_⟩
    rw [same, points]
    exact regular.within

/-- A deed adds the hands that it reports as won to the points of their winners. -/
theorem Regular.of_perform (regular : m.Regular) (deed : Deed) (side : Side) :
    ((m.perform deed).score.of side).toNat =
      (m.score.of side).toNat + handsWon side (m.reply deed).outcomes := by
  rcases regular.sound.perform_cases deed with
    ⟨going, round, result, closed, replied⟩ | ⟨same, none' | ⟨round, some'⟩⟩
  · rw [closed, replied, of_closeHand]
    have fewer := regular.sound.fewer (by simp [going]) side
    by_cases won : result = .won side
    · simp [won, Score.toNat_increment fewer, handsWon, Reply.outcomes]
    · simp [won, handsWon, Reply.outcomes]
  · simp [same, none', handsWon]
  · simp [same, some', handsWon]

theorem Regular.matchWinner_iff (regular : m.Regular) (deed : Deed) (side : Side) :
    (∃ outcome, m.reply deed = .played (.ok outcome) ∧ outcome.matchWinner = some side) ↔
      m.score.of side < m.pointsToWin ∧ (m.perform deed).score.of side = m.pointsToWin := by
  rcases regular.sound.perform_cases deed with
    ⟨going, round, result, closed, replied⟩ | ⟨same, others⟩
  · have within := (regular.closeHand going result).within
    have fewer := regular.sound.fewer (by simp [going]) side
    rw [pointsToWin_closeHand] at within
    rw [closed, replied, ← within.leaderAt_eq_some]
    constructor
    · rintro ⟨outcome, reported, winner⟩
      cases reported
      exact ⟨fewer, winner⟩
    · rintro ⟨_, winner⟩
      exact ⟨_, rfl, winner⟩
  · rw [same]
    constructor
    · rintro ⟨outcome, replied, winner⟩
      rcases others with none' | ⟨round, some'⟩
      · simp [replied, Reply.outcomes] at none'
      · simp only [replied, Reply.outcomes, List.cons.injEq, and_true] at some'
        simp [some'] at winner
    · rintro ⟨fewer, reached⟩
      exact absurd fewer (by rw [reached]; exact UInt32.lt_irrefl _)

theorem isWonBy_of_finished {side : Side} (finished : m.state = .finished)
    (leads : m.score.leaderAt m.pointsToWin = some side) : m.IsWonBy side where
  winner := by simp [winner, isFinished, finished, leads]
  start := by simp [start, finished]
  play := by simp [play, finished]

theorem Regular.isWonBy_of_matchWinner (regular : m.Regular) {outcome : PlayOutcome} {side : Side}
    (replied : m.reply deed = .played (.ok outcome)) (winner : outcome.matchWinner = some side) :
    outcome.hand = some (.won side) ∧ (m.perform deed).IsWonBy side := by
  have regular' := regular.perform deed
  have points := (regular.sound.perform deed).2
  obtain ⟨fewer, reached⟩ := (regular.matchWinner_iff deed side).mp ⟨outcome, replied, winner⟩
  have gained := regular.of_perform deed side
  have more := UInt32.lt_iff_toNat_lt.mp fewer
  rw [reached, replied] at gained
  have counted : 0 < handsWon side [outcome] := by
    have same : m.pointsToWin.toNat = (m.score.of side).toNat + handsWon side [outcome] := gained
    omega
  refine ⟨?_, ?_⟩
  · obtain ⟨_, member, won⟩ := List.countP_pos_iff.mp counted
    rw [List.mem_singleton.mp member] at won
    exact of_decide_eq_true won
  · rw [← points, ← regular'.within.leaderAt_eq_some] at reached
    exact isWonBy_of_finished (regular'.sound.finished.mpr (by simp [reached])) reached

theorem play_of_accepted {h h' : Hand} {side : Side} {card : Card} {round : Option RoundResult}
    (going : m.state = .inProgress) (found : m.hand = some h)
    (played : h.play side card = (.ok round, h')) :
    ∃ outcome, (m.play side card).1 = .ok outcome := by
  simp only [play, going, found, played]
  split
  next => exact ⟨_, rfl⟩
  next => exact ⟨_, rfl⟩

/-- As long as no side has the points needed, a hand can be begun, and then played. -/
theorem Sound.goes_on (sound : m.Sound) (fewer : ∀ side, m.score.of side < m.pointsToWin)
    (vira : Rank) : (∃ begun, m.reply (.start vira) = .begun (.ok begun)) ∧
      ∃ side, ∀ card, ∃ outcome,
        (m.perform (.start vira)).reply (.play side card) = .played (.ok outcome) := by
  have unfinished : m.state ≠ .finished := by
    rw [Ne, sound.finished, Score.leaderAt_eq_none.mpr fewer]
    simp
  have begun : (∃ begun, m.reply (.start vira) = .begun (.ok begun)) ∧
      (m.perform (.start vira)).state = .inProgress := by
    rcases m.start_cases vira with ⟨ended, _⟩ | ⟨going, done⟩ | ⟨_, done⟩
    · exact absurd ended unfinished
    · exact ⟨⟨_, by rw [reply, done]⟩, by rw [Match.perform, done, going]⟩
    · exact ⟨⟨_, by rw [reply, done]⟩, by rw [Match.perform, done]⟩
  obtain ⟨answered, going⟩ := begun
  obtain ⟨h, found, running⟩ := (sound.perform (.start vira)).1.hand_of_inProgress going
  obtain ⟨side, accepts⟩ := running.exists_accepted
  refine ⟨answered, side, fun card => ?_⟩
  obtain ⟨round, accepted⟩ := accepts card
  rcases played : h.play side card with ⟨answer, h'⟩
  rw [played] at accepted
  obtain rfl : answer = .ok round := accepted
  obtain ⟨outcome, answered⟩ := play_of_accepted going found played
  exact ⟨outcome, by rw [reply, answered]⟩

theorem IsWonBy.after {side : Side} (won : m.IsWonBy side) (deeds : List Deed) :
    m.after deeds = m := by
  induction deeds with
  | nil => rfl
  | cons deed rest ih =>
    have same : m.perform deed = m := by
      cases deed with
      | start vira => rw [perform, won.start]
      | play side card => rw [perform, won.play]
    rw [after_cons, same, ih]

end Steps

section Runs

variable {m : Match}

theorem Regular.after (regular : m.Regular) (deeds : List Deed) : (m.after deeds).Regular := by
  induction deeds generalizing m with
  | nil => exact regular
  | cons deed rest ih => exact ih (regular.perform deed)

theorem Regular.of_after (regular : m.Regular) (deeds : List Deed) (side : Side) :
    ((m.after deeds).score.of side).toNat =
      (m.score.of side).toNat + handsWon side (m.outcomes deeds) := by
  induction deeds generalizing m with
  | nil => rfl
  | cons deed rest ih =>
    have later := ih (regular.perform deed)
    have now := regular.of_perform deed side
    have both : handsWon side (m.outcomes (deed :: rest)) =
        handsWon side (m.reply deed).outcomes + handsWon side ((m.perform deed).outcomes rest) := by
      rw [outcomes_cons, handsWon, List.countP_append]
      rfl
    rw [after_cons, later, now, both]
    omega

theorem regular_of_create {points : UInt32} (created : Match.create points = .ok m) :
    m.Regular ∧ m.pointsToWin = points ∧ m.score = .zero := by
  have sound := sound_of_create created
  obtain ⟨_, same⟩ := (Begins.created created).sound
  have nothing : m.score = .zero := by
    unfold create at created
    split at created
    next => contradiction
    next => cases created; rfl
  refine ⟨⟨sound, ?_⟩, same, nothing⟩
  rw [nothing]
  intro side
  have positive : Score.zero.of side < m.pointsToWin := by
    rw [Score.of_zero]
    exact UInt32.pos_iff_ne_zero.mpr sound.positive
  refine ⟨UInt32.le_of_lt positive, ?_⟩
  intro reached
  exact absurd positive (by rw [reached]; exact UInt32.lt_irrefl _)

theorem create_eq_ok {points : UInt32} (positive : 1 ≤ points) :
    ∃ m, Match.create points = .ok m := by
  unfold create
  split
  next none' =>
    subst none'
    exact absurd positive (by decide)
  next => exact ⟨_, rfl⟩

/-- In a match that begins anew, whatever is done in it, the points of each side are the hands that
were reported as won by it. No side gets more points than are needed, nor both sides as many, and
counting never comes to its limit. The winner is reported by exactly the card that brings its side
to the points needed, and has won the hand with it. From then on the match stays as it is, its winner is
this one, and all that is tried is refused. Until then the match can go on. -/
theorem score_tallies_hands {points : UInt32} (positive : 1 ≤ points) (deeds : List Deed) :
    ∃ new, Match.create points = .ok new ∧
      (∀ side, ((new.after deeds).score.of side).toNat = handsWon side (new.outcomes deeds)) ∧
      (∀ side, (new.after deeds).score.of side ≤ points ∧
        ((new.after deeds).score.of side = points → (new.after deeds).score.of side.other < points)) ∧
      (∀ deed outcome side, (new.after deeds).reply deed = .played (.ok outcome) →
        outcome.hand = some (.won side) →
        (((new.after deeds).perform deed).score.of side).toNat =
          ((new.after deeds).score.of side).toNat + 1) ∧
      (∀ deed side, (∃ outcome, (new.after deeds).reply deed = .played (.ok outcome) ∧
        outcome.matchWinner = some side) ↔ (new.after deeds).score.of side < points ∧
          ((new.after deeds).perform deed).score.of side = points) ∧
      (∀ deed outcome side, (new.after deeds).reply deed = .played (.ok outcome) →
        outcome.matchWinner = some side → outcome.hand = some (.won side) ∧
          ∀ later, ((new.after deeds).perform deed).after later = (new.after deeds).perform deed ∧
            (((new.after deeds).perform deed).after later).IsWonBy side) ∧
      ((∀ side, (new.after deeds).score.of side < points) → ∀ vira,
        (∃ begun, (new.after deeds).reply (.start vira) = .begun (.ok begun)) ∧
        ∃ side, ∀ card, ∃ outcome,
          ((new.after deeds).perform (.start vira)).reply (.play side card) =
            .played (.ok outcome)) := by
  obtain ⟨new, created⟩ := create_eq_ok positive
  obtain ⟨begun, same, nothing⟩ := regular_of_create created
  have regular := begun.after deeds
  have points' : (new.after deeds).pointsToWin = points := (begun.sound.after deeds).2.trans same
  refine ⟨new, created, ?_, ?_, ?_, ?_, ?_, ?_⟩
  · intro side
    rw [begun.of_after deeds side, nothing, Score.of_zero, UInt32.toNat_zero, Nat.zero_add]
  · rw [← points']
    exact regular.within
  · intro deed outcome side replied won
    rw [regular.of_perform deed side, replied]
    simp [handsWon, Reply.outcomes, won]
  · rw [← points']
    exact regular.matchWinner_iff
  · intro deed outcome side replied winner
    obtain ⟨hand, won⟩ := regular.isWonBy_of_matchWinner replied winner
    refine ⟨hand, fun later => ?_⟩
    rw [won.after later]
    exact ⟨rfl, won⟩
  · rw [← points']
    exact regular.sound.goes_on

/-- A match for one point, of which side A has won the first round and leads in the second. -/
def lastCard : List Deed :=
  [.start .four, .play .a ⟨.three, .clubs⟩, .play .b ⟨.six, .diamonds⟩, .play .a ⟨.two, .clubs⟩]

/-- The card of side B ends the match, and side A is the winner that is reported for good. -/
theorem score_tallies_hands_last_card : (1 : UInt32) ≤ 1 ∧ ∃ new, Match.create 1 = .ok new ∧
    (new.after lastCard).score.of .a = 0 ∧
    ((new.after lastCard).perform (.play .b ⟨.seven, .hearts⟩)).score.of .a = 1 ∧
    ∃ outcome, (new.after lastCard).reply (.play .b ⟨.seven, .hearts⟩) = .played (.ok outcome) ∧
      outcome.hand = some (.won .a) ∧
      ∀ later, (((new.after lastCard).perform (.play .b ⟨.seven, .hearts⟩)).after later).IsWonBy .a := by
  refine ⟨by decide, ?_⟩
  obtain ⟨new, created, _, _, _, reported, final, _⟩ := score_tallies_hands (by decide : (1 : UInt32) ≤ 1)
    lastCard
  cases created
  obtain ⟨outcome, replied, winner⟩ := (reported (.play .b ⟨.seven, .hearts⟩) .a).mpr
    ⟨by decide, by decide⟩
  obtain ⟨hand, later⟩ := final _ _ _ replied winner
  exact ⟨_, rfl, by decide, by decide, outcome, replied, hand, fun more => (later more).2⟩

end Runs

end Match

end TrucoPaulista
