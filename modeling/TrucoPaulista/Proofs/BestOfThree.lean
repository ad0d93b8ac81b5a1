import TrucoPaulista.Proofs.Course

namespace TrucoPaulista

/-- A card that a side lays down, or tries to. -/
structure Play where
  side : Side
  card : Card
  deriving DecidableEq

/-- The entries of a list two by two, in order. A last one that stands alone is left out. -/
def pairs {α : Type} : List α → List (α × α)
  | first :: second :: rest => (first, second) :: pairs rest
  | _ => []

/-- The result of two plays, one of each side: the card of side A is compared with that of side B. -/
def Play.against (vira : Rank) (first second : Play) : RoundResult :=
  match first.side with
  | .a => .ofOutcome (first.card.compare second.card vira)
  | .b => .ofOutcome (second.card.compare first.card vira)

/-- The results of plays that are paired in order. -/
def resultsOfPlays (vira : Rank) (plays : List Play) : List RoundResult :=
  (pairs plays).map (fun pair => pair.1.against vira pair.2)

/-- Whether the results of rounds decide a hand: a side has won two, or there are two of which
exactly one is a tie, or there are three. -/
def IsDecided (results : List RoundResult) : Prop :=
  (∃ side, 2 ≤ results.count (.won side)) ∨
    (results.length = 2 ∧ results.count .tie = 1) ∨ results.length = 3

/-- The side that won two of some rounds. -/
def twiceWinner (results : List RoundResult) : Option Side :=
  Side.all.find? (fun side => 2 ≤ results.count (.won side))

/-- The winner of the only round among some that is not a tie. -/
def soleWinner (results : List RoundResult) : Option Side :=
  match results.filterMap RoundResult.winner with
  | [side] => some side
  | _ => none

/-- What the results of rounds give a hand that they decide: the side with two wins takes it, else
the side that won the one of the first two rounds that is not a tie, else the winner of the third. -/
def verdict (results : List RoundResult) : HandResult :=
  ((twiceWinner results).or
    ((soleWinner (results.take 2)).or (results[2]?.bind RoundResult.winner))).elim .drawn .won

theorem Side.exists_iff {property : Side → Prop} :
    (∃ side, property side) ↔ property .a ∨ property .b := by
  constructor
  · rintro ⟨side, holds⟩
    cases side
    · exact Or.inl holds
    · exact Or.inr holds
  · rintro (holds | holds)
    · exact ⟨.a, holds⟩
    · exact ⟨.b, holds⟩

theorem RoundResult.cases_side (result : RoundResult) :
    result = won .a ∨ result = won .b ∨ result = tie := by
  cases result with
  | won side => cases side <;> simp
  | tie => simp

instance (results : List RoundResult) : Decidable (IsDecided results) :=
  decidable_of_iff ((2 ≤ results.count (.won .a) ∨ 2 ≤ results.count (.won .b)) ∨
    (results.length = 2 ∧ results.count .tie = 1) ∨ results.length = 3)
    (by rw [IsDecided, Side.exists_iff])

section Results

variable {results : List RoundResult}

theorem resolve_eq (few : results.length ≤ maxRounds) :
    resolve results = if IsDecided results then some (verdict results) else none := by
  match results, few with
  | [], _ => decide
  | [first], _ => rcases first.cases_side with rfl | rfl | rfl <;> decide
  | [first, second], _ =>
    rcases first.cases_side with rfl | rfl | rfl <;>
      rcases second.cases_side with rfl | rfl | rfl <;> decide
  | [first, second, third], _ =>
    rcases first.cases_side with rfl | rfl | rfl <;>
      rcases second.cases_side with rfl | rfl | rfl <;>
        rcases third.cases_side with rfl | rfl | rfl <;> decide

theorem resolve_isSome_iff (few : results.length ≤ maxRounds) :
    (resolve results).isSome ↔ IsDecided results := by
  rw [resolve_eq few]
  split <;> simp_all

theorem isDecided_of_length_eq (all : results.length = maxRounds) : IsDecided results :=
  Or.inr (Or.inr all)

/-- One win more for a side that has one would settle the hand, so that in three rounds the first
two wins, if they are wins, are of different sides. -/
theorem ne_of_find?_eq_none {first second : Side} {third : RoundResult}
    (undecided : Side.all.find? (fun side =>
      winsForHand ≤ winsOf side [.won first, .won second, third]) = none) : first ≠ second := by
  rintro rfl
  have few := List.find?_eq_none.mp undecided first (by cases first <;> simp [Side.all])
  cases third <;> simp [winsForHand, winsOf, RoundResult.winner, List.countP_cons] at few

end Results

namespace Round

/-- The plays that lie in a round, that of side A first. -/
def laid (r : Round) : List Play :=
  (r.a.map (Play.mk .a)).toList ++ (r.b.map (Play.mk .b)).toList

@[simp] theorem laid_start (vira : Rank) : (start vira).laid = [] := rfl

@[simp] theorem laid_lay_start (vira : Rank) (side : Side) (card : Card) :
    ((start vira).lay side card).laid = [⟨side, card⟩] := by
  cases side <;> rfl

theorem result_lay_lay (vira : Rank) (side : Side) (card answer : Card) :
    (((start vira).lay side.other answer).lay side card).result =
      .ok (Play.against vira ⟨side.other, answer⟩ ⟨side, card⟩) := by
  cases side <;> rfl

end Round

namespace Hand

/-- The hand after some plays were tried in it, one after the other. -/
def after (h : Hand) (plays : List Play) : Hand :=
  plays.foldl (fun h play => (h.play play.side play.card).2) h

/-- Those of some plays, tried one after the other, that the hand accepts. -/
def accepted (h : Hand) : List Play → List Play
  | [] => []
  | play :: rest =>
    match h.play play.side play.card with
    | (.ok _, next) => play :: next.accepted rest
    | (.error _, next) => next.accepted rest

/-- Whether all rounds of a hand are used up and their results settle nothing. -/
def IsStranded (h : Hand) : Prop := resolve h.results = none ∧ maxRounds ≤ h.rounds.length

/-- What a hand becomes by plays that it accepts, those counted in that lie in its current round
already. -/
structure Becomes (h : Hand) (told : List Play) (h' : Hand) : Prop where
  opposed : ∀ pair ∈ pairs told, pair.1.side ≠ pair.2.side
  results : h'.results = h.results ++ resultsOfPlays h.vira told
  few : h'.results.length ≤ maxRounds
  undecided : ∀ k < (resultsOfPlays h.vira told).length,
    resolve (h.results ++ (resultsOfPlays h.vira told).take k) = none
  ended : h'.finished → (resolve h'.results).isSome ∧ told.length = 2 * (pairs told).length
  going : h'.finished = false → h'.Running

section Plays

variable {h : Hand} {play : Play} {rest : List Play}

theorem after_cons (h : Hand) (play : Play) (rest : List Play) :
    h.after (play :: rest) = (h.play play.side play.card).2.after rest := rfl

theorem accepted_of_ok {h' : Hand} {round : Option RoundResult}
    (played : h.play play.side play.card = (.ok round, h')) :
    h.accepted (play :: rest) = play :: h'.accepted rest := by
  simp [accepted, played]

theorem accepted_of_error {h' : Hand} {refusal : GameError}
    (played : h.play play.side play.card = (.error refusal, h')) :
    h.accepted (play :: rest) = h'.accepted rest := by
  simp [accepted, played]

theorem play_of_finished (finished : h.finished) (side : Side) (card : Card) :
    h.play side card = (.error .handFinished, h) := by
  simp [Hand.play, finished]

/-- A hand that is over refuses every play and stays as it is. -/
theorem after_of_finished (finished : h.finished) (plays : List Play) :
    h.after plays = h ∧ h.accepted plays = [] := by
  induction plays with
  | nil => exact ⟨rfl, rfl⟩
  | cons play rest ih =>
    have refused := play_of_finished finished play.side play.card
    rw [after_cons, accepted_of_error refused, refused]
    exact ih

theorem results_advance (h : Hand) : h.advance.results = h.results := by
  rcases h.advance_cases with ended | ⟨_, _, advanced⟩
  · rw [ended]
    rfl
  · rw [advanced]
    exact results_of_open rfl

@[simp] theorem vira_advance (h : Hand) : h.advance.vira = h.vira := by
  rcases h.advance_cases with ended | ⟨_, _, advanced⟩
  · rw [ended]
  · rw [advanced]

theorem current_advance (ongoing : h.advance.finished = false) :
    h.advance.current = .start h.vira := by
  rcases h.advance_cases with ended | ⟨_, _, advanced⟩
  · simp [ended] at ongoing
  · rw [advanced]

theorem Running.length_results (running : h.Running) : h.results.length < maxRounds := by
  rw [results_of_open running.ongoing, length_resultsOf running.closed]
  exact running.few

/-- A card that finishes a round adds its result to those of the hand. -/
theorem Running.results_lay (running : h.Running) {side : Side} (card : Card) {answer : Card}
    (alone : h.current = (Round.start h.vira).lay side.other answer) :
    results { h with current := h.current.lay side card } =
      h.results ++ [Play.against h.vira ⟨side.other, answer⟩ ⟨side, card⟩] := by
  rw [results_of_open running.ongoing, results_eq, rounds, resultsOf_append, alone]
  simp [resultsOf, Round.result_lay_lay, Except.toOption]

/-- No hand runs out of rounds: with the third one it is settled. -/
theorem Running.not_isStranded (running : h.Running) {side : Side} (card : Card) {answer : Card}
    (alone : h.current = (Round.start h.vira).lay side.other answer) :
    ¬IsStranded { h with current := h.current.lay side card } := by
  rintro ⟨undecided, used⟩
  have closed : ∀ r ∈ rounds { h with current := h.current.lay side card }, r.isFinished = true :=
    fun r member => (running.closed_lay alone r member).2
  have three : (results { h with current := h.current.lay side card }).length = maxRounds := by
    have few := running.few
    have count := length_resultsOf closed
    rw [results_eq, count]
    simp only [rounds, List.length_append, List.length_singleton] at used ⊢
    omega
  have settled := (resolve_isSome_iff (Nat.le_of_eq three)).mpr (isDecided_of_length_eq three)
  simp [undecided] at settled

theorem resolve_isSome_of_advance (unfinished : h.finished = false) (unstranded : ¬h.IsStranded)
    (ended : h.advance.finished) : (resolve h.results).isSome := by
  cases settled : resolve h.results with
  | some result => rfl
  | none =>
    have few : h.rounds.length < maxRounds := Nat.lt_of_not_le fun used => unstranded ⟨settled, used⟩
    simp [advance, settled, few, unfinished] at ended

/-- Two plays of a round that is finished come before all others. -/
theorem Becomes.cons {g h' : Hand} {first second : Play} {told : List Play}
    (becomes : g.Becomes told h') (opposed : first.side ≠ second.side) (vira : g.vira = h.vira)
    (results : g.results = h.results ++ [first.against h.vira second])
    (undecided : resolve h.results = none) : h.Becomes (first :: second :: told) h' := by
  have tail : resultsOfPlays h.vira (first :: second :: told) =
      first.against h.vira second :: resultsOfPlays h.vira told := rfl
  refine ⟨?_, ?_, becomes.few, ?_, ?_, becomes.going⟩
  · intro pair member
    rcases List.mem_cons.mp member with rfl | later
    · exact opposed
    · exact becomes.opposed pair later
  · rw [becomes.results, results, vira, tail, List.append_assoc, List.singleton_append]
  · intro k within
    rw [tail] at within ⊢
    cases k with
    | zero => simpa using undecided
    | succ k =>
      have later := becomes.undecided k (by simpa [vira] using within)
      rw [results, vira, List.append_assoc] at later
      exact later
  · intro finished
    obtain ⟨settled, even⟩ := becomes.ended finished
    refine ⟨settled, ?_⟩
    simp only [pairs, List.length_cons, even]
    omega

theorem becomes_of_finished (finished : h.finished) (settled : (resolve h.results).isSome)
    (few : h.results.length ≤ maxRounds) (plays : List Play) :
    h.Becomes (h.accepted plays) (h.after plays) := by
  obtain ⟨same, none'⟩ := after_of_finished finished plays
  rw [same, none']
  refine ⟨by simp [pairs], by simp [resultsOfPlays, pairs], few, by simp [resultsOfPlays, pairs],
    fun _ => ⟨settled, rfl⟩, ?_⟩
  intro open'
  simp [finished] at open'

theorem Running.becomes_self (running : h.Running) : h.Becomes h.current.laid h := by
  have alone : pairs h.current.laid = [] := by
    rcases Round.open_cases running.ongoing with fresh | ⟨side, card, single⟩
    · rw [fresh]
      rfl
    · rw [single]
      simp [pairs]
  have few := running.length_results
  refine ⟨by simp [alone], by simp [resultsOfPlays, alone], Nat.le_of_lt few,
    by simp [resultsOfPlays, alone], ?_, fun _ => running⟩
  intro finished
  simp [running.unfinished] at finished

/-- The second card of a round completes a pair; what follows does so in the next round, if there is
one. -/
theorem Running.becomes_of_second (running : h.Running) {side : Side} {card answer : Card} {g : Hand}
    (laid : g = { h with current := h.current.lay side card })
    (alone : h.current = (Round.start h.vira).lay side.other answer) (rest : List Play)
    (later : g.advance.finished = false →
      g.advance.Becomes (g.advance.accepted rest) (g.advance.after rest)) :
    h.Becomes (⟨side.other, answer⟩ :: ⟨side, card⟩ :: g.advance.accepted rest)
      (g.advance.after rest) := by
  have results := running.results_lay card alone
  have unstranded := running.not_isStranded card alone
  have unfinished : g.finished = false := by rw [laid, running.unfinished]
  have vira : g.advance.vira = h.vira := by rw [vira_advance, laid]
  rw [← laid] at results unstranded
  rw [← results_advance] at results
  refine Becomes.cons ?_ (Side.other_ne side) vira results running.undecided
  cases finished : g.advance.finished with
  | true =>
    have settled := resolve_isSome_of_advance unfinished unstranded finished
    have few := running.length_results
    refine becomes_of_finished finished ?_ ?_ rest
    · rw [results_advance]
      exact settled
    · rw [results, List.length_append, List.length_singleton]
      exact few
  | false => exact later finished

/-- What any plays make of a hand that is being played. -/
theorem Running.becomes (running : h.Running) (plays : List Play) :
    h.Becomes (h.current.laid ++ h.accepted plays) (h.after plays) := by
  induction plays generalizing h with
  | nil =>
    rw [accepted, List.append_nil]
    exact running.becomes_self
  | cons play rest ih =>
    rcases running.play_cases play.card play.side with
      ⟨_, again⟩ | ⟨fresh, first⟩ | ⟨answer, result, alone, _, second⟩
    · rw [after_cons, accepted_of_error again, again]
      exact ih running
    · have running' := running.of_play first running.unfinished
      have becomes := ih running'
      have same : h.results = results { h with current := h.current.lay play.side play.card } := by
        rw [results_of_open running.ongoing, results_of_open running'.ongoing]
      rw [after_cons, accepted_of_ok first, first, fresh, Round.laid_start, List.nil_append]
      rw [fresh, Round.laid_lay_start, List.singleton_append] at becomes
      rw [fresh] at same
      exact ⟨becomes.opposed, same ▸ becomes.results, becomes.few, same ▸ becomes.undecided,
        becomes.ended, becomes.going⟩
    · rw [after_cons, accepted_of_ok second, second, alone, Round.laid_lay_start,
        List.singleton_append, ← alone]
      refine running.becomes_of_second rfl alone rest fun ongoing => ?_
      have becomes := ih (running.of_play second ongoing)
      rw [current_advance ongoing, Round.laid_start, List.nil_append] at becomes
      exact becomes

theorem Running.not_isStranded_of_play (running : h.Running) {side : Side} {card : Card} {r : Round}
    (played : h.current.play side card = (.ok (), r)) (finished : r.isFinished) :
    ¬IsStranded { h with current := r } := by
  have vira : h.current.vira = h.vira := running.sameVira _ (by simp [rounds])
  obtain ⟨free, rfl⟩ : h.current.cardOf side = none ∧ h.current.lay side card = r := by
    unfold Round.play at played
    rw [running.ongoing] at played
    split at played
    next => simp at played
    next =>
      split at played
      next => simp at played
      next free => exact ⟨by simpa using free, (Prod.mk.inj played).2⟩
  rcases Round.open_cases running.ongoing with fresh | ⟨holder, answer, alone⟩
  · rw [Round.isFinished_eq _ side, fresh] at finished
    simp at finished
  · rw [vira] at alone
    rcases Side.eq_or_eq_other side holder with same | opposite
    · rw [alone, same] at free
      simp at free
    · rw [opposite] at alone
      exact running.not_isStranded card alone

/-- A card that ends a hand gives it a result. -/
theorem Running.isSome_result_of_play (running : h.Running) {h' : Hand} {side : Side} {card : Card}
    {round : Option RoundResult} (played : h.play side card = (.ok round, h'))
    (finished : h'.finished) : h'.result.isSome := by
  have becomes := running.becomes [⟨side, card⟩]
  have reached : h.after [⟨side, card⟩] = h' := by rw [after_cons, played]; rfl
  rw [reached] at becomes
  rw [result, if_pos finished]
  exact (becomes.ended finished).1

end Plays

section Outcomes

variable {vira : Rank} {told : List Play} {h : Hand}

theorem Becomes.results_eq (becomes : (start vira).Becomes told h) :
    h.results = resultsOfPlays vira told :=
  becomes.results

theorem Becomes.length_results_le (becomes : (start vira).Becomes told h) :
    (resultsOfPlays vira told).length ≤ maxRounds := by
  rw [← becomes.results_eq]
  exact becomes.few

theorem Becomes.finished_iff (becomes : (start vira).Becomes told h) :
    h.finished ↔ IsDecided (resultsOfPlays vira told) := by
  rw [← resolve_isSome_iff becomes.length_results_le, ← becomes.results_eq]
  constructor
  · intro finished
    exact (becomes.ended finished).1
  · intro settled
    cases finished : h.finished with
    | true => rfl
    | false => simp [(becomes.going finished).undecided] at settled

/-- No plays are accepted once those before them have decided the hand. -/
theorem Becomes.not_isDecided_take (becomes : (start vira).Becomes told h) {k : Nat}
    (within : k < (resultsOfPlays vira told).length) :
    ¬IsDecided ((resultsOfPlays vira told).take k) := by
  intro earlier
  have few := becomes.length_results_le
  have short : ((resultsOfPlays vira told).take k).length ≤ maxRounds := by
    rw [List.length_take]
    omega
  have unsettled : resolve ((resultsOfPlays vira told).take k) = none := becomes.undecided k within
  have settled := (resolve_isSome_iff short).mpr earlier
  simp [unsettled] at settled

theorem Becomes.result_of_finished (becomes : (start vira).Becomes told h) (finished : h.finished) :
    h.result = some (verdict (resultsOfPlays vira told)) := by
  have decided := becomes.finished_iff.mp finished
  rw [result, if_pos finished, becomes.results_eq, resolve_eq becomes.length_results_le,
    if_pos decided]

theorem Becomes.length_of_finished (becomes : (start vira).Becomes told h) (finished : h.finished) :
    told.length = 4 ∨ told.length = 6 := by
  obtain ⟨settled, even⟩ := becomes.ended finished
  have count : (resultsOfPlays vira told).length = (pairs told).length := List.length_map _
  have few := becomes.length_results_le
  have two : ¬(resultsOfPlays vira told).length ≤ 1 := by
    intro short
    rw [becomes.results_eq, resolve_of_length_le_one short] at settled
    contradiction
  simp only [maxRounds] at few
  omega

end Outcomes

/-- However plays are tried in a new hand, those that it accepts go in pairs of one card of each side,
and the hand is over as soon as the results of the pairs decide it, after four plays or after six. Its
result is then what they give. Until then it can go on, and has none. The third round never leaves it
open, two wins of one side never wait for the third round, and no match makes up the result of a hand
that has ended. -/
theorem best_of_three (vira : Rank) (plays : List Play) :
    let h := (start vira).after plays
    let accepted := (start vira).accepted plays
    let results := resultsOfPlays vira accepted
    (∀ pair ∈ pairs accepted, pair.1.side ≠ pair.2.side) ∧ h.results = results ∧
    (h.finished ↔ IsDecided results) ∧ (∀ k < results.length, ¬IsDecided (results.take k)) ∧
    (h.finished →
      h.result = some (verdict results) ∧ (accepted.length = 4 ∨ accepted.length = 6)) ∧
    (h.finished = false →
      h.result = none ∧ ∃ side, ∀ card, ∃ round, (h.play side card).1 = .ok round) ∧
    (∀ side card r, h.finished = false → h.current.play side card = (.ok (), r) → r.isFinished →
      ¬IsStranded { h with current := r }) ∧
    (∀ first second third, Side.all.find? (fun side =>
      winsForHand ≤ winsOf side [.won first, .won second, third]) = none → first ≠ second) ∧
    (∀ points m deeds side card round g g', Match.Begins points m →
      (m.after deeds).hand = some g → g.play side card = (.ok round, g') → g'.finished →
      g'.result.isSome) := by
  intro h accepted results
  -- the first round is empty, and so are the results that the hand has
  have becomes : (start vira).Becomes accepted h := (running_start vira).becomes plays
  refine ⟨becomes.opposed, becomes.results_eq, becomes.finished_iff, ?_, ?_, ?_, ?_,
    fun _ _ _ => ne_of_find?_eq_none, ?_⟩
  · intro k within
    exact becomes.not_isDecided_take within
  · intro finished
    exact ⟨becomes.result_of_finished finished, becomes.length_of_finished finished⟩
  · intro open'
    exact ⟨by simp [result, open'], (becomes.going open').exists_accepted⟩
  · intro side card r open'
    exact (becomes.going open').not_isStranded_of_play
  · intro points m deeds side card round g g' begins found
    have sound := (begins.sound.1.after deeds).1
    exact (sound.running g found).isSome_result_of_play

end Hand

end TrucoPaulista
