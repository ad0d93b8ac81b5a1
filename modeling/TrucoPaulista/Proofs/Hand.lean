import TrucoPaulista.Hand

namespace TrucoPaulista

namespace Side

@[simp] theorem other_ne (side : Side) : side.other ≠ side := by
  cases side <;> decide

@[simp] theorem ne_other (side : Side) : side ≠ side.other := by
  cases side <;> decide

theorem eq_or_eq_other (side query : Side) : query = side ∨ query = side.other := by
  cases side <;> cases query <;> decide

end Side

namespace Round

variable (r : Round) (vira : Rank) (side query : Side) (card : Card)

@[simp] theorem vira_start : (start vira).vira = vira := rfl

@[simp] theorem cardOf_start : (start vira).cardOf side = none := by
  cases side <;> rfl

@[simp] theorem isFinished_start : (start vira).isFinished = false := rfl

@[simp] theorem vira_lay : (r.lay side card).vira = r.vira := by
  cases side <;> rfl

@[simp] theorem cardOf_lay :
    (r.lay side card).cardOf query = if query = side then some card else r.cardOf query := by
  cases side <;> cases query <;> rfl

theorem isFinished_eq (side : Side) :
    r.isFinished = ((r.cardOf side).isSome && (r.cardOf side.other).isSome) := by
  cases side
  · rfl
  · exact Bool.and_comm _ _

theorem open_cases {r : Round} (ongoing : r.isFinished = false) :
    r = start r.vira ∨ ∃ side card, r = (start r.vira).lay side card := by
  obtain ⟨vira, a, b⟩ := r
  cases a with
  | none =>
    cases b with
    | none => exact Or.inl rfl
    | some card => exact Or.inr ⟨.b, card, rfl⟩
  | some card =>
    cases b with
    | none => exact Or.inr ⟨.a, card, rfl⟩
    | some other => simp [isFinished] at ongoing

theorem result_of_finished {r : Round} (finished : r.isFinished = true) :
    ∃ result, r.result = .ok result := by
  obtain ⟨vira, a, b⟩ := r
  cases a <;> cases b <;> simp_all [isFinished, result]

theorem result_of_open {r : Round} (ongoing : r.isFinished = false) :
    r.result = .error .roundNotFinished := by
  obtain ⟨vira, a, b⟩ := r
  cases a <;> cases b <;> simp_all [isFinished, result]

end Round

/-- The results of the finished ones among some rounds, in order. -/
def resultsOf (rounds : List Round) : List RoundResult :=
  rounds.filterMap (fun r => r.result.toOption)

@[simp] theorem resultsOf_append (first second : List Round) :
    resultsOf (first ++ second) = resultsOf first ++ resultsOf second :=
  List.filterMap_append

theorem resultsOf_open {r : Round} (ongoing : r.isFinished = false) : resultsOf [r] = [] := by
  simp [resultsOf, Round.result_of_open ongoing, Except.toOption]

theorem length_resultsOf {rounds : List Round} (closed : ∀ r ∈ rounds, r.isFinished = true) :
    (resultsOf rounds).length = rounds.length := by
  induction rounds with
  | nil => rfl
  | cons r rest ih =>
    obtain ⟨result, found⟩ := Round.result_of_finished (closed r (by simp))
    have others := ih (fun s member => closed s (List.mem_cons_of_mem _ member))
    have first : resultsOf (r :: rest) = result :: resultsOf rest :=
      List.filterMap_cons_some (by simp [found, Except.toOption])
    simp [first, others]

theorem resolve_of_length_le_one {results : List RoundResult} (short : results.length ≤ 1) :
    resolve results = none := by
  match results, short with
  | [], _ => rfl
  | [.tie], _ => rfl
  | [.won .a], _ => rfl
  | [.won .b], _ => rfl

/-- A hand that two rounds at the most leave open was left open by the first one too. -/
theorem resolve_eq_none_of_append {first second : List RoundResult}
    (short : (first ++ second).length < maxRounds) (undecided : resolve (first ++ second) = none) :
    resolve first = none := by
  cases second with
  | nil => simpa using undecided
  | cons result rest =>
    apply resolve_of_length_le_one
    simp only [List.length_append, List.length_cons, maxRounds] at short
    omega

namespace Hand

theorem results_eq (h : Hand) : h.results = resultsOf h.rounds := rfl

theorem results_of_open {h : Hand} (ongoing : h.current.isFinished = false) :
    h.results = resultsOf h.earlier := by
  rw [results_eq, rounds, resultsOf_append, resultsOf_open ongoing, List.append_nil]

/-- What holds of a hand that is being played: all its rounds are played under its vira, those
before the current one have both cards and have not settled it, and the current one lacks a card. -/
structure Running (h : Hand) : Prop where
  unfinished : h.finished = false
  sameVira : ∀ r ∈ h.rounds, r.vira = h.vira
  closed : ∀ r ∈ h.earlier, r.isFinished = true
  ongoing : h.current.isFinished = false
  few : h.earlier.length < maxRounds
  undecided : resolve h.results = none

theorem running_start (vira : Rank) : (start vira).Running where
  unfinished := rfl
  sameVira := by simp [start, rounds]
  closed := by simp [start]
  ongoing := rfl
  few := by simp [start, maxRounds]
  undecided := rfl

/-- A hand that is being played was being played after each of its rounds. -/
theorem Running.of_append {vira : Rank} {first second : List Round} {current : Round}
    (running : Running ⟨vira, first ++ second, current, false⟩) :
    Running ⟨vira, first, .start vira, false⟩ where
  unfinished := rfl
  sameVira := by
    intro r member
    rcases List.mem_append.mp member with earlier | last
    · exact running.sameVira r (by simp [rounds, earlier])
    · simp [List.mem_singleton.mp last]
  closed := fun r member => running.closed r (List.mem_append_left _ member)
  ongoing := rfl
  few := by
    have few := running.few
    simp only [List.length_append] at few ⊢
    omega
  undecided := by
    have undecided := running.undecided
    rw [results_of_open running.ongoing, resultsOf_append] at undecided
    have short : (resultsOf first ++ resultsOf second).length < maxRounds := by
      rw [← resultsOf_append, length_resultsOf running.closed]
      exact running.few
    rw [results_of_open rfl]
    exact resolve_eq_none_of_append short undecided

section Play

variable {h : Hand} {side : Side} (card : Card)

theorem play_of_laid (unfinished : h.finished = false) (ongoing : h.current.isFinished = false)
    (laid : (h.current.cardOf side).isSome) :
    h.play side card = (.error (.sideAlreadyPlayed side), h) := by
  obtain ⟨vira, earlier, current, finished⟩ := h
  subst unfinished
  simp [play, Round.play, ongoing, laid]

theorem play_of_start (unfinished : h.finished = false) (fresh : h.current = .start h.vira) :
    h.play side card = (.ok none, { h with current := h.current.lay side card }) := by
  have ongoing : (h.current.lay side card).isFinished = false := by
    rw [fresh, Round.isFinished_eq _ side]
    simp
  have before : h.current.isFinished = false := by simp [fresh]
  have free : h.current.cardOf side = none := by simp [fresh]
  simp [play, unfinished, Round.play, before, free, ongoing]

/-- A card that answers the one of the other side finishes the round, and the hand advances. -/
theorem play_of_answer {answer : Card} (unfinished : h.finished = false)
    (alone : h.current = (Round.start h.vira).lay side.other answer) :
    ∃ result, (h.current.lay side card).result = .ok result ∧
      h.play side card =
        (.ok (some result), advance { h with current := h.current.lay side card }) := by
  have ongoing : h.current.isFinished = false := by
    rw [alone, Round.isFinished_eq _ side]
    simp
  have free : h.current.cardOf side = none := by simp [alone]
  have finished : (h.current.lay side card).isFinished = true := by
    rw [Round.isFinished_eq _ side, alone]
    simp
  obtain ⟨result, found⟩ := Round.result_of_finished finished
  exact ⟨result, found, by simp [play, unfinished, Round.play, ongoing, free, finished, found]⟩

/-- All that a card can do in a hand that is being played. -/
theorem Running.play_cases (running : h.Running) (side : Side) :
    ((h.current.cardOf side).isSome ∧
      h.play side card = (.error (.sideAlreadyPlayed side), h)) ∨
    (h.current = .start h.vira ∧
      h.play side card = (.ok none, { h with current := h.current.lay side card })) ∨
    (∃ answer result, h.current = (Round.start h.vira).lay side.other answer ∧
      (h.current.lay side card).result = .ok result ∧
      h.play side card =
        (.ok (some result), advance { h with current := h.current.lay side card })) := by
  have vira : h.current.vira = h.vira := running.sameVira _ (by simp [rounds])
  rcases Round.open_cases running.ongoing with fresh | ⟨holder, answer, alone⟩
  · rw [vira] at fresh
    exact Or.inr (Or.inl ⟨fresh, play_of_start card running.unfinished fresh⟩)
  · rw [vira] at alone
    rcases Side.eq_or_eq_other side holder with same | opposite
    · have laid : (h.current.cardOf side).isSome := by simp [alone, same]
      exact Or.inl ⟨laid, play_of_laid card running.unfinished running.ongoing laid⟩
    · rw [opposite] at alone
      obtain ⟨result, found, played⟩ := play_of_answer card running.unfinished alone
      exact Or.inr (Or.inr ⟨answer, result, alone, found, played⟩)

/-- As long as a hand is not over, there is a side of which it accepts any card. -/
theorem Running.exists_accepted (running : h.Running) :
    ∃ side, ∀ card, ∃ round, (h.play side card).1 = .ok round := by
  have free : ∃ side, h.current.cardOf side = none := by
    rcases Round.open_cases running.ongoing with fresh | ⟨holder, answer, alone⟩
    · exact ⟨.a, by rw [fresh, Round.cardOf_start]⟩
    · exact ⟨holder.other, by rw [alone]; simp⟩
  obtain ⟨side, free⟩ := free
  refine ⟨side, fun card => ?_⟩
  rcases running.play_cases card side with ⟨laid, _⟩ | ⟨_, first⟩ | ⟨_, _, _, _, second⟩
  · simp [free] at laid
  · exact ⟨_, congrArg Prod.fst first⟩
  · exact ⟨_, congrArg Prod.fst second⟩

end Play

/-- A hand that advances is over, or has not been settled and has another round. -/
theorem advance_cases (h : Hand) :
    h.advance = { h with finished := true } ∨
    resolve h.results = none ∧ h.rounds.length < maxRounds ∧
      h.advance = { h with earlier := h.rounds, current := .start h.vira } := by
  unfold advance
  split
  · exact Or.inl rfl
  next undecided =>
    split
    next few => exact Or.inr ⟨by simpa using undecided, few, rfl⟩
    next => exact Or.inl rfl

theorem running_of_advance {h : Hand} (unfinished : h.advance.finished = false)
    (sameVira : ∀ r ∈ h.rounds, r.vira = h.vira) (closed : ∀ r ∈ h.rounds, r.isFinished = true) :
    h.advance.Running := by
  rcases h.advance_cases with ended | ⟨undecided, few, advanced⟩
  · simp [ended] at unfinished
  · rw [advanced] at unfinished ⊢
    refine ⟨unfinished, ?_, closed, rfl, few, ?_⟩
    · intro r member
      rcases List.mem_append.mp member with earlier | last
      · exact sameVira r earlier
      · simp [List.mem_singleton.mp last]
    · rw [results_of_open rfl]
      exact undecided

/-- Once the current round is answered, every round is finished under the vira of the hand. -/
theorem Running.closed_lay {h : Hand} {side : Side} {card answer : Card} (running : h.Running)
    (alone : h.current = (Round.start h.vira).lay side.other answer) :
    ∀ r ∈ rounds { h with current := h.current.lay side card },
      r.vira = h.vira ∧ r.isFinished = true := by
  intro r member
  rcases List.mem_append.mp member with earlier | last
  · exact ⟨running.sameVira r (List.mem_append_left _ earlier), running.closed r earlier⟩
  · rw [List.mem_singleton.mp last]
    refine ⟨by simp [alone], ?_⟩
    rw [Round.isFinished_eq _ side, alone]
    simp

theorem Running.eq_of_refused {h h' : Hand} {side : Side} {card : Card} {refusal : GameError}
    (running : h.Running) (played : h.play side card = (.error refusal, h')) :
    refusal = .sideAlreadyPlayed side ∧ (h.current.cardOf side).isSome ∧ h' = h := by
  rcases running.play_cases card side with ⟨laid, again⟩ | ⟨_, first⟩ | ⟨_, _, _, _, second⟩
  · rw [again] at played
    obtain ⟨same, rest⟩ := Prod.mk.inj played
    exact ⟨(Except.error.inj same).symm, laid, rest.symm⟩
  · simp [first] at played
  · simp [second] at played

/-- A card that does not end the hand leaves one that is being played. -/
theorem Running.of_play {h h' : Hand} {side : Side} {card : Card} {round : Option RoundResult}
    (running : h.Running) (played : h.play side card = (.ok round, h'))
    (unfinished : h'.finished = false) : h'.Running := by
  rcases running.play_cases card side with
    ⟨_, again⟩ | ⟨fresh, first⟩ | ⟨answer, result, alone, _, second⟩
  · simp [again] at played
  · rw [first] at played
    obtain ⟨_, rfl⟩ := Prod.mk.inj played
    have open' : (h.current.lay side card).isFinished = false := by
      rw [fresh, Round.isFinished_eq _ side]
      simp
    refine ⟨running.unfinished, ?_, running.closed, open', running.few, ?_⟩
    · intro r member
      rcases List.mem_append.mp member with earlier | last
      · exact running.sameVira r (List.mem_append_left _ earlier)
      · simp [List.mem_singleton.mp last, fresh]
    · have undecided := running.undecided
      rw [results_of_open running.ongoing] at undecided
      rw [results_of_open open']
      exact undecided
  · rw [second] at played
    obtain ⟨_, rfl⟩ := Prod.mk.inj played
    exact running_of_advance unfinished (fun r member => (running.closed_lay alone r member).1)
      (fun r member => (running.closed_lay alone r member).2)

theorem awaiting_of_start {h : Hand} {vira : Rank} (fresh : h.current = .start vira) :
    h.awaiting = none := by
  simp [awaiting, fresh, Round.start]

theorem awaiting_of_alone {h : Hand} {vira : Rank} {holder : Side} {answer : Card}
    (unfinished : h.finished = false) (alone : h.current = (Round.start vira).lay holder answer) :
    h.awaiting = some holder.other := by
  cases holder <;> simp [awaiting, unfinished, alone, Round.start, Round.lay, Side.other]

theorem Running.cardOf_eq_none {h : Hand} {side : Side} (running : h.Running)
    (allowed : ∀ owed, h.awaiting = some owed → side = owed) : h.current.cardOf side = none := by
  rcases Round.open_cases running.ongoing with fresh | ⟨holder, answer, alone⟩
  · rw [fresh, Round.cardOf_start]
  · rw [allowed _ (awaiting_of_alone running.unfinished alone), alone]
    simp

/-- After the first card of a round the other side is awaited, and after the second one nobody. -/
theorem Running.awaiting_of_play {h h' : Hand} {side : Side} {card : Card}
    {round : Option RoundResult} (running : h.Running) (played : h.play side card = (.ok round, h'))
    (unfinished : h'.finished = false) :
    h'.awaiting = if round.isNone then some side.other else none := by
  rcases running.play_cases card side with
    ⟨_, again⟩ | ⟨fresh, first⟩ | ⟨answer, result, _, _, second⟩
  · simp [again] at played
  · rw [first] at played
    obtain ⟨same, rfl⟩ := Prod.mk.inj played
    have alone : h.current.lay side card = (Round.start h.vira).lay side card := by rw [fresh]
    rw [awaiting_of_alone unfinished alone, ← Except.ok.inj same]
    rfl
  · rw [second] at played
    obtain ⟨same, rfl⟩ := Prod.mk.inj played
    rw [← Except.ok.inj same]
    rcases advance_cases { h with current := h.current.lay side card } with ended | ⟨_, _, advanced⟩
    · simp [ended] at unfinished
    · rw [advanced]
      exact awaiting_of_start rfl

end Hand

end TrucoPaulista
