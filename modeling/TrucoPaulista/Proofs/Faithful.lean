import TrucoPaulista.Proofs.Restore

namespace TrucoPaulista

namespace Hand

section Full

variable {vira : Rank} {earlier : List Round} {h : Hand}

/-- Full rounds are replayed as they were, as long as the hand goes on after them. -/
theorem replay_of_full {full : List RoundSnapshot} {rest : List (Side × Card)}
    (both : ∀ r ∈ full, r.a.isSome ∧ r.b.isSome)
    (replayed : (opening vira earlier).replay (full.flatMap RoundSnapshot.plays ++ rest) = .ok h)
    (unfinished : h.finished = false) :
    (opening vira (earlier ++ full.map (fun r => r.under vira))).replay rest = .ok h := by
  induction full generalizing earlier with
  | nil => simpa using replayed
  | cons r others ih =>
    obtain ⟨first, second⟩ := both r (by simp)
    have closed : (r.under vira).isFinished = true := by
      simp [RoundSnapshot.under, Round.isFinished, first, second]
    rw [List.flatMap_cons, List.append_assoc, replay_of_closed _ closed] at replayed
    rcases advance_cases ⟨vira, earlier, r.under vira, false⟩ with ended | ⟨_, _, advanced⟩
    · rw [ended] at replayed
      rw [eq_of_replay_finished rfl replayed] at unfinished
      contradiction
    · rw [advanced] at replayed
      have next := ih (fun s member => both s (List.mem_cons_of_mem _ member)) replayed
      simpa [rounds] using next

theorem eq_of_replay_last {r : RoundSnapshot}
    (replayed : (opening vira earlier).replay r.plays = .ok h) (unfinished : h.finished = false)
    (count : h.rounds.length = earlier.length + 1) : h = ⟨vira, earlier, r.under vira, false⟩ := by
  rw [← List.append_nil r.plays] at replayed
  cases closed : (r.under vira).isFinished with
  | false =>
    rw [replay_of_open [] closed] at replayed
    exact (Except.ok.inj replayed).symm
  | true =>
    rw [replay_of_closed [] closed] at replayed
    obtain rfl := Except.ok.inj replayed
    rcases advance_cases ⟨vira, earlier, r.under vira, false⟩ with ended | ⟨_, _, advanced⟩
    · simp [ended] at unfinished
    · simp [advanced, rounds] at count

end Full

/-- The cards that a side has played, in order. -/
def cardsOf (h : Hand) (side : Side) : List Card := h.rounds.filterMap (fun r => r.cardOf side)

/-- A card is accepted only from a side without one in the round, where it is laid, and the hand may
advance then. -/
theorem play_eq_ok {h h' : Hand} {side : Side} {card : Card} {round : Option RoundResult}
    (played : h.play side card = (.ok round, h')) :
    h.current.cardOf side = none ∧
      (h' = { h with current := h.current.lay side card } ∨
        h' = advance { h with current := h.current.lay side card }) := by
  unfold play Round.play at played
  split at played
  next => simp at played
  next =>
    by_cases closed : h.current.isFinished
    · simp [closed] at played
    · by_cases laid : (h.current.cardOf side).isSome
      · simp [closed, laid] at played
      · refine ⟨by simpa using laid, ?_⟩
        simp only [closed, laid, Bool.false_eq_true, if_false] at played
        split at played
        next =>
          split at played
          next => simp at played
          next => exact Or.inr (Prod.mk.inj played).2.symm
        next => exact Or.inl (Prod.mk.inj played).2.symm

/-- A card that is laid is the last one of its side. -/
theorem cardsOf_lay {h : Hand} {side : Side} (card : Card) (query : Side)
    (free : h.current.cardOf side = none) :
    cardsOf { h with current := h.current.lay side card } query =
      h.cardsOf query ++ if side = query then [card] else [] := by
  by_cases same : side = query
  · subst same
    simp [cardsOf, rounds, free]
  · simp [cardsOf, rounds, same, Ne.symm same, List.filterMap_cons]

theorem cardsOf_advance (h : Hand) (query : Side) : h.advance.cardsOf query = h.cardsOf query := by
  rcases h.advance_cases with ended | ⟨_, _, advanced⟩
  · rw [ended]
    rfl
  · rw [advanced]
    simp [cardsOf, rounds, List.filterMap_cons]

/-- The cards of a side in a hand that was replayed are the ones that it had, and then those of its
plays. -/
theorem cardsOf_replay {h h' : Hand} {plays : List (Side × Card)} (query : Side)
    (replayed : h.replay plays = .ok h') :
    h'.cardsOf query =
      h.cardsOf query ++ (plays.filter (fun play => play.1 = query)).map Prod.snd := by
  induction plays generalizing h with
  | nil =>
    obtain rfl := Except.ok.inj replayed
    simp
  | cons play rest ih =>
    obtain ⟨side, card⟩ := play
    obtain ⟨round, next, played, others⟩ := replay_cons_eq_ok.mp replayed
    obtain ⟨free, laid⟩ := play_eq_ok played
    have step : next.cardsOf query = h.cardsOf query ++ if side = query then [card] else [] := by
      rcases laid with laid | advanced
      · rw [laid, cardsOf_lay card query free]
      · rw [advanced, cardsOf_advance, cardsOf_lay card query free]
    rw [ih others, step]
    by_cases same : side = query <;> simp [same]

end Hand

namespace HandSnapshot

variable {s : HandSnapshot} {h : Hand}

/-- Both cards are listed in every stored round but the last one. -/
def IsOrderly (s : HandSnapshot) : Prop := ∀ r ∈ s.rounds.dropLast, r.a.isSome ∧ r.b.isSome

instance (s : HandSnapshot) : Decidable s.IsOrderly :=
  inferInstanceAs (Decidable (∀ r ∈ s.rounds.dropLast, r.a.isSome ∧ r.b.isSome))

/-- The cards that are listed for a side, in order. -/
def cardsOf (s : HandSnapshot) : Side → List Card
  | .a => s.rounds.filterMap RoundSnapshot.a
  | .b => s.rounds.filterMap RoundSnapshot.b

theorem cardsOf_snapshot (h : Hand) (side : Side) : h.snapshot.cardsOf side = h.cardsOf side := by
  cases side <;> simp [cardsOf, Hand.snapshot, Hand.cardsOf, List.filterMap_map] <;> rfl

theorem cardsOf_eq (s : HandSnapshot) (side : Side) :
    s.cardsOf side =
      ((s.rounds.flatMap RoundSnapshot.plays).filter (fun play => play.1 = side)).map Prod.snd := by
  obtain ⟨vira, finished, rounds⟩ := s
  induction rounds with
  | nil => cases side <;> rfl
  | cons r rest ih =>
    obtain ⟨a, b⟩ := r
    cases side <;> cases a <;> cases b <;>
      simpa [cardsOf, RoundSnapshot.plays] using ih

theorem cardsOf_restore (accepted : s.restore = .ok h) (side : Side) :
    h.snapshot.cardsOf side = s.cardsOf side := by
  obtain ⟨_, _, replayed, _⟩ := restore_eq_ok.mp accepted
  rw [cardsOf_snapshot, Hand.cardsOf_replay side replayed, cardsOf_eq]
  cases side <;> rfl

theorem vira_of_replay {h h' : Hand} {plays : List (Side × Card)}
    (replayed : h.replay plays = .ok h') : h'.vira = h.vira := by
  induction plays generalizing h with
  | nil => rw [Except.ok.inj replayed]
  | cons play rest ih =>
    obtain ⟨side, card⟩ := play
    obtain ⟨round, next, played, others⟩ := Hand.replay_cons_eq_ok.mp replayed
    obtain ⟨_, laid | advanced⟩ := Hand.play_eq_ok played
    · rw [ih others, laid]
    · rw [ih others, advanced]
      rcases Hand.advance_cases { h with current := h.current.lay side card } with
        ended | ⟨_, _, begun⟩
      · rw [ended]
      · rw [begun]

theorem vira_restore (accepted : s.restore = .ok h) : h.vira = s.vira := by
  obtain ⟨_, _, replayed, _⟩ := restore_eq_ok.mp accepted
  exact vira_of_replay replayed

/-- A stored hand that is still being played is restored as it is listed exactly when it is
orderly. -/
theorem snapshot_eq_iff_isOrderly (accepted : s.restore = .ok h) (unfinished : h.finished = false) :
    h.snapshot = { s with finished := false } ↔ s.IsOrderly := by
  obtain ⟨nonempty, _, replayed, count⟩ := restore_eq_ok.mp accepted
  have running := (Hand.running_start _).of_replay replayed unfinished
  constructor
  · intro same r member
    have listed : s.rounds = h.rounds.map Round.snapshot :=
      (congrArg HandSnapshot.rounds same).symm
    rw [listed, ← List.map_dropLast, Hand.rounds, List.dropLast_concat] at member
    obtain ⟨round, earlier, rfl⟩ := List.mem_map.mp member
    simpa [Round.isFinished, Round.snapshot] using running.closed round earlier
  · intro orderly
    obtain ⟨front, last, split⟩ : ∃ front last, s.rounds = front ++ [last] :=
      ⟨_, _, (List.dropLast_concat_getLast nonempty).symm⟩
    have both : ∀ r ∈ front, r.a.isSome ∧ r.b.isSome := by
      simpa only [IsOrderly, split, List.dropLast_concat] using orderly
    rw [split, List.flatMap_append, List.flatMap_singleton] at replayed
    have begun : (Hand.opening s.vira []).replay
        (front.flatMap RoundSnapshot.plays ++ last.plays) = .ok h := replayed
    have end' := Hand.replay_of_full both begun unfinished
    have same := Hand.eq_of_replay_last end' unfinished (by simp [count, split])
    rw [same]
    simp [Hand.snapshot, Hand.rounds, Function.comp_def, split]

end HandSnapshot

namespace MatchSnapshot

/-- The stored match with the flag of its hand as it is recomputed. -/
def unflagged (s : MatchSnapshot) : MatchSnapshot :=
  { s with currentHand := s.currentHand.map (fun h => { h with finished := false }) }

/-- Both cards are listed in every round of the hand but the last one. -/
def IsOrderly (s : MatchSnapshot) : Prop := ∀ h ∈ s.currentHand, h.IsOrderly

instance (s : MatchSnapshot) : Decidable s.IsOrderly :=
  inferInstanceAs (Decidable (∀ h ∈ s.currentHand, h.IsOrderly))

/-- What two stored matches have in common that differ at most in the flag of the hand and in the
rounds in which the cards of the sides lie. -/
structure SameCards (s t : MatchSnapshot) : Prop where
  version : s.version = t.version
  state : s.state = t.state
  pointsToWin : s.pointsToWin = t.pointsToWin
  score : s.score = t.score
  hand : ∀ side,
    s.currentHand.map (fun h => (h.vira, h.rounds.length, h.cardsOf side)) =
      t.currentHand.map (fun h => (h.vira, h.rounds.length, h.cardsOf side))

/-- A stored match that is accepted keeps all its cards on their sides and in their order. Exactly
when it is orderly are they also in the rounds for which they are listed, and then only the flag of
the hand is recomputed. -/
theorem snapshot_eq_unflagged_iff {s : MatchSnapshot} {m : Match} (accepted : s.restore = .ok m) :
    SameCards m.snapshot s ∧ (m.snapshot = s.unflagged ↔ s.IsOrderly) := by
  obtain ⟨version, _, _, hand, restored, rfl⟩ := restore_eq_ok.mp accepted
  rcases restoreHand_eq_ok.mp restored with
    ⟨_, stored, h, found, replayed, unfinished, rfl⟩ | ⟨_, missing, rfl⟩
  · have count := (HandSnapshot.restore_eq_ok.mp replayed).2.2.2
    have faithful := HandSnapshot.snapshot_eq_iff_isOrderly replayed unfinished
    constructor
    · refine ⟨version.symm, rfl, rfl, rfl, fun side => ?_⟩
      have cards := HandSnapshot.cardsOf_restore replayed side
      have vira := HandSnapshot.vira_restore replayed
      have length : h.snapshot.rounds.length = stored.rounds.length := by
        simp [Hand.snapshot, count]
      have same : h.snapshot.vira = stored.vira := vira
      simp [Match.snapshot, found, same, length, cards]
    · simp [Match.snapshot, unflagged, IsOrderly, found, ← faithful, version]
  · constructor
    · exact ⟨version.symm, rfl, rfl, rfl, fun side => by simp [Match.snapshot, missing]⟩
    · simp [Match.snapshot, unflagged, IsOrderly, missing, version]

/-- A stored match whose second round has a card of side B only. -/
def unfinishedRound : MatchSnapshot where
  version := snapshotVersion
  state := .inProgress
  pointsToWin := 12
  score := ⟨4, 7⟩
  currentHand := some ⟨.four, true,
    [⟨some ⟨.three, .clubs⟩, some ⟨.six, .diamonds⟩⟩, ⟨none, some ⟨.king, .hearts⟩⟩]⟩

theorem snapshot_eq_unflagged_iff_unfinishedRound :
    ∃ m, unfinishedRound.restore = .ok m ∧ m.snapshot = unfinishedRound.unflagged ∧
      m.snapshot ≠ unfinishedRound := by
  obtain ⟨m, accepted⟩ : ∃ m, unfinishedRound.restore = .ok m := ⟨_, rfl⟩
  have same := (snapshot_eq_unflagged_iff accepted).2.mpr (by decide)
  refine ⟨m, accepted, same, ?_⟩
  rw [same]
  decide

/-- A stored match in which side B's answer to the first round is listed for the second round. -/
def scattered : MatchSnapshot where
  version := snapshotVersion
  state := .inProgress
  pointsToWin := 12
  score := .zero
  currentHand := some ⟨.four, false, [⟨some ⟨.three, .clubs⟩, none⟩, ⟨none, some ⟨.six, .diamonds⟩⟩]⟩

/-- The cards of a round that is not complete can be restored into one. -/
theorem scattered_restores_otherwise :
    ∃ m, scattered.restore = .ok m ∧ m.snapshot ≠ scattered.unflagged ∧
      m.snapshot.currentHand.map HandSnapshot.rounds =
        some [⟨some ⟨.three, .clubs⟩, some ⟨.six, .diamonds⟩⟩, ⟨none, none⟩] := by
  refine ⟨_, rfl, ?_, rfl⟩
  decide

end MatchSnapshot

end TrucoPaulista
