import TrucoPaulista.Proofs.Match
import TrucoPaulista.Proofs.Replay

namespace TrucoPaulista

section Refusals

variable {ε α β : Type}

theorem bind_eq_ok {first : Except ε α} {rest : α → Except ε β} {answer : β} :
    first >>= rest = .ok answer ↔ ∃ value, first = .ok value ∧ rest value = .ok answer := by
  cases first with
  | error refusal => simp [bind, Except.bind]
  | ok value => simp [bind, Except.bind]

theorem unless_eq_ok {c : Prop} [Decidable c] {refusal : ε} {rest : Except ε α} {answer : α} :
    (if c then (throw refusal : Except ε PUnit) >>= fun _ => rest else rest) = .ok answer ↔
      ¬c ∧ rest = .ok answer := by
  by_cases hit : c
  · simp [hit, throw, throwThe, MonadExceptOf.throw, bind, Except.bind]
  · simp [hit]

theorem bind_eq_error {first : Except ε α} {rest : α → Except ε β} {refusal : ε} :
    first >>= rest = .error refusal ↔
      first = .error refusal ∨ ∃ value, first = .ok value ∧ rest value = .error refusal := by
  cases first with
  | error refusal => simp [bind, Except.bind]
  | ok value => simp [bind, Except.bind]

theorem unless_eq_error {c : Prop} [Decidable c] {refusal refusal' : ε} {rest : Except ε α} :
    (if c then (throw refusal : Except ε PUnit) >>= fun _ => rest else rest) = .error refusal' ↔
      c ∧ refusal = refusal' ∨ ¬c ∧ rest = .error refusal' := by
  by_cases hit : c
  · simp [hit, throw, throwThe, MonadExceptOf.throw, bind, Except.bind]
  · simp [hit]

theorem pure_eq_ok {value answer : α} :
    (pure value : Except ε α) = .ok answer ↔ value = answer :=
  ⟨Except.ok.inj, congrArg Except.ok⟩

end Refusals

/-- A stored hand is restored exactly if it has rounds, no more than a hand can have, and its plays come
to as many. -/
theorem HandSnapshot.restore_eq_ok {s : HandSnapshot} {h : Hand} :
    s.restore = .ok h ↔
      s.rounds ≠ [] ∧ s.rounds.length ≤ maxRounds ∧
      (Hand.start s.vira).replay (s.rounds.flatMap RoundSnapshot.plays) = .ok h ∧
      h.rounds.length = s.rounds.length := by
  unfold restore
  simp only [unless_eq_ok, bind_eq_ok, pure_eq_ok, Bool.or_eq_true, List.isEmpty_iff,
    decide_eq_true_eq, not_or, Nat.not_lt, ne_eq, Decidable.not_not]
  constructor
  · rintro ⟨⟨nonempty, few⟩, next, replayed, count, rfl⟩
    exact ⟨nonempty, few, replayed, count⟩
  · rintro ⟨nonempty, few, replayed, count⟩
    exact ⟨⟨nonempty, few⟩, h, replayed, count, rfl⟩

theorem Hand.Running.restore_snapshot {h : Hand} (running : h.Running) :
    h.snapshot.restore = .ok h := by
  have few := running.few
  refine HandSnapshot.restore_eq_ok.mpr ⟨?_, ?_, ?_, ?_⟩
  · simp [Hand.snapshot, Hand.rounds]
  · simp only [Hand.snapshot, Hand.rounds, List.length_map, List.length_append,
      List.length_singleton]
    omega
  · have replayed := running.replay_eq
    simpa only [Hand.snapshot, List.flatMap_map] using replayed
  · simp [Hand.snapshot]

namespace MatchSnapshot

variable {s : MatchSnapshot}

theorem checkScore_eq_ok :
    s.checkScore = .ok () ↔
      (s.state = .finished ↔ (s.score.leaderAt s.pointsToWin).isSome) := by
  unfold checkScore
  cases s.state <;> cases s.score.leaderAt s.pointsToWin <;> simp

/-- A match has a hand exactly while it is in progress, and one that is not over. -/
theorem restoreHand_eq_ok {hand : Option Hand} :
    s.restoreHand = .ok hand ↔
      (s.state = .inProgress ∧ ∃ stored h, s.currentHand = some stored ∧ stored.restore = .ok h ∧
        h.finished = false ∧ hand = some h) ∨
      (s.state ≠ .inProgress ∧ s.currentHand = none ∧ hand = none) := by
  unfold restoreHand
  cases state : s.state with
  | inProgress =>
    cases s.currentHand with
    | none => simp
    | some stored =>
      simp only [bind_eq_ok, unless_eq_ok, pure_eq_ok, Bool.not_eq_true]
      constructor
      · rintro ⟨h, restored, unfinished, rfl⟩
        exact Or.inl ⟨trivial, stored, h, rfl, restored, unfinished, rfl⟩
      · rintro (⟨_, _, h, found, restored, unfinished, rfl⟩ | ⟨other, _⟩)
        · cases found
          exact ⟨h, restored, unfinished, rfl⟩
        · contradiction
  | waiting => cases s.currentHand <;> simp [eq_comm (a := hand)]
  | finished => cases s.currentHand <;> simp [eq_comm (a := hand)]

/-- All that is asked of a stored match. -/
theorem restore_eq_ok {m : Match} :
    s.restore = .ok m ↔
      s.version = snapshotVersion ∧ s.pointsToWin ≠ 0 ∧
      (s.state = .finished ↔ (s.score.leaderAt s.pointsToWin).isSome) ∧
      ∃ hand, s.restoreHand = .ok hand ∧ m = ⟨s.pointsToWin, s.state, s.score, hand⟩ := by
  unfold restore
  simp only [unless_eq_ok, bind_eq_ok, pure_eq_ok, ne_eq, Decidable.not_not, ← checkScore_eq_ok]
  constructor
  · rintro ⟨version, positive, _, checked, hand, restored, rfl⟩
    exact ⟨version, positive, checked, hand, restored, rfl⟩
  · rintro ⟨version, positive, checked, hand, restored, rfl⟩
    exact ⟨version, positive, (), checked, hand, restored, rfl⟩

end MatchSnapshot

namespace Match

theorem Sound.restore_snapshot {m : Match} (sound : m.Sound) : m.snapshot.restore = .ok m := by
  refine MatchSnapshot.restore_eq_ok.mpr ⟨rfl, sound.positive, sound.finished, m.hand, ?_, rfl⟩
  refine MatchSnapshot.restoreHand_eq_ok.mpr ?_
  by_cases state : m.state = .inProgress
  · obtain ⟨h, found, running⟩ := sound.hand_of_inProgress state
    exact Or.inl ⟨state, h.snapshot, h, by simp [snapshot, found], running.restore_snapshot,
      running.unfinished, found⟩
  · have none' := sound.hand_eq_none state
    exact Or.inr ⟨state, by simp [snapshot, none'], none'⟩

/-- A match that was restored is as good as one that was played. -/
theorem sound_of_restore {s : MatchSnapshot} {m : Match} (restored : s.restore = .ok m) :
    m.Sound := by
  obtain ⟨_, positive, finished, hand, accepted, rfl⟩ := MatchSnapshot.restore_eq_ok.mp restored
  rcases MatchSnapshot.restoreHand_eq_ok.mp accepted with
    ⟨state, stored, h, _, replayed, unfinished, rfl⟩ | ⟨state, _, rfl⟩
  · obtain ⟨_, _, played, _⟩ := HandSnapshot.restore_eq_ok.mp replayed
    refine ⟨positive, by simp [state], ?_, finished⟩
    intro h' same
    cases same
    exact (Hand.running_start _).of_replay played unfinished
  · exact ⟨positive, by simpa using state, by simp, finished⟩

/-- The matches that there can be: new ones, those restored from what is stored, and what the call
for a hand and the play of a card make of them, also when they are refused. -/
inductive Reachable : Match → Prop where
  | created {points : UInt32} {m : Match} (made : Match.create points = .ok m) : Reachable m
  | standard : Reachable standard
  | restored {s : MatchSnapshot} {m : Match} (accepted : s.restore = .ok m) : Reachable m
  | started {m : Match} (before : Reachable m) (vira : Rank) : Reachable (m.start vira).2
  | played {m : Match} (before : Reachable m) (side : Side) (card : Card) :
      Reachable (m.play side card).2

theorem Reachable.sound {m : Match} (reachable : m.Reachable) : m.Sound := by
  induction reachable with
  | created made => exact sound_of_create made
  | standard => exact sound_standard
  | restored accepted => exact sound_of_restore accepted
  | started _ vira ih => exact ih.start vira
  | played _ side card ih => exact ih.play side card

end Match

end TrucoPaulista
