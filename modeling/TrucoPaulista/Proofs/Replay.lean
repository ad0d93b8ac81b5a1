import TrucoPaulista.Proofs.Hand
import TrucoPaulista.Snapshot

namespace TrucoPaulista

namespace RoundSnapshot

/-- The round that stored cards make under a vira. -/
def under (r : RoundSnapshot) (vira : Rank) : Round := ⟨vira, r.a, r.b⟩

@[simp] theorem snapshot_under (r : RoundSnapshot) (vira : Rank) :
    (r.under vira).snapshot = r := rfl

theorem under_snapshot {r : Round} {vira : Rank} (same : r.vira = vira) :
    r.snapshot.under vira = r := by
  subst same
  rfl

end RoundSnapshot

namespace Hand

section Replay

variable {h h' : Hand}

@[simp] theorem replay_nil (h : Hand) : h.replay [] = .ok h := rfl

theorem replay_cons_ok {side : Side} {card : Card} {round : Option RoundResult}
    (plays : List (Side × Card)) (played : h.play side card = (.ok round, h')) :
    h.replay ((side, card) :: plays) = h'.replay plays := by
  simp [replay, played]

theorem replay_cons_eq_ok {side : Side} {card : Card} {plays : List (Side × Card)} :
    h.replay ((side, card) :: plays) = .ok h' ↔
      ∃ round next, h.play side card = (.ok round, next) ∧ next.replay plays = .ok h' := by
  simp only [replay]
  rcases h.play side card with ⟨answer, next⟩
  cases answer with
  | error refusal => simp
  | ok round =>
    constructor
    · intro replayed
      exact ⟨round, next, rfl, replayed⟩
    · rintro ⟨_, _, same, replayed⟩
      cases same
      exact replayed

theorem eq_of_replay_finished {plays : List (Side × Card)} (finished : h.finished = true)
    (replayed : h.replay plays = .ok h') : h' = h := by
  cases plays with
  | nil => exact (Except.ok.inj replayed).symm
  | cons play rest =>
    obtain ⟨side, card⟩ := play
    obtain ⟨round, next, played, _⟩ := replay_cons_eq_ok.mp replayed
    simp [play, finished] at played

theorem Running.of_replay {plays : List (Side × Card)} (running : h.Running)
    (replayed : h.replay plays = .ok h') (unfinished : h'.finished = false) : h'.Running := by
  induction plays generalizing h with
  | nil => exact Except.ok.inj replayed ▸ running
  | cons play rest ih =>
    obtain ⟨side, card⟩ := play
    obtain ⟨round, next, played, others⟩ := replay_cons_eq_ok.mp replayed
    cases ended : next.finished with
    | true =>
      rw [eq_of_replay_finished ended others, ended] at unfinished
      contradiction
    | false => exact ih (running.of_play played ended) others

end Replay

/-- A hand at the beginning of a round. -/
def opening (vira : Rank) (earlier : List Round) : Hand := ⟨vira, earlier, .start vira, false⟩

section Rounds

variable {vira : Rank} {earlier : List Round} {r : RoundSnapshot} (rest : List (Side × Card))

theorem replay_of_open (lacking : (r.under vira).isFinished = false) :
    (opening vira earlier).replay (r.plays ++ rest) =
      replay ⟨vira, earlier, r.under vira, false⟩ rest := by
  obtain ⟨a, b⟩ := r
  cases a with
  | none =>
    cases b with
    | none => rfl
    | some card =>
      exact replay_cons_ok rest (play_of_start (h := opening vira earlier) card rfl rfl)
  | some card =>
    cases b with
    | none => exact replay_cons_ok rest (play_of_start (h := opening vira earlier) card rfl rfl)
    | some other => simp [RoundSnapshot.under, Round.isFinished] at lacking

theorem replay_of_closed (full : (r.under vira).isFinished = true) :
    (opening vira earlier).replay (r.plays ++ rest) =
      (advance ⟨vira, earlier, r.under vira, false⟩).replay rest := by
  obtain ⟨a, b⟩ := r
  cases a with
  | none => simp [RoundSnapshot.under, Round.isFinished] at full
  | some first =>
    cases b with
    | none => simp [RoundSnapshot.under, Round.isFinished] at full
    | some second =>
      let begun : Hand := ⟨vira, earlier, (Round.start vira).lay .a first, false⟩
      have laid : (opening vira earlier).play .a first = (.ok none, begun) :=
        play_of_start first rfl rfl
      have alone : begun.current = (Round.start begun.vira).lay (Side.other .b) first := rfl
      obtain ⟨result, _, ended⟩ := play_of_answer second rfl alone
      exact (replay_cons_ok _ laid).trans (replay_cons_ok rest ended)

/-- The rounds before the current one are played again one by one, whichever side was the first in
each of them. -/
theorem Running.replay_earlier {first second : List Round} {current : Round}
    (running : Running ⟨vira, first ++ second, current, false⟩) :
    (opening vira first).replay (second.flatMap (fun r => r.snapshot.plays) ++ rest) =
      (opening vira (first ++ second)).replay rest := by
  induction second generalizing first with
  | nil => simp
  | cons r others ih =>
    have later : Running ⟨vira, (first ++ [r]) ++ others, current, false⟩ := by
      simpa using running
    have sameVira : r.vira = vira := running.sameVira r (by simp [rounds])
    have same : r.snapshot.under vira = r := RoundSnapshot.under_snapshot sameVira
    have full : (r.snapshot.under vira).isFinished = true := by
      rw [same]
      exact running.closed r (by simp)
    have advanced : advance ⟨vira, first, r, false⟩ = opening vira (first ++ [r]) := by
      have next := later.of_append
      have undecided : resolve (resultsOf (first ++ [r])) = none := by
        simpa only [results_of_open next.ongoing] using next.undecided
      have few : (first ++ [r]).length < maxRounds := next.few
      simp only [advance, results_eq, rounds, undecided, few]
      rfl
    rw [List.flatMap_cons, List.append_assoc, replay_of_closed _ full, same, advanced, ih later]
    simp

end Rounds

/-- A hand that is being played is what its cards make when they are played again. -/
theorem Running.replay_eq {h : Hand} (running : h.Running) :
    (start h.vira).replay (h.rounds.flatMap (fun r => r.snapshot.plays)) = .ok h := by
  obtain ⟨vira, earlier, current, finished⟩ := h
  obtain rfl : finished = false := running.unfinished
  have same : current.snapshot.under vira = current :=
    RoundSnapshot.under_snapshot (running.sameVira current (by simp [rounds]))
  have lacking : (current.snapshot.under vira).isFinished = false := by
    rw [same]
    exact running.ongoing
  have whole : Running ⟨vira, [] ++ earlier, current, false⟩ := running
  have before : (start vira).replay (earlier.flatMap (fun r => r.snapshot.plays) ++
      (current.snapshot.plays ++ [])) = (opening vira earlier).replay (current.snapshot.plays ++ []) :=
    whole.replay_earlier _
  rw [replay_of_open [] lacking, same] at before
  simpa [rounds] using before

end Hand

end TrucoPaulista
