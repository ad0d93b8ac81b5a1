import TrucoPaulista.Proofs.Dict
import TrucoPaulista.Proofs.Likeness

namespace TrucoPaulista

/-- Whether a failure is one of which clients are told nothing. -/
def ArchiveError.IsHidden (failure : ArchiveError) : Prop := ∀ matchId, failure ≠ .notFound matchId

theorem ArchiveError.IsHidden.notice {failure : ArchiveError} (hidden : failure.IsHidden) :
    (Refusal.archive failure).notice = ⟨"Internal server error", 500⟩ := by
  cases failure with
  | notFound matchId => exact absurd rfl (hidden matchId)
  | database | timeout | snapshot => rfl

theorem ArchiveError.isHidden_snapshot (refusal : GameError) : (snapshot refusal).IsHidden := nofun

theorem ArchiveError.isHidden_timeout (seconds : Nat) : (timeout seconds).IsHidden := nofun

namespace Likeness

/-- Repositories count as the same that fail at the same calls, however they fail, as long as no failure
is that a match is not found. -/
def failing {ρ ρ' : Type} (alike : ρ → ρ' → Prop) : Likeness ρ ρ' where
  alike
  told failure failure' := failure = failure' ∨ failure.IsHidden ∧ failure'.IsHidden
  ends _ := False

/-- A repository counts as the same as one that answers where it fails, until one of its failures is met
with. -/
def mended {ρ ρ' : Type} (alike : ρ → ρ' → Prop) : Likeness ρ ρ' where
  alike
  told := Eq
  ends := ArchiveError.IsHidden

section Discreet

variable {ρ ρ' : Type} [Repository ρ] [Repository ρ'] {alike : ρ → ρ' → Prop}

theorem discreet_failing (kept : (failing alike).Kept) : (failing alike).Discreet where
  toKept := kept
  notice failure failure' told := by
    rcases told with rfl | ⟨hidden, hidden'⟩
    · rfl
    · rw [hidden.notice, hidden'.notice]

theorem discreet_mended (kept : (mended alike).Kept) : (mended alike).Discreet where
  toKept := kept
  notice _ _ same := congrArg (fun failure => (Refusal.archive failure).notice) same

end Discreet

end Likeness

/-- Whether what is stored cannot be read as a match. -/
def MatchSnapshot.IsUnreadable (stored : MatchSnapshot) : Prop :=
  ∃ refusal, stored.restore = .error refusal

namespace Archive

open Likeness

section Alike

variable (told : ArchiveError → ArchiveError → Prop) (ends : ArchiveError → Prop)
  (same : MatchSnapshot → MatchSnapshot → Prop)

/-- Whether two archives do the same, but for the failures, of which some are told alike and some put an
end to the comparison, and hold the same, but for matches that may stand for each other. -/
structure Alike (archive archive' : Archive) : Prop where
  created : archive'.created = archive.created
  calls : archive'.calls = archive.calls
  fault : ∀ number kind, Option.Rel told (archive.fault number kind) (archive'.fault number kind) ∨
    ∃ failure, archive.fault number kind = some failure ∧ ends failure
  stored : ∀ matchId, Option.Rel same (archive.stored.get? matchId) (archive'.stored.get? matchId)

variable {told ends same} {archive archive' : Archive} (alike : Alike told ends same archive archive')

include alike

/-- A call comes to the same in two archives if what it is for does, whether it fails or not. -/
theorem Alike.call {α : Type} {kind : ArchiveCall} {act : Archive → Except ArchiveError α × Archive}
    (acts : ∀ archive archive', Alike told ends same archive archive' →
      Likeness.Answers ⟨Alike told ends same, told, ends⟩ (act archive) (act archive')) :
    Likeness.Answers ⟨Alike told ends same, told, ends⟩ (archive.call kind act)
      (archive'.call kind act) := by
  have counted : Alike told ends same { archive with calls := archive.calls + 1 }
      { archive' with calls := archive.calls + 1 } :=
    ⟨alike.created, rfl, alike.fault, alike.stored⟩
  have fault := alike.fault archive.calls kind
  have acted := acts _ _ counted
  simp only [Archive.call, alike.calls]
  revert fault acted
  generalize archive.fault archive.calls kind = fails, archive'.fault archive.calls kind = fails'
  rintro (fails | ⟨failure, rfl, ends⟩) acted
  · cases fails with
    | none => exact acted
    | some told => exact .failed told counted
  · exact .ended ends

/-- Two archives stay alike when the same match is stored in both. -/
theorem Alike.store (same_refl : ∀ stored, same stored stored) (matchId : MatchId)
    (stored : MatchSnapshot) (created : UInt64) :
    Alike told ends same { archive with stored := archive.stored.insert matchId stored, created }
      { archive' with stored := archive'.stored.insert matchId stored, created } where
  created := rfl
  calls := alike.calls
  fault := alike.fault
  stored other := by
    rw [Dict.get?_insert, Dict.get?_insert]
    split
    next => exact .some (same_refl stored)
    next => exact alike.stored other

/-- A match that is created gets the same name in both. -/
theorem Alike.create (same_refl : ∀ stored, same stored stored) (m : Match) :
    Likeness.Answers ⟨Alike told ends same, told, ends⟩ (archive.create m) (archive'.create m) := by
  rw [Archive.create, Archive.create]
  refine alike.call fun archive archive' alike => ?_
  dsimp only
  rw [alike.created]
  exact .answered _ (alike.store same_refl _ m.snapshot _)

/-- The same match is found in both, where those that stand for each other are the same or cannot be
read. -/
theorem Alike.find (told_refl : ∀ failure, told failure failure)
    (unread : ∀ stored stored', same stored stored' → stored = stored' ∨
      ∃ refusal, stored.restore = .error refusal ∧ (ends (.snapshot refusal) ∨
        ∃ refusal', stored'.restore = .error refusal' ∧ told (.snapshot refusal) (.snapshot refusal')))
    (matchId : MatchId) :
    Likeness.Answers ⟨Alike told ends same, told, ends⟩ (archive.find matchId)
      (archive'.find matchId) := by
  rw [Archive.find, Archive.find]
  refine alike.call fun archive archive' alike => ?_
  have stored := alike.stored matchId
  revert stored
  generalize archive.stored.get? matchId = found, archive'.stored.get? matchId = found'
  intro stored
  cases stored with
  | none => exact .answered none alike
  | @some stored stored' same =>
    dsimp only
    rcases unread stored stored' same with
      rfl | ⟨refusal, unread, ends | ⟨refusal', unread', told⟩⟩
    · cases stored.restore with
      | ok m => exact .answered (some m) alike
      | error refusal => exact .failed (told_refl _) alike
    · rw [unread]
      exact .ended ends
    · rw [unread, unread']
      exact .failed told alike

/-- A match is saved in both, or missed in both. -/
theorem Alike.save (told_refl : ∀ failure, told failure failure)
    (same_refl : ∀ stored, same stored stored) (matchId : MatchId) (m : Match) :
    Likeness.Answers ⟨Alike told ends same, told, ends⟩ (archive.save matchId m)
      (archive'.save matchId m) := by
  rw [Archive.save, Archive.save]
  refine alike.call fun archive archive' alike => ?_
  have present : archive'.stored.contains matchId = archive.stored.contains matchId := by
    have stored := alike.stored matchId
    rw [Dict.contains, Dict.contains]
    revert stored
    generalize archive.stored.get? matchId = found, archive'.stored.get? matchId = found'
    rintro (_ | _) <;> rfl
  rw [present]
  split
  next =>
    have kept := alike.store same_refl matchId m.snapshot archive.created
    exact .answered () ⟨alike.created, kept.calls, kept.fault, kept.stored⟩
  next => exact .failed (told_refl _) alike

omit alike in
/-- Archives go on doing the same, where matches that stand for each other are the same or cannot be read. -/
theorem kept_alike (told_refl : ∀ failure, told failure failure) (same_refl : ∀ stored, same stored stored)
    (unread : ∀ stored stored', same stored stored' → stored = stored' ∨
      ∃ refusal, stored.restore = .error refusal ∧ (ends (.snapshot refusal) ∨
        ∃ refusal', stored'.restore = .error refusal' ∧ told (.snapshot refusal) (.snapshot refusal'))) :
    Likeness.Kept ⟨Alike told ends same, told, ends⟩ where
  create _ _ alike m := alike.create same_refl m
  find _ _ alike matchId := alike.find told_refl unread matchId
  save _ _ alike matchId m := alike.save told_refl same_refl matchId m

end Alike

/-- Whether two archives fail at the same calls, however they fail but never by not finding a match, and
hold the same, but for matches that may stand for each other. -/
def FailAlike (same : MatchSnapshot → MatchSnapshot → Prop) : Archive → Archive → Prop :=
  Alike (fun failure failure' => failure = failure' ∨ failure.IsHidden ∧ failure'.IsHidden) (fun _ => False)
    same

theorem FailAlike.stored_eq {archive archive' : Archive} (alike : FailAlike Eq archive archive') :
    archive'.stored = archive.stored := by
  refine Dict.ext_get? fun matchId => ?_
  have stored := alike.stored matchId
  generalize archive.stored.get? matchId = found, archive'.stored.get? matchId = found' at stored
  cases stored with
  | none => rfl
  | some same => rw [same]

/-- Whether two archives do the same and hold the same, as far as the first one neither fails nor holds
what it cannot read. -/
def Mends : Archive → Archive → Prop :=
  Alike Eq ArchiveError.IsHidden (fun stored stored' => stored = stored' ∨ stored.IsUnreadable)

/-- Archives go on failing alike, also where a match may stand for another one that neither can read. -/
theorem kept_failAlike {same : MatchSnapshot → MatchSnapshot → Prop}
    (same_refl : ∀ stored, same stored stored) (unread : ∀ stored stored', same stored stored' →
      stored = stored' ∨ stored.IsUnreadable ∧ stored'.IsUnreadable) :
    (failing (FailAlike same)).Kept := by
  refine kept_alike (fun _ => Or.inl rfl) same_refl fun stored stored' alike => ?_
  refine (unread stored stored' alike).imp_right ?_
  rintro ⟨⟨refusal, unread⟩, refusal', unread'⟩
  exact ⟨refusal, unread, Or.inr ⟨refusal', unread',
    Or.inr ⟨ArchiveError.isHidden_snapshot refusal, ArchiveError.isHidden_snapshot refusal'⟩⟩⟩

theorem kept_mends : (mended Mends).Kept := by
  refine kept_alike (fun _ => rfl) (fun _ => Or.inl rfl) ?_
  rintro stored stored' (same | ⟨refusal, unread⟩)
  · exact Or.inl same
  · exact Or.inr ⟨refusal, unread, Or.inl (ArchiveError.isHidden_snapshot refusal)⟩

end Archive

/-- A repository of which some calls are said to fail: for what reason, and whether they were carried out
nonetheless. -/
structure Faulty (ρ : Type) where
  repository : ρ
  calls : Nat
  fault : Nat → Option (ArchiveError × Bool)

namespace Faulty

open Likeness

variable {ρ α : Type}

/-- A call, of which the answer is lost where it is said to fail. -/
def call (faulty : Faulty ρ) (act : ρ → Except ArchiveError α × ρ) : Except ArchiveError α × Faulty ρ :=
  let (answer, repository) := act faulty.repository
  let calls := faulty.calls + 1
  match faulty.fault faulty.calls with
  | none => (answer, { faulty with calls, repository })
  | some (failure, done) =>
    (.error failure, { faulty with calls, repository := if done then repository else faulty.repository })

instance [Repository ρ] : Repository (Faulty ρ) where
  create faulty m := faulty.call (fun r => Repository.create r m)
  find faulty matchId := faulty.call (fun r => Repository.find r matchId)
  save faulty matchId m := faulty.call (fun r => Repository.save r matchId m)

/-- Whether two repositories are one and the same, but that the same calls are said to fail, for whatever
reasons but never that a match is not found. -/
structure FailAlike (faulty faulty' : Faulty ρ) : Prop where
  repository : faulty'.repository = faulty.repository
  calls : faulty'.calls = faulty.calls
  fault : ∀ number, Option.Rel
    (fun failure failure' => (failure.1.IsHidden ∧ failure'.1.IsHidden) ∧ failure.2 = failure'.2)
    (faulty.fault number) (faulty'.fault number)

theorem FailAlike.call {faulty faulty' : Faulty ρ} (alike : FailAlike faulty faulty')
    (act : ρ → Except ArchiveError α × ρ) :
    (failing FailAlike).Answers (faulty.call act) (faulty'.call act) := by
  have after : ∀ repository : ρ, (failing FailAlike).alike
      { faulty with calls := faulty.calls + 1, repository }
      { faulty' with calls := faulty.calls + 1, repository } := fun _ => ⟨rfl, rfl, alike.fault⟩
  have fault := alike.fault faulty.calls
  unfold Faulty.call
  rw [alike.repository, alike.calls]
  dsimp only
  revert fault
  generalize faulty.fault faulty.calls = fails, faulty'.fault faulty.calls = fails'
  intro fault
  cases fault with
  | none =>
    rcases act faulty.repository with ⟨failure | answer, repository⟩
    · exact .failed (Or.inl rfl) (after repository)
    · exact .answered answer (after repository)
  | @some failure failure' same =>
    obtain ⟨failure, done⟩ := failure
    obtain ⟨failure', done'⟩ := failure'
    obtain ⟨hidden, rfl⟩ := same
    exact .failed (Or.inr hidden) (after _)

/-- Whether a repository is the one of which calls are said to fail, though never for not finding a
match. -/
structure Mends (faulty : Faulty ρ) (repository : ρ) : Prop where
  repository : repository = faulty.repository
  hidden : ∀ number failure, faulty.fault number = some failure → failure.1.IsHidden

theorem Mends.call {faulty : Faulty ρ} {repository : ρ} (mends : Mends faulty repository)
    (act : ρ → Except ArchiveError α × ρ) :
    (mended Mends).Answers (faulty.call act) (act repository) := by
  have after : ∀ repository : ρ, (mended Mends).alike
      { faulty with calls := faulty.calls + 1, repository } repository := fun _ => ⟨rfl, mends.hidden⟩
  have hidden := mends.hidden faulty.calls
  unfold Faulty.call
  rw [mends.repository]
  dsimp only
  revert hidden
  generalize faulty.fault faulty.calls = fails
  intro hidden
  cases fails with
  | none =>
    rcases act faulty.repository with ⟨failure | answer, repository⟩
    · exact .failed rfl (after repository)
    · exact .answered answer (after repository)
  | some failure => exact .ended (hidden failure rfl)

variable [Repository ρ]

theorem kept_failAlike : (failing (@FailAlike ρ)).Kept where
  create _ _ alike _ := alike.call _
  find _ _ alike _ := alike.call _
  save _ _ alike _ _ := alike.call _

theorem kept_mends : (mended (@Mends ρ)).Kept where
  create _ _ mends _ := mends.call _
  find _ _ mends _ := mends.call _
  save _ _ mends _ _ := mends.call _

/-- An archive that carries out every call, but of one says that it failed. -/
def losing (number : Nat) (failure : ArchiveError) : Faulty Archive :=
  ⟨.empty, 0, fun call => if call = number then some (failure, true) else none⟩

theorem failAlike_losing (number : Nat) {failure failure' : ArchiveError} (hidden : failure.IsHidden)
    (hidden' : failure'.IsHidden) : FailAlike (losing number failure) (losing number failure') := by
  refine ⟨rfl, rfl, fun call => ?_⟩
  unfold losing
  dsimp only
  split
  next => exact .some ⟨⟨hidden, hidden'⟩, rfl⟩
  next => exact .none

end Faulty

end TrucoPaulista
