import TrucoPaulista.Proofs.Ledger

namespace TrucoPaulista

namespace Archive

/-- A call of an archive, with what it is given. -/
inductive Call where
  | create (m : Match)
  | find (matchId : MatchId)
  | save (matchId : MatchId) (m : Match)

namespace Call

def perform (call : Call) (archive : Archive) : Archive :=
  match call with
  | create m => (archive.create m).2
  | find matchId => (archive.find matchId).2
  | save matchId m => (archive.save matchId m).2

/-- The match that a call stored, with the name under which it did so, as the answer tells. -/
def written (call : Call) (archive : Archive) : Option (MatchId × Match) :=
  match call with
  | create m => (archive.create m).1.toOption.map (fun matchId => (matchId, m))
  | find _ => none
  | save matchId m => (archive.save matchId m).1.toOption.map (fun _ => (matchId, m))

def isCreate : Call → Bool
  | create _ => true
  | find _ => false
  | save _ _ => false

end Call

theorem snd_find (archive : Archive) (matchId : MatchId) :
    (archive.find matchId).2 = archive.after 1 := by
  rcases archive.find_cases matchId with ⟨_, _, done⟩ | ⟨_, done⟩ | ⟨_, _, done⟩ <;> rw [done]

/-- Whether no call of an archive fails. -/
def IsFaultless (archive : Archive) : Prop := ∀ number kind, archive.fault number kind = none

namespace IsFaultless

variable {archive : Archive} (faultless : archive.IsFaultless)
include faultless

theorem call_eq {α : Type} (kind : ArchiveCall) (act : Archive → Except ArchiveError α × Archive) :
    archive.call kind act = act (archive.after 1) := by
  rcases archive.call_cases kind act with ⟨failure, ⟨number, kind', fails⟩, _⟩ | done
  · rw [faultless number kind'] at fails
    contradiction
  · exact done

/-- An archive that does not fail gives a new match the next name. -/
theorem create_eq (m : Match) :
    archive.create m =
      (.ok (nameOf (archive.created + 1)),
        { (archive.after 1).put (nameOf (archive.created + 1)) m with
          created := archive.created + 1 }) :=
  faultless.call_eq .create _

theorem save_of_present {matchId : MatchId} (m : Match)
    (present : archive.stored.contains matchId) :
    archive.save matchId m = (.ok (), (archive.after 1).put matchId m) :=
  (faultless.call_eq .save _).trans (if_pos present)

theorem save_of_absent {matchId : MatchId} (m : Match)
    (absent : ¬archive.stored.contains matchId) :
    archive.save matchId m = (.error (.notFound matchId), archive.after 1) :=
  (faultless.call_eq .save _).trans (if_neg absent)

/-- An archive that does not fail finds the match that was stored last under a name. -/
theorem find_of_sound {matchId : MatchId} {last : Option Match}
    (found : archive.stored.get? matchId = last.map Match.snapshot)
    (sound : ∀ m, last = some m → m.Sound) :
    archive.find matchId = (.ok last, archive.after 1) := by
  refine (faultless.call_eq .find _).trans ?_
  rw [stored_after, found]
  cases last with
  | none => rfl
  | some m => simp only [Option.map_some, (sound m rfl).restore_snapshot]

/-- A call stores a new match, or one in the place of another, or nothing. -/
theorem perform_cases (call : Call) :
    (∃ m, call.isCreate ∧ call.written archive = some (nameOf (archive.created + 1), m) ∧
      call.perform archive =
        { (archive.after 1).put (nameOf (archive.created + 1)) m with
          created := archive.created + 1 }) ∨
    (∃ matchId m, call.isCreate = false ∧ archive.stored.contains matchId ∧
      call.written archive = some (matchId, m) ∧
      call.perform archive = (archive.after 1).put matchId m) ∨
    (call.isCreate = false ∧ call.written archive = none ∧
      call.perform archive = archive.after 1) := by
  cases call with
  | create m =>
    refine Or.inl ⟨m, rfl, ?_, ?_⟩
    · simp only [Call.written, faultless.create_eq]
      rfl
    · exact congrArg Prod.snd (faultless.create_eq m)
  | find matchId => exact Or.inr (Or.inr ⟨rfl, rfl, archive.snd_find matchId⟩)
  | save matchId m =>
    by_cases present : archive.stored.contains matchId
    · have saved := faultless.save_of_present m present
      refine Or.inr (Or.inl ⟨matchId, m, rfl, present, ?_, congrArg Prod.snd saved⟩)
      simp only [Call.written, saved]
      rfl
    · have refused := faultless.save_of_absent m present
      refine Or.inr (Or.inr ⟨rfl, ?_, congrArg Prod.snd refused⟩)
      simp only [Call.written, refused]
      rfl

/-- A call writes at most the match that it is about. -/
theorem get?_perform (call : Call) (query : MatchId) :
    (call.perform archive).stored.get? query =
      match call.written archive with
      | some (matchId, m) =>
        if query = matchId then some m.snapshot else archive.stored.get? query
      | none => archive.stored.get? query := by
  rcases faultless.perform_cases call with
    ⟨m, _, written, done⟩ | ⟨matchId, m, _, _, written, done⟩ | ⟨_, written, done⟩
  · rw [written, done]
    exact Dict.get?_insert _ _ _ _
  · rw [written, done]
    exact Dict.get?_insert _ _ _ _
  · rw [written, done, stored_after]

theorem created_perform (call : Call) :
    (call.perform archive).created = if call.isCreate then archive.created + 1 else archive.created := by
  rcases faultless.perform_cases call with
    ⟨_, new, _, done⟩ | ⟨_, _, old, _, _, done⟩ | ⟨old, _, done⟩
  · rw [new, done, if_pos rfl]
  · simp only [old, done, Bool.false_eq_true, if_false]
    rfl
  · simp only [old, done, Bool.false_eq_true, if_false]
    rfl

theorem contains_perform (call : Call) (query : MatchId) :
    (call.perform archive).stored.contains query ↔
      (call.isCreate ∧ query = nameOf (archive.created + 1)) ∨ archive.stored.contains query := by
  have step := faultless.get?_perform call query
  unfold Dict.contains
  rcases faultless.perform_cases call with
    ⟨m, new, written, _⟩ | ⟨matchId, m, old, present, written, _⟩ | ⟨old, written, _⟩
  · rw [step, written]
    by_cases same : query = nameOf (archive.created + 1) <;> simp [new, same]
  · unfold Dict.contains at present
    rw [step, written]
    by_cases same : query = matchId <;> simp [old, same, present]
  · rw [step, written]
    simp [old]

theorem perform (call : Call) : (call.perform archive).IsFaultless := by
  rcases faultless.perform_cases call with ⟨_, _, _, done⟩ | ⟨_, _, _, _, _, done⟩ | ⟨_, _, done⟩ <;>
    rw [done] <;> exact faultless

end IsFaultless

/-- Calls on a new archive, the last one first. -/
abbrev History := List Call

namespace History

def archive : History → Archive
  | [] => .empty
  | call :: earlier => call.perform (archive earlier)

/-- The number of matches that were created. -/
def created (history : History) : Nat := history.countP Call.isCreate

/-- The matches that were stored, the last one first, under their names. -/
def writes : History → List (MatchId × Match)
  | [] => []
  | call :: earlier => (call.written (archive earlier)).toList ++ writes earlier

/-- The match that was stored last under a name. -/
def last (history : History) (matchId : MatchId) : Option Match :=
  lookupEntry matchId history.writes

variable (history : History)

theorem isFaultless_archive : history.archive.IsFaultless := by
  induction history with
  | nil => exact fun _ _ => rfl
  | cons call earlier ih => exact ih.perform call

theorem get?_archive (matchId : MatchId) :
    history.archive.stored.get? matchId = (history.last matchId).map Match.snapshot := by
  induction history with
  | nil => rfl
  | cons call earlier ih =>
    have step := (isFaultless_archive earlier).get?_perform call matchId
    simp only [archive, last, writes] at step ⊢
    rw [step]
    cases call.written (archive earlier) with
    | none => exact ih
    | some entry =>
      obtain ⟨name, m⟩ := entry
      by_cases same : matchId = name
      · simp [lookupEntry, same]
      · simpa [last, lookupEntry, same] using ih

theorem created_le_length : history.created ≤ history.length := List.countP_le_length

theorem created_cons (call : Call) :
    created (call :: history) = if call.isCreate then history.created + 1 else history.created := by
  simp only [created, List.countP_cons]
  split <;> rfl

theorem toNat_created (few : history.length < UInt64.size) :
    history.archive.created.toNat = history.created := by
  induction history with
  | nil => rfl
  | cons call earlier ih =>
    rw [List.length_cons] at few
    have same := ih (by omega)
    have least := created_le_length earlier
    simp only [archive]
    rw [(isFaultless_archive earlier).created_perform, created_cons]
    split
    next => rw [Ledger.toNat_add_one (by omega), same]
    next => exact same

/-- The next match is numbered next. -/
theorem nameOf_next (few : history.length + 1 < UInt64.size) :
    nameOf (history.archive.created + 1) = "match_" ++ toString (history.created + 1) := by
  have least := created_le_length history
  have same := toNat_created history (by omega)
  rw [nameOf, Ledger.toNat_add_one (by omega), same]

theorem contains_archive (few : history.length < UInt64.size) (matchId : MatchId) :
    history.archive.stored.contains matchId ↔
      ∃ number, 1 ≤ number ∧ number ≤ history.created ∧ matchId = "match_" ++ toString number := by
  induction history with
  | nil =>
    constructor
    · exact fun present => Bool.noConfusion present
    · rintro ⟨number, least, most, _⟩
      simp only [created, List.countP_nil] at most
      omega
  | cons call earlier ih =>
    rw [List.length_cons] at few
    simp only [archive]
    rw [(isFaultless_archive earlier).contains_perform, ih (by omega), nameOf_next earlier few,
      created_cons]
    constructor
    · rintro (⟨new, name⟩ | ⟨number, least, most, name⟩)
      · rw [if_pos new]
        exact ⟨_, by omega, Nat.le_refl _, name⟩
      · refine ⟨number, least, ?_, name⟩
        split <;> omega
    · rintro ⟨number, least, most, name⟩
      split at most
      next new =>
        by_cases newest : number = created earlier + 1
        · exact Or.inl ⟨new, newest ▸ name⟩
        · exact Or.inr ⟨number, least, by omega, name⟩
      next => exact Or.inr ⟨number, least, most, name⟩

theorem eq_of_name_eq {first second : Nat} (few : first < UInt64.size) (few' : second < UInt64.size)
    (same : "match_" ++ toString first = "match_" ++ toString second) : first = second := by
  have names : nameOf (UInt64.ofNat first) = nameOf (UInt64.ofNat second) := by
    unfold nameOf
    rwa [UInt64.toNat_ofNat_of_lt' few, UInt64.toNat_ofNat_of_lt' few']
  have numbers := congrArg UInt64.toNat (nameOf_injective names)
  rwa [UInt64.toNat_ofNat_of_lt' few, UInt64.toNat_ofNat_of_lt' few'] at numbers

/-- Calls on a new archive, fewer than there are numbers. The matches that are created are numbered
from one on, each with a name that was not in use, and these names are all under which something is
stored. Whatever was saved, the match that was stored last under a name is the one that is found
there, a match is saved only in the place of another, and a call changes at most the entry that it
writes. -/
theorem keeps_every_match (few : history.length < UInt64.size - 1) :
    (∀ m, (history.archive.create m).1 = .ok ("match_" ++ toString (history.created + 1))) ∧
    history.archive.stored.contains ("match_" ++ toString (history.created + 1)) = false ∧
    (∀ matchId, history.archive.stored.contains matchId ↔
      ∃ number, 1 ≤ number ∧ number ≤ history.created ∧ matchId = "match_" ++ toString number) ∧
    (∀ matchId m, ¬history.archive.stored.contains matchId →
      history.archive.save matchId m = (.error (.notFound matchId), history.archive.after 1)) ∧
    (∀ matchId m, history.archive.stored.contains matchId →
      (history.archive.save matchId m).1 = .ok ()) ∧
    (∀ matchId, (∀ m, history.last matchId = some m → m.Reachable) →
      history.archive.find matchId = (.ok (history.last matchId), history.archive.after 1)) ∧
    (∀ (call : Call) (matchId : MatchId), (∀ m, call.written history.archive ≠ some (matchId, m)) →
      (call.perform history.archive).stored.get? matchId =
        history.archive.stored.get? matchId) := by
  have least := history.created_le_length
  have faultless := history.isFaultless_archive
  have stored := history.contains_archive (by omega)
  refine ⟨?_, ?_, stored, ?_, ?_, ?_, ?_⟩
  · intro m
    rw [faultless.create_eq, history.nameOf_next (by omega)]
  · rw [← Bool.not_eq_true, stored]
    rintro ⟨number, _, most, same⟩
    have numbers := eq_of_name_eq (by omega) (by omega) same
    omega
  · intro matchId m absent
    exact faultless.save_of_absent m absent
  · intro matchId m present
    rw [faultless.save_of_present m present]
  · intro matchId reachable
    exact faultless.find_of_sound (history.get?_archive matchId) fun m found =>
      (reachable m found).sound
  · intro call matchId other
    rw [faultless.get?_perform]
    split
    next name m written =>
      refine if_neg ?_
      rintro rfl
      exact other m written
    next => rfl

/-- Two matches are created, a hand begins in the first one, and a third one is saved in vain. -/
def twoCreated : History :=
  [.save "match_3" .standard, .save "match_1" (Match.standard.start .four).2, .find "match_2",
    .create .standard, .create .standard]

/-- Once two matches were created the next one is the third, which cannot be saved before, and the first
one is found as it was saved. -/
theorem keeps_every_match_two_created :
    twoCreated.length < UInt64.size - 1 ∧
    (twoCreated.archive.create .standard).1 = .ok "match_3" ∧
    twoCreated.archive.save "match_3" .standard =
      (.error (.notFound "match_3"), twoCreated.archive.after 1) ∧
    twoCreated.archive.find "match_1" =
      (.ok (some (Match.standard.start .four).2), twoCreated.archive.after 1) := by
  have few : twoCreated.length < UInt64.size - 1 := by decide
  obtain ⟨named, _, _, refused, _, found, _⟩ := twoCreated.keeps_every_match few
  refine ⟨few, named .standard, refused "match_3" .standard (by decide), ?_⟩
  have last : twoCreated.last "match_1" = some (Match.standard.start .four).2 := by decide
  rw [← last]
  refine found "match_1" ?_
  intro m same
  rw [last] at same
  cases same
  exact .started .standard .four

end History

end Archive

end TrucoPaulista
