import TrucoPaulista.Text.Upper

namespace TrucoPaulista.Text

/-- Whether a run moves its code points to characters that are not ASCII. -/
def CaseRun.LeavesAscii (run : CaseRun) : Prop :=
  128 ≤ run.first + run.offset ∧
    (run.last + run.offset < 0xd800 ∨
      0xdfff < run.first + run.offset ∧ run.last + run.offset < 0x110000)

instance (run : CaseRun) : Decidable run.LeavesAscii :=
  inferInstanceAs (Decidable (128 ≤ run.first + run.offset ∧
    (run.last + run.offset < 0xd800 ∨
      0xdfff < run.first + run.offset ∧ run.last + run.offset < 0x110000)))

/-- What the upper case of a character is. Two characters that are not ASCII have an ASCII letter for
their upper case. -/
inductive IsUpperCase : Char → List Char → Prop where
  | ascii {c : Char} (low : c.toNat < 128) : IsUpperCase c [c.toUpper]
  | longS : IsUpperCase 'ſ' ['S']
  | dotlessI : IsUpperCase 'ı' ['I']
  | foreign {c upper : Char} (other : c ≠ 'ſ') (beyond : 128 ≤ c.toNat)
      (beyond' : 128 ≤ upper.toNat) : IsUpperCase c [upper]
  | several {c : Char} {entry : Nat × List Nat} (other : c ≠ 'ſ') (beyond : 128 ≤ c.toNat)
      (listed : entry ∈ upperExceptions) : IsUpperCase c (entry.2.map Char.ofNat)

section Characters

variable {c : Char}

theorem toUpper_of_not_small (other : ¬ ('a'.toNat ≤ c.toNat ∧ c.toNat ≤ 'z'.toNat)) :
    c.toUpper = c := dif_neg other

theorem toUpper_of_beyond (beyond : 128 ≤ c.toNat) : c.toUpper = c := by
  refine toUpper_of_not_small ?_
  rintro ⟨_, most⟩
  have most : c.toNat ≤ 122 := most
  omega

theorem toUpper_toUpper (c : Char) : c.toUpper.toUpper = c.toUpper := by
  rcases Nat.lt_or_ge c.toNat 128 with low | beyond
  · have ascii : ∀ point < 128,
        (Char.ofNat point).toUpper.toUpper = (Char.ofNat point).toUpper := by decide +kernel
    have here := ascii c.toNat low
    rwa [Char.ofNat_toNat] at here
  · rw [toUpper_of_beyond beyond, toUpper_of_beyond beyond]

end Characters

section Tables

variable {c : Char} {cs : List Char}

/-- A character is mapped as an exception, with a run that covers it, or to itself. -/
theorem mapCase_cases (exceptions : List (Nat × List Nat)) (runs : List CaseRun) (c : Char) :
    (∃ entry ∈ exceptions, entry.1 = c.toNat ∧
      mapCase exceptions runs c = entry.2.map Char.ofNat) ∨
    (∃ run ∈ runs, run.covers c.toNat ∧
      mapCase exceptions runs c = [Char.ofNat (run.target c.toNat)]) ∨
    (∀ run ∈ runs, ¬ run.covers c.toNat) ∧ mapCase exceptions runs c = [c] := by
  unfold mapCase
  split
  next entry found =>
    have key := List.find?_some (p := fun entry : Nat × List Nat => entry.1 == c.toNat) found
    exact Or.inl ⟨entry, List.mem_of_find?_eq_some found, eq_of_beq key, rfl⟩
  next =>
    split
    next run found =>
      have covers := List.find?_some (p := fun run : CaseRun => run.covers c.toNat) found
      exact Or.inr (Or.inl ⟨run, List.mem_of_find?_eq_some found, covers, rfl⟩)
    next uncovered => exact Or.inr (Or.inr ⟨List.find?_eq_none.mp uncovered, rfl⟩)

theorem CaseRun.within_of_covers {run : CaseRun} {point : Nat} (covers : run.covers point) :
    run.first ≤ point ∧ point ≤ run.last := by
  simp only [CaseRun.covers, Bool.and_eq_true, decide_eq_true_eq] at covers
  exact covers.1

theorem CaseRun.LeavesAscii.target {run : CaseRun} {point : Nat} (leaves : run.LeavesAscii)
    (covers : run.covers point) : 128 ≤ (Char.ofNat (run.target point)).toNat := by
  obtain ⟨least, scalar⟩ := leaves
  have within := within_of_covers covers
  have valid : (run.target point).isValidChar := by
    unfold CaseRun.target Nat.isValidChar
    omega
  have here : (Char.ofNat (run.target point)).toNat = run.target point := by
    rw [Char.ofNat, dif_pos valid]
    rfl
  rw [here]
  unfold CaseRun.target
  omega

theorem upperRuns_ascii : ∀ run ∈ upperRuns, run.LeavesAscii ∨ run.last < 128 ∨
    run.first = run.last ∧ (run.first = 'ſ'.toNat ∨ run.first = 'ı'.toNat) := by
  decide +kernel

/-- Of the ASCII characters the small letters have another upper case, as they have among ASCII
characters. -/
theorem upperChar_of_ascii (low : c.toNat < 128) : upperChar c = [c.toUpper] := by
  have keys : ∀ entry ∈ upperExceptions, 128 ≤ entry.1 := by decide +kernel
  have runs : ∀ run ∈ upperRuns, 128 ≤ run.first ∨
      run.first = 'a'.toNat ∧ run.last = 'z'.toNat ∧ run.offset = -32 := by decide +kernel
  have small : ∃ run ∈ upperRuns, ∀ point < 128, 'a'.toNat ≤ point → point ≤ 'z'.toNat →
      run.covers point := by decide +kernel
  unfold upperChar
  rcases mapCase_cases upperExceptions upperRuns c with
    ⟨entry, listed, key, _⟩ | ⟨run, listed, covers, image⟩ | ⟨uncovered, image⟩
  · have large := keys entry listed
    omega
  · have within := CaseRun.within_of_covers covers
    rcases runs run listed with large | ⟨first, last, offset⟩
    · omega
    · have target : run.target c.toNat = c.toNat - 32 := by
        unfold CaseRun.target
        omega
      have letters : ∀ point < 128, 'a'.toNat ≤ point → point ≤ 'z'.toNat →
          Char.ofNat (point - 32) = (Char.ofNat point).toUpper := by decide +kernel
      rw [image, target, letters c.toNat low (by omega) (by omega), Char.ofNat_toNat]
  · obtain ⟨run, listed, covers⟩ := small
    rw [image, toUpper_of_not_small fun ⟨least, most⟩ =>
      uncovered run listed (covers c.toNat low least most)]

theorem isUpperCase_upperChar (c : Char) : IsUpperCase c (upperChar c) := by
  rcases Nat.lt_or_ge c.toNat 128 with low | beyond
  · rw [upperChar_of_ascii low]
    exact .ascii low
  · by_cases other : c = 'ſ'
    · rw [other]
      exact .longS
    · unfold upperChar
      rcases mapCase_cases upperExceptions upperRuns c with
        ⟨entry, listed, _, image⟩ | ⟨run, listed, covers, image⟩ | ⟨_, image⟩
      · rw [image]
        exact .several other beyond listed
      · have within := CaseRun.within_of_covers covers
        rcases upperRuns_ascii run listed with leaves | low | ⟨single, longS | dotlessI⟩
        · rw [image]
          exact .foreign other beyond (leaves.target covers)
        · omega
        · exact absurd (Char.toNat_inj.mp (by omega)) other
        · obtain rfl : c = 'ı' := Char.toNat_inj.mp (by omega)
          exact .dotlessI
      · rw [image]
        exact .foreign other beyond beyond

theorem two_le_of_listed {entry : Nat × List Nat} (listed : entry ∈ upperExceptions) :
    2 ≤ (entry.2.map Char.ofNat).length := by
  have long : ∀ entry ∈ upperExceptions, 2 ≤ entry.2.length := by decide +kernel
  rw [List.length_map]
  exact long entry listed

theorem IsUpperCase.ne_nil (image : IsUpperCase c cs) : cs ≠ [] := by
  cases image with
  | several _ _ listed =>
    have long := two_le_of_listed listed
    exact List.length_pos_iff.mp (by omega)
  | ascii | longS | dotlessI | foreign => exact List.cons_ne_nil _ _

/-- No small ASCII letter is left. -/
theorem IsUpperCase.toUpper_of_mem (image : IsUpperCase c cs) {upper : Char} (member : upper ∈ cs) :
    upper.toUpper = upper := by
  cases image with
  | ascii =>
    rw [List.mem_singleton.mp member]
    exact toUpper_toUpper c
  | longS | dotlessI => rw [List.mem_singleton.mp member]; rfl
  | foreign _ _ beyond =>
    rw [List.mem_singleton.mp member]
    exact toUpper_of_beyond beyond
  | several _ _ listed =>
    have each : ∀ entry ∈ upperExceptions, ∀ point ∈ entry.2,
        (Char.ofNat point).toUpper = Char.ofNat point := by decide +kernel
    obtain ⟨point, member', rfl⟩ := List.mem_map.mp member
    exact each _ listed point member'

end Tables

section Lists

variable {cs : List Char}

theorem upper_append (cs rest : List Char) : upper (cs ++ rest) = upper cs ++ upper rest :=
  List.flatMap_append

theorem upper_cons (c : Char) (rest : List Char) : upper (c :: rest) = upperChar c ++ upper rest :=
  List.flatMap_cons

@[simp] theorem upper_singleton (c : Char) : upper [c] = upperChar c :=
  (upper_cons c []).trans (List.append_nil _)

theorem length_le_upper (cs : List Char) : cs.length ≤ (upper cs).length := by
  induction cs with
  | nil => exact Nat.le_refl 0
  | cons c rest ih =>
    have some' := List.length_pos_iff.mpr (isUpperCase_upperChar c).ne_nil
    rw [upper_cons, List.length_append, List.length_cons]
    omega

end Lists

end TrucoPaulista.Text
