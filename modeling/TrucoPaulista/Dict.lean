namespace TrucoPaulista

section Lookup

variable {κ : Type} {α : Type} [DecidableEq κ]

/-- The value of the first entry under a key. -/
def lookupEntry (key : κ) : List (κ × α) → Option α
  | [] => none
  | (other, value) :: rest => if key = other then some value else lookupEntry key rest

theorem lookupEntry_eq_none {key : κ} {entries : List (κ × α)}
    (absent : ∀ entry ∈ entries, key ≠ entry.1) : lookupEntry key entries = none := by
  induction entries with
  | nil => rfl
  | cons head rest ih =>
    obtain ⟨other, value⟩ := head
    have first := absent (other, value) (by simp)
    have others := ih (fun entry member => absent entry (List.mem_cons_of_mem _ member))
    simp [lookupEntry, first, others]

theorem mem_of_lookupEntry {key : κ} {value : α} {entries : List (κ × α)}
    (found : lookupEntry key entries = some value) : (key, value) ∈ entries := by
  induction entries with
  | nil => simp [lookupEntry] at found
  | cons head rest ih =>
    obtain ⟨other, old⟩ := head
    by_cases same : key = other
    · subst same
      simp only [lookupEntry, if_pos, Option.some.injEq] at found
      simp [found]
    · simp only [lookupEntry, if_neg same] at found
      exact List.mem_cons_of_mem _ (ih found)

theorem lookupEntry_filter (key query : κ) (entries : List (κ × α)) :
    lookupEntry query (entries.filter (fun entry => entry.1 ≠ key)) =
      if query = key then none else lookupEntry query entries := by
  induction entries with
  | nil => simp [lookupEntry]
  | cons head rest ih =>
    obtain ⟨other, old⟩ := head
    by_cases gone : other = key
    · subst gone
      by_cases hit : query = other <;> simp_all [lookupEntry]
    · by_cases hit : query = other
      · subst hit
        simp [lookupEntry, gone]
      · simp_all [lookupEntry]

end Lookup

section Ordered

variable {κ : Type} {α : Type} [LT κ]

/-- Entries in strictly increasing order of their keys. -/
def Ordered (entries : List (κ × α)) : Prop :=
  entries.Pairwise (fun left right => left.1 < right.1)

/-- A finite map, its entries in strictly increasing order of their keys. -/
structure Dict (κ : Type) (α : Type) [LT κ] where
  entries : List (κ × α)
  ordered : Ordered entries

namespace Dict

theorem ext_entries {left right : Dict κ α} (same : left.entries = right.entries) :
    left = right := by
  cases left
  cases right
  simpa using same

instance [DecidableEq κ] [DecidableEq α] : DecidableEq (Dict κ α) := fun left right =>
  decidable_of_iff (left.entries = right.entries) ⟨ext_entries, fun same => same ▸ rfl⟩

def empty : Dict κ α := ⟨[], List.Pairwise.nil⟩

instance : EmptyCollection (Dict κ α) := ⟨empty⟩

instance : Inhabited (Dict κ α) := ⟨empty⟩

/-- The entries that satisfy a test. -/
def filter (d : Dict κ α) (keep : κ → α → Bool) : Dict κ α :=
  ⟨d.entries.filter (fun entry => keep entry.1 entry.2), List.Pairwise.filter _ d.ordered⟩

/-- The keys, in increasing order. -/
def keys (d : Dict κ α) : List κ := d.entries.map Prod.fst

/-- The values, in the order of their keys. -/
def values (d : Dict κ α) : List α := d.entries.map Prod.snd

/-- The number of keys. -/
def size (d : Dict κ α) : Nat := d.entries.length

variable [DecidableEq κ]

/-- The value under a key. -/
def get? (d : Dict κ α) (key : κ) : Option α := lookupEntry key d.entries

/-- Whether a key has a value. -/
def contains (d : Dict κ α) (key : κ) : Bool := (d.get? key).isSome

/-- The map without a key. -/
def erase (d : Dict κ α) (key : κ) : Dict κ α :=
  ⟨d.entries.filter (fun entry => entry.1 ≠ key), List.Pairwise.filter _ d.ordered⟩

@[simp] theorem get?_empty (key : κ) : (empty : Dict κ α).get? key = none := rfl

@[simp] theorem get?_erase (d : Dict κ α) (key query : κ) :
    (d.erase key).get? query = if query = key then none else d.get? query :=
  lookupEntry_filter key query d.entries

end Dict

end Ordered

section Extensional

variable {κ : Type} {α : Type} [DecidableEq κ] [LT κ] [LE κ] [Std.IsLinearOrder κ]
  [Std.LawfulOrderLT κ]

theorem eq_of_lookupEntry {left right : List (κ × α)} (leftOrdered : Ordered left)
    (rightOrdered : Ordered right)
    (agree : ∀ key, lookupEntry key left = lookupEntry key right) : left = right := by
  induction left generalizing right with
  | nil =>
    cases right with
    | nil => rfl
    | cons head rest => simpa [lookupEntry] using agree head.1
  | cons head rest ih =>
    obtain ⟨key, value⟩ := head
    obtain ⟨first, others⟩ := List.pairwise_cons.mp leftOrdered
    cases right with
    | nil => simpa [lookupEntry] using agree key
    | cons head' rest' =>
      obtain ⟨key', value'⟩ := head'
      obtain ⟨first', others'⟩ := List.pairwise_cons.mp rightOrdered
      have same : key = key' := by
        rcases Std.lt_trichotomy key key' with less | same | more
        · have missing : lookupEntry key ((key', value') :: rest') = none := by
            apply lookupEntry_eq_none
            intro entry member equal
            rcases List.mem_cons.mp member with rfl | inside
            · exact Std.lt_irrefl (equal ▸ less)
            · exact Std.lt_irrefl (equal ▸ Std.lt_trans less (first' entry inside))
          rw [← agree key] at missing
          simp [lookupEntry] at missing
        · exact same
        · have missing : lookupEntry key' ((key, value) :: rest) = none := by
            apply lookupEntry_eq_none
            intro entry member equal
            rcases List.mem_cons.mp member with rfl | inside
            · exact Std.lt_irrefl (equal ▸ more)
            · exact Std.lt_irrefl (equal ▸ Std.lt_trans more (first entry inside))
          rw [agree key'] at missing
          simp [lookupEntry] at missing
      subst same
      have values : value = value' := by simpa [lookupEntry] using agree key
      subst values
      have tails : ∀ query, lookupEntry query rest = lookupEntry query rest' := by
        intro query
        by_cases hit : query = key
        · subst hit
          rw [lookupEntry_eq_none, lookupEntry_eq_none]
          · intro entry member equal
            exact Std.lt_irrefl (equal ▸ first' entry member)
          · intro entry member equal
            exact Std.lt_irrefl (equal ▸ first entry member)
        · simpa [lookupEntry, hit] using agree query
      rw [ih others others' tails]

theorem Dict.ext_get? {left right : Dict κ α} (agree : ∀ key, left.get? key = right.get? key) :
    left = right :=
  ext_entries (eq_of_lookupEntry left.ordered right.ordered agree)

end Extensional

section Insert

variable {κ : Type} {α : Type} [DecidableEq κ] [LT κ] [DecidableLT κ]

/-- Puts an entry before the first larger key, in place of an entry under the same key. -/
def insertEntry (key : κ) (value : α) : List (κ × α) → List (κ × α)
  | [] => [(key, value)]
  | (other, old) :: rest =>
    if key = other then (key, value) :: rest
    else if key < other then (key, value) :: (other, old) :: rest
    else (other, old) :: insertEntry key value rest

theorem lookupEntry_insertEntry (key query : κ) (value : α) (entries : List (κ × α)) :
    lookupEntry query (insertEntry key value entries) =
      if query = key then some value else lookupEntry query entries := by
  induction entries with
  | nil => simp [insertEntry, lookupEntry]
  | cons head rest ih =>
    obtain ⟨other, old⟩ := head
    by_cases same : key = other
    · subst same
      by_cases hit : query = key <;> simp [insertEntry, lookupEntry, hit]
    · by_cases less : key < other
      · by_cases hit : query = key <;> simp [insertEntry, lookupEntry, same, less, hit]
      · by_cases hit : query = key
        · subst hit
          simp [insertEntry, lookupEntry, same, less, ih]
        · simp [insertEntry, lookupEntry, same, less, ih, hit]

theorem mem_insertEntry {key : κ} {value : α} {entry : κ × α} {entries : List (κ × α)}
    (member : entry ∈ insertEntry key value entries) : entry = (key, value) ∨ entry ∈ entries := by
  induction entries with
  | nil => simpa [insertEntry] using member
  | cons head rest ih =>
    obtain ⟨other, old⟩ := head
    simp only [insertEntry] at member
    split at member
    · rcases List.mem_cons.mp member with same | inside
      · exact Or.inl same
      · exact Or.inr (List.mem_cons_of_mem _ inside)
    · split at member
      · exact (List.mem_cons.mp member).imp_right id
      · rcases List.mem_cons.mp member with same | inside
        · exact Or.inr (by simp [same])
        · exact (ih inside).imp_right (List.mem_cons_of_mem _)

variable [LE κ] [Std.IsLinearOrder κ] [Std.LawfulOrderLT κ]

theorem ordered_insertEntry (key : κ) (value : α) {entries : List (κ × α)}
    (ordered : Ordered entries) : Ordered (insertEntry key value entries) := by
  induction entries with
  | nil => simp [Ordered, insertEntry]
  | cons head rest ih =>
    obtain ⟨other, old⟩ := head
    obtain ⟨first, others⟩ := List.pairwise_cons.mp ordered
    by_cases same : key = other
    · subst same
      simpa [insertEntry, Ordered] using ⟨fun k v h => first (k, v) h, others⟩
    · by_cases less : key < other
      · simp only [insertEntry, if_neg same, if_pos less]
        refine List.pairwise_cons.mpr ⟨fun entry member => ?_, ordered⟩
        rcases List.mem_cons.mp member with rfl | inside
        · exact less
        · exact Std.lt_trans less (first entry inside)
      · simp only [insertEntry, if_neg same, if_neg less]
        refine List.pairwise_cons.mpr ⟨fun entry member => ?_, ih others⟩
        rcases mem_insertEntry member with rfl | inside
        · rcases Std.lt_trichotomy key other with h | h | h
          · exact absurd h less
          · exact absurd h same
          · exact h
        · exact first entry inside

namespace Dict

/-- The map with a value put under a key. -/
def insert (d : Dict κ α) (key : κ) (value : α) : Dict κ α :=
  ⟨insertEntry key value d.entries, ordered_insertEntry key value d.ordered⟩

/-- The map with the value of a key changed; without the key, the same map. -/
def modify (d : Dict κ α) (key : κ) (change : α → α) : Dict κ α :=
  match d.get? key with
  | none => d
  | some value => d.insert key (change value)

@[simp] theorem get?_insert (d : Dict κ α) (key query : κ) (value : α) :
    (d.insert key value).get? query = if query = key then some value else d.get? query :=
  lookupEntry_insertEntry key query value d.entries

@[simp] theorem get?_modify (d : Dict κ α) (key query : κ) (change : α → α) :
    (d.modify key change).get? query =
      if query = key then (d.get? key).map change else d.get? query := by
  unfold modify
  split
  next missing =>
    by_cases hit : query = key
    · simp [hit, missing]
    · simp [hit]
  next value found => simp [found]

end Dict

end Insert

end TrucoPaulista
