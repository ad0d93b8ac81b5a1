import TrucoPaulista.Dict

namespace TrucoPaulista

variable {κ : Type} {α : Type} [DecidableEq κ] [LT κ] [LE κ] [Std.LawfulOrderLT κ]

theorem lookupEntry_of_mem {key : κ} {value : α} {entries : List (κ × α)}
    (ordered : Ordered entries) (member : (key, value) ∈ entries) :
    lookupEntry key entries = some value := by
  induction entries with
  | nil => simp at member
  | cons head rest ih =>
    obtain ⟨first, others⟩ := List.pairwise_cons.mp ordered
    rcases List.mem_cons.mp member with rfl | inside
    · simp [lookupEntry]
    · have apart : key ≠ head.1 := by
        intro same
        exact Std.lt_irrefl (same ▸ first _ inside)
      simpa [lookupEntry, apart] using ih others inside

namespace Dict

variable {d : Dict κ α} {key : κ} {value : α}

theorem mem_entries : (key, value) ∈ d.entries ↔ d.get? key = some value :=
  ⟨lookupEntry_of_mem d.ordered, mem_of_lookupEntry⟩

theorem mem_values : value ∈ d.values ↔ ∃ key, d.get? key = some value := by
  unfold values
  rw [List.mem_map]
  constructor
  · rintro ⟨⟨key, _⟩, member, rfl⟩
    exact ⟨key, mem_entries.mp member⟩
  · rintro ⟨key, found⟩
    exact ⟨(key, value), mem_entries.mpr found, rfl⟩

omit [DecidableEq κ] in
theorem nodup_keys (d : Dict κ α) : d.keys.Nodup := by
  have ordered : d.keys.Pairwise (· < ·) := List.pairwise_map.mpr d.ordered
  refine ordered.imp ?_
  intro first second less same
  exact Std.lt_irrefl (same ▸ less)

theorem get?_filter_eq_some {keep : κ → α → Bool} :
    (d.filter keep).get? key = some value ↔ d.get? key = some value ∧ keep key value := by
  rw [← mem_entries, ← mem_entries]
  simp [filter]

section Extensional

variable [Std.IsLinearOrder κ]

/-- Two maps that have the same keys have the same number of them. -/
theorem size_eq_of_contains {β : Type} {e : Dict κ β} (same : ∀ key, d.contains key = e.contains key) :
    d.size = e.size := by
  have keys : ∀ (γ : Type) (f : Dict κ γ) (key : κ),
      lookupEntry key (f.entries.map (fun entry => (entry.1, ()))) =
        if f.contains key then some () else none := by
    intro γ f key
    unfold contains get?
    induction f.entries with
    | nil => rfl
    | cons head rest ih => by_cases hit : key = head.1 <;> simp [lookupEntry, hit, ih]
  have ordered : ∀ (γ : Type) (f : Dict κ γ),
      Ordered (f.entries.map (fun entry => (entry.1, ()))) :=
    fun γ f => List.pairwise_map.mpr f.ordered
  have equal := eq_of_lookupEntry (ordered α d) (ordered β e) (fun key => by simp only [keys, same])
  simpa [size] using congrArg List.length equal

theorem insert_self [DecidableLT κ] (found : d.get? key = some value) : d.insert key value = d := by
  apply ext_get?
  intro query
  by_cases same : query = key <;> simp [same, found]

theorem insert_insert [DecidableLT κ] (old : α) :
    (d.insert key old).insert key value = d.insert key value := by
  apply ext_get?
  intro query
  by_cases same : query = key <;> simp [same]

end Extensional

end Dict

end TrucoPaulista
