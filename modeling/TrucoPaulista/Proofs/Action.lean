import TrucoPaulista.Action

namespace TrucoPaulista

section Refusals

variable {ε δ α : Type} (view : ε → δ)

@[simp] theorem mapError_ok (answer : α) :
    (Except.ok answer : Except ε α).mapError view = .ok answer := rfl

@[simp] theorem mapError_error (refusal : ε) :
    (Except.error refusal : Except ε α).mapError view = .error (view refusal) := rfl

end Refusals

namespace Action

variable {σ τ ε δ α β : Type} (s : σ)

@[simp] theorem apply_ofStep (step : σ → Except ε α × σ) : (ofStep step).apply s = step s := rfl

@[simp] theorem apply_pure (answer : α) :
    (pure answer : Action σ ε α).apply s = (.ok answer, s) := rfl

@[simp] theorem apply_ofExcept (answer : Except ε α) :
    (ofExcept answer : Action σ ε α).apply s = (answer, s) := rfl

@[simp] theorem apply_mapRefusal (view : ε → δ) (action : Action σ ε α) :
    (action.mapRefusal view).apply s = ((action.apply s).1.mapError view, (action.apply s).2) := rfl

@[simp] theorem apply_on (part : τ → σ) (replace : τ → σ → τ) (action : Action σ ε α) (t : τ) :
    (action.on part replace).apply t =
      ((action.apply (part t)).1, replace t (action.apply (part t)).2) := rfl

/-- A step goes on with the answer of another one, or ends with its refusal. -/
theorem apply_bind (action : Action σ ε α) (next : α → Action σ ε β) :
    (action >>= next).apply s =
      match action.apply s with
      | (.ok answer, s') => (next answer).apply s'
      | (.error refusal, s') => (.error refusal, s') := by
  rcases applied : action.apply s with ⟨answer, s'⟩
  unfold apply at applied ⊢
  simp only [bind, ExceptT.bind, ExceptT.mk, StateT.bind, ExceptT.bindCont, applied]
  cases answer <;> rfl

theorem apply_bind_ok {action : Action σ ε α} {next : α → Action σ ε β} {s s' : σ} {answer : α}
    (first : action.apply s = (.ok answer, s')) :
    (action >>= next).apply s = (next answer).apply s' := by
  rw [apply_bind, first]

theorem apply_bind_error {action : Action σ ε α} {next : α → Action σ ε β} {s s' : σ} {refusal : ε}
    (first : action.apply s = (.error refusal, s')) :
    (action >>= next).apply s = (.error refusal, s') := by
  rw [apply_bind, first]

/-- Whether an answer of a step and the state after it are like this, and a refusal and the state
after it like that. -/
structure Yields (action : Action σ ε α) (s : σ) (answered : α → σ → Prop)
    (refused : ε → σ → Prop) : Prop where
  answer : ∀ answer s', action.apply s = (.ok answer, s') → answered answer s'
  refusal : ∀ refusal s', action.apply s = (.error refusal, s') → refused refusal s'

section Yields

variable {s : σ} {answered answered' : α → σ → Prop} {refused refused' : ε → σ → Prop}
  {action : Action σ ε α}

theorem yields_iff_of_ok {answer : α} {s' : σ} (applied : action.apply s = (.ok answer, s')) :
    action.Yields s answered refused ↔ answered answer s' := by
  constructor
  · intro yields
    exact yields.answer answer s' applied
  · intro holds
    constructor <;> intro _ _ same <;> cases applied.symm.trans same
    exact holds

theorem yields_iff_of_error {refusal : ε} {s' : σ} (applied : action.apply s = (.error refusal, s')) :
    action.Yields s answered refused ↔ refused refusal s' := by
  constructor
  · intro yields
    exact yields.refusal refusal s' applied
  · intro holds
    constructor <;> intro _ _ same <;> cases applied.symm.trans same
    exact holds

/-- What is known of a step may be said less exactly. -/
theorem Yields.mono (yields : action.Yields s answered refused)
    (answers : ∀ answer s', answered answer s' → answered' answer s')
    (refusals : ∀ refusal s', refused refusal s' → refused' refusal s') :
    action.Yields s answered' refused' where
  answer answer s' applied := answers answer s' (yields.answer answer s' applied)
  refusal refusal s' applied := refusals refusal s' (yields.refusal refusal s' applied)

theorem Yields.apply {holds : σ → Prop}
    (yields : action.Yields s (fun _ => holds) (fun _ => holds)) : holds (action.apply s).2 := by
  rcases applied : action.apply s with ⟨answer | refusal, s'⟩
  · exact yields.refusal _ _ applied
  · exact yields.answer _ _ applied

theorem yields_of_apply (holds : σ → Prop) (after : holds (action.apply s).2) :
    action.Yields s (fun _ => holds) (fun _ => holds) := by
  constructor <;> intro _ s' applied <;> rwa [applied] at after

@[simp] theorem yields_pure {answer : α} :
    (pure answer : Action σ ε α).Yields s answered refused ↔ answered answer s :=
  yields_iff_of_ok rfl

@[simp] theorem yields_throw {refusal : ε} :
    (throw refusal : Action σ ε α).Yields s answered refused ↔ refused refusal s :=
  yields_iff_of_error rfl

@[simp] theorem yields_look {view : σ → α} :
    (look view : Action σ ε α).Yields s answered refused ↔ answered (view s) s :=
  yields_iff_of_ok rfl

@[simp] theorem yields_ofUpdate {update : σ → α × σ} :
    (ofUpdate update : Action σ ε α).Yields s answered refused ↔
      answered (update s).1 (update s).2 :=
  yields_iff_of_ok rfl

@[simp] theorem yields_bind {action : Action σ ε β} {next : β → Action σ ε α} :
    (action >>= next).Yields s answered refused ↔
      action.Yields s (fun answer s' => (next answer).Yields s' answered refused) refused := by
  rcases applied : action.apply s with ⟨refusal | answer, s'⟩
  · rw [yields_iff_of_error applied, yields_iff_of_error (apply_bind_error applied)]
  · have rest : (action >>= next).apply s = (next answer).apply s' := apply_bind_ok applied
    rw [yields_iff_of_ok applied]
    rcases next_applied : (next answer).apply s' with ⟨refusal | last, s''⟩
    · rw [yields_iff_of_error next_applied, yields_iff_of_error (rest.trans next_applied)]
    · rw [yields_iff_of_ok next_applied, yields_iff_of_ok (rest.trans next_applied)]

@[simp] theorem yields_mapRefusal {view : δ → ε} {action : Action σ δ α} :
    (action.mapRefusal view).Yields s answered refused ↔
      action.Yields s answered (fun refusal => refused (view refusal)) := by
  have mapped := apply_mapRefusal s view action
  rcases applied : action.apply s with ⟨refusal | answer, s'⟩ <;> rw [applied] at mapped
  · rw [yields_iff_of_error applied, yields_iff_of_error mapped]
  · rw [yields_iff_of_ok applied, yields_iff_of_ok mapped]

@[simp] theorem yields_on {part : σ → τ} {replace : σ → τ → σ} {action : Action τ ε α} :
    (action.on part replace).Yields s answered refused ↔
      action.Yields (part s) (fun answer t => answered answer (replace s t))
        (fun refusal t => refused refusal (replace s t)) := by
  have lifted := apply_on part replace action s
  rcases applied : action.apply (part s) with ⟨refusal | answer, t⟩ <;> rw [applied] at lifted
  · rw [yields_iff_of_error applied, yields_iff_of_error lifted]
  · rw [yields_iff_of_ok applied, yields_iff_of_ok lifted]

end Yields

end Action

end TrucoPaulista
