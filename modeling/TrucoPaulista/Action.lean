namespace TrucoPaulista

/-- A step on a state: it gives an answer or is refused, and leaves a state in both cases. -/
abbrev Action (σ ε α : Type) := ExceptT ε (StateM σ) α

namespace Action

variable {σ τ ε δ α : Type}

/-- A step from the function that makes it. -/
def ofStep (step : σ → Except ε α × σ) : Action σ ε α := step

/-- A step of which the answer is never a refusal. -/
def ofUpdate (update : σ → α × σ) : Action σ ε α :=
  ofStep (fun s => let (answer, s) := update s; (.ok answer, s))

/-- The answer of a step, and the state that it leaves. -/
def apply (action : Action σ ε α) (s : σ) : Except ε α × σ := action s

/-- An answer that does not hang on the state. -/
def ofExcept (answer : Except ε α) : Action σ ε α := ofStep (fun s => (answer, s))

/-- The same step with its refusals seen as others. -/
def mapRefusal (view : ε → δ) (action : Action σ ε α) : Action σ δ α :=
  ofStep (fun s => let (answer, s) := action.apply s; (answer.mapError view, s))

/-- A step on a part of a state. -/
def on (part : τ → σ) (replace : τ → σ → τ) (action : Action σ ε α) : Action τ ε α :=
  ofStep (fun t => let (answer, s) := action.apply (part t); (answer, replace t s))

/-- Looks at the state. -/
def look (view : σ → α) : Action σ ε α := ofStep (fun s => (.ok (view s), s))

end Action

end TrucoPaulista
