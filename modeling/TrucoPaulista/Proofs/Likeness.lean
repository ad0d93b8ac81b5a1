import TrucoPaulista.Proofs.Action
import TrucoPaulista.Service
import TrucoPaulista.Web.Status

namespace TrucoPaulista

/-- What stands on a repository, in the place of which another one may be put, of another kind too. -/
class HasRepository (F : Type → Type) where
  archive {ρ : Type} : F ρ → ρ
  upon {ρ ρ' : Type} : F ρ → ρ' → F ρ'
  archive_upon : ∀ {ρ ρ' : Type} (t : F ρ) (a : ρ'), archive (upon t a) = a
  upon_archive : ∀ {ρ : Type} (t : F ρ), upon t (archive t) = t

open HasRepository

/-- Whether a step, which there is over every repository, takes no notice of it. -/
def Blind {F : Type → Type} [HasRepository F] {β : Type}
    (step : ∀ (ρ : Type) [Repository ρ], F ρ → β × F ρ) : Prop :=
  ∀ (ρ ρ' : Type) [Repository ρ] [Repository ρ'] (t : F ρ) (a : ρ'),
    step ρ' (upon t a) = ((step ρ t).1, upon (step ρ t).2 a)

theorem Blind.archive {F : Type → Type} [HasRepository F] {β ρ : Type} [Repository ρ]
    {step : ∀ (ρ : Type) [Repository ρ], F ρ → β × F ρ} (blind : Blind step) (t : F ρ) :
    archive (step ρ t).2 = archive t := by
  have same := congrArg Prod.snd (blind ρ ρ t (HasRepository.archive t))
  rw [upon_archive] at same
  rw [same, archive_upon]

/-- What a client is told of a refusal: the words, and the status of a response. -/
structure Notice where
  message : String
  status : Nat
  deriving DecidableEq

def Refusal.notice (refusal : Refusal) : Notice := ⟨refusal.clientMessage, refusal.status⟩

/-- When two runs, each over a repository of its own kind, count as the same: which repositories may stand
for each other, which of their failures are told alike, and which failures of the first one put an end to
the comparison. -/
structure Likeness (ρ ρ' : Type) where
  alike : ρ → ρ' → Prop
  told : ArchiveError → ArchiveError → Prop
  ends : ArchiveError → Prop

namespace Likeness

/-- Whether two calls of repositories come to the same, but for a failure, or the first one to a failure
that ends the comparison. -/
inductive Answers {ρ ρ' : Type} (like : Likeness ρ ρ') {α : Type} :
    Except ArchiveError α × ρ → Except ArchiveError α × ρ' → Prop where
  | answered {r : ρ} {r' : ρ'} (answer : α) (after : like.alike r r') :
      Answers like (.ok answer, r) (.ok answer, r')
  | failed {r : ρ} {r' : ρ'} {failure failure' : ArchiveError} (told : like.told failure failure')
      (after : like.alike r r') : Answers like (.error failure, r) (.error failure', r')
  | ended {r : ρ} {failure : ArchiveError} {second : Except ArchiveError α × ρ'}
      (ends : like.ends failure) : Answers like (.error failure, r) second

/-- Whether repositories that stand for each other still do so after every call, which comes to the same. -/
structure Kept {ρ ρ' : Type} [Repository ρ] [Repository ρ'] (like : Likeness ρ ρ') : Prop where
  create : ∀ r r', like.alike r r' → ∀ m, like.Answers (Repository.create r m) (Repository.create r' m)
  find : ∀ r r', like.alike r r' → ∀ matchId,
    like.Answers (Repository.find r matchId) (Repository.find r' matchId)
  save : ∀ r r', like.alike r r' → ∀ matchId m,
    like.Answers (Repository.save r matchId m) (Repository.save r' matchId m)

/-- Whether moreover what counts as the same shows to no client: failures that are told alike are told in
the same words and with the same status. -/
structure Discreet {ρ ρ' : Type} [Repository ρ] [Repository ρ'] (like : Likeness ρ ρ') : Prop
    extends Kept like where
  notice : ∀ failure failure', like.told failure failure' →
    (Refusal.archive failure).notice = (Refusal.archive failure').notice

section Relations

variable {ρ ρ' τ τ' α β : Type} (like : Likeness ρ ρ')

/-- Whether two refusals are the same, but for a failure of the repository. -/
inductive Refusals : Refusal → Refusal → Prop where
  | same (refusal : Refusal) : Refusals refusal refusal
  | archive {failure failure' : ArchiveError} (told : like.told failure failure') :
      Refusals (.archive failure) (.archive failure')

/-- Whether two steps come to the same, or the first one to a failure that ends the comparison. -/
inductive Outcomes (same : τ → τ' → Prop) :
    Except Refusal α × τ → Except Refusal α × τ' → Prop where
  | answered {t : τ} {t' : τ'} (answer : α) (after : same t t') :
      Outcomes same (.ok answer, t) (.ok answer, t')
  | refused {refusal refusal' : Refusal} {t : τ} {t' : τ'} (told : like.Refusals refusal refusal')
      (after : same t t') : Outcomes same (.error refusal, t) (.error refusal', t')
  | ended {failure : ArchiveError} {t : τ} {outcome : Except Refusal α × τ'}
      (ends : like.ends failure) : Outcomes same (.error (.archive failure), t) outcome

/-- Whether two steps come to the same from states that are the same. -/
def Steps (same : τ → τ' → Prop) (action : Action τ Refusal α) (action' : Action τ' Refusal α) : Prop :=
  ∀ t t', same t t' → like.Outcomes same (action.apply t) (action'.apply t')

/-- Whether two states are the same, but for repositories that stand for each other. -/
def States {F : Type → Type} [HasRepository F] (t : F ρ) (t' : F ρ') : Prop :=
  ∃ archive', like.alike (archive t) archive' ∧ t' = upon t archive'

variable {like}

section Steps

variable {same : τ → τ' → Prop}

theorem steps_ofExcept (answer : Except Refusal α) :
    like.Steps same (Action.ofExcept answer) (Action.ofExcept answer) := by
  intro t t' states
  cases answer with
  | ok answer => exact .answered answer states
  | error refusal => exact .refused (.same refusal) states

theorem steps_pure (answer : α) :
    like.Steps same (pure answer : Action τ Refusal α) (pure answer : Action τ' Refusal α) :=
  steps_ofExcept (.ok answer)

theorem steps_throw (refusal : Refusal) :
    like.Steps same (throw refusal : Action τ Refusal α) (throw refusal : Action τ' Refusal α) :=
  steps_ofExcept (.error refusal)

/-- Steps come to the same one after the other. -/
theorem Steps.bind {action : Action τ Refusal α} {action' : Action τ' Refusal α}
    {next : α → Action τ Refusal β} {next' : α → Action τ' Refusal β}
    (first : like.Steps same action action')
    (later : ∀ answer, like.Steps same (next answer) (next' answer)) :
    like.Steps same (action >>= next) (action' >>= next') := by
  intro t t' states
  have outcomes := first t t' states
  rw [Action.apply_bind, Action.apply_bind]
  revert outcomes
  generalize action.apply t = outcome, action'.apply t' = outcome'
  rintro (⟨answer, after⟩ | ⟨told, after⟩ | ends)
  · exact later answer _ _ after
  · exact .refused told after
  · exact .ended ends

/-- What comes of a part comes of the whole. -/
theorem Outcomes.within {σ σ' : Type} {part : σ → σ' → Prop} {first : Except Refusal α × σ}
    {second : Except Refusal α × σ'} (outcomes : like.Outcomes part first second) (place : σ → τ)
    (place' : σ' → τ') (places : ∀ s s', part s s' → same (place s) (place' s')) :
    like.Outcomes same (first.1, place first.2) (second.1, place' second.2) := by
  cases outcomes with
  | answered answer after => exact .answered answer (places _ _ after)
  | refused told after => exact .refused told (places _ _ after)
  | ended ends => exact .ended ends

end Steps

section States

variable {F : Type → Type} [HasRepository F]

theorem steps_look {view : F ρ → α} {view' : F ρ' → α}
    (blind : ∀ t (a : ρ'), view' (upon t a) = view t) :
    like.Steps like.States (Action.look view) (Action.look view') := by
  rintro t _ ⟨archive', alike, rfl⟩
  unfold Action.look
  rw [Action.apply_ofStep, Action.apply_ofStep, blind]
  exact .answered _ ⟨archive', alike, rfl⟩

variable [Repository ρ] [Repository ρ']

theorem states_blind {step : ∀ (ρ : Type) [Repository ρ], F ρ → β × F ρ} (blind : Blind step) {t : F ρ}
    {t' : F ρ'} (states : like.States t t') :
    (step ρ t).1 = (step ρ' t').1 ∧ like.States (step ρ t).2 (step ρ' t').2 := by
  obtain ⟨archive', alike, rfl⟩ := states
  rw [blind ρ ρ']
  refine ⟨rfl, archive', ?_, rfl⟩
  rwa [blind.archive]

/-- An update that does not look at the repository leaves states the same but for their repositories. -/
theorem states_update (update : ∀ (ρ : Type) [Repository ρ], F ρ → F ρ)
    (blind : ∀ (ρ ρ' : Type) [Repository ρ] [Repository ρ'] (t : F ρ) (a : ρ'),
      update ρ' (upon t a) = upon (update ρ t) a) {t : F ρ} {t' : F ρ'} (states : like.States t t') :
    like.States (update ρ t) (update ρ' t') := by
  have silent : Blind (fun ρ [Repository ρ] (t : F ρ) => ((), update ρ t)) :=
    fun ρ ρ' _ _ t a => congrArg (Prod.mk ()) (blind ρ ρ' t a)
  exact (states_blind silent states).2

theorem steps_of_blind (action : ∀ (ρ : Type) [Repository ρ], Action (F ρ) Refusal α)
    (blind : Blind (fun ρ [Repository ρ] => (action ρ).apply)) :
    like.Steps like.States (action ρ) (action ρ') := by
  intro t t' states
  obtain ⟨same, after⟩ := states_blind blind states
  revert same after
  rcases (action ρ).apply t with ⟨refusal | answer, s⟩ <;> rcases (action ρ').apply t' with ⟨_, s'⟩ <;>
    rintro rfl after
  · exact .refused (.same refusal) after
  · exact .answered answer after

end States

end Relations

/-- A call of the service comes to what the call of the repository comes to. -/
theorem steps_onArchive {ρ ρ' α : Type} {like : Likeness ρ ρ'}
    {call : ρ → Except ArchiveError α × ρ} {call' : ρ' → Except ArchiveError α × ρ'}
    (answers : ∀ r r', like.alike r r' → like.Answers (call r) (call' r')) :
    like.Steps like.alike (Service.onArchive call) (Service.onArchive call') := by
  intro r r' alike
  have called := answers r r' alike
  simp only [Service.onArchive, Action.apply_mapRefusal, Action.apply_ofStep]
  revert called
  generalize call r = outcome, call' r' = outcome'
  rintro (⟨answer, after⟩ | ⟨told, after⟩ | ends)
  · exact .answered answer after
  · exact .refused (.archive told) after
  · exact .ended ends

end Likeness

namespace Service

open Likeness

variable {ρ ρ' : Type} [Repository ρ] [Repository ρ'] {like : Likeness ρ ρ'} (discreet : like.Discreet)

include discreet

theorem steps_find (matchId : MatchId) : like.Steps like.alike
    (onArchive (fun archive => Repository.find archive matchId))
    (onArchive (fun archive => Repository.find archive matchId)) :=
  steps_onArchive fun r r' alike => discreet.find r r' alike matchId

theorem steps_save (matchId : MatchId) (m : Match) : like.Steps like.alike
    (onArchive (fun archive => Repository.save archive matchId m))
    (onArchive (fun archive => Repository.save archive matchId m)) :=
  steps_onArchive fun r r' alike => discreet.save r r' alike matchId m

theorem steps_load (matchId : MatchId) : like.Steps like.alike (load matchId) (load matchId) := by
  refine (steps_find discreet matchId).bind fun found => ?_
  cases found with
  | some m => exact steps_pure m
  | none => exact steps_throw _

theorem steps_doesExist (text : String) : like.Steps like.alike (doesExist text) (doesExist text) :=
  (steps_ofExcept _).bind fun matchId => (steps_find discreet matchId).bind fun found =>
    steps_pure found.isSome

theorem steps_createMatch (points : Option Int64) :
    like.Steps like.alike (createMatch points) (createMatch points) :=
  (steps_ofExcept _).bind fun _ => (steps_ofExcept _).bind fun m =>
    steps_onArchive fun r r' alike => discreet.create r r' alike m

theorem steps_startHand (text : String) (vira : Rank) :
    like.Steps like.alike (startHand text vira) (startHand text vira) := by
  refine (steps_ofExcept _).bind fun matchId => (steps_load discreet matchId).bind fun m => ?_
  rcases m.start vira with ⟨answer, m'⟩
  refine (steps_ofExcept _).bind fun outcome => ?_
  dsimp only
  split
  next => exact (steps_save discreet matchId m').bind fun _ => steps_pure _
  next => exact steps_pure _

theorem steps_playCard (text : String) (side : Side) (card : Card) :
    like.Steps like.alike (playCard text side card) (playCard text side card) := by
  refine (steps_ofExcept _).bind fun matchId => (steps_load discreet matchId).bind fun m => ?_
  rcases m.play side card with ⟨answer, m'⟩
  exact (steps_ofExcept _).bind fun outcome => (steps_save discreet matchId m').bind fun _ =>
    steps_pure _

theorem steps_viewState (text : String) : like.Steps like.alike (viewState text) (viewState text) :=
  (steps_ofExcept _).bind fun matchId => (steps_load discreet matchId).bind fun _ => steps_pure _

end Service

end TrucoPaulista
