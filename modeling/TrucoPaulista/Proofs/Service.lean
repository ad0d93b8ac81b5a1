import TrucoPaulista.Proofs.Action
import TrucoPaulista.Proofs.Match
import TrucoPaulista.Service

namespace TrucoPaulista

namespace Request

theorem matchId_eq_ok {text : String} {matchId : MatchId} :
    Request.matchId text = .ok matchId ↔ Text.trim text = matchId ∧ matchId.isEmpty = false := by
  unfold Request.matchId
  cases empty : (Text.trim text).isEmpty with
  | true =>
    simp only [empty, if_true, reduceCtorEq, false_iff, not_and]
    rintro rfl
    simp [empty]
  | false =>
    simp only [empty, Bool.false_eq_true, if_false, Except.ok.injEq]
    constructor
    · rintro rfl
      exact ⟨rfl, empty⟩
    · exact fun same => same.1

end Request

namespace Archive

/-- The archive after some calls that did nothing. -/
def after (archive : Archive) (count : Nat) : Archive :=
  { archive with calls := archive.calls + count }

/-- The archive with a match stored under a name. -/
def put (archive : Archive) (matchId : MatchId) (m : Match) : Archive :=
  { archive with stored := archive.stored.insert matchId m.snapshot }

/-- Whether a call of the archive can fail in this way. -/
def Fails (archive : Archive) (failure : ArchiveError) : Prop :=
  ∃ number kind, archive.fault number kind = some failure

/-- The match that is stored under a name, or why there is none. -/
def lookup (archive : Archive) (matchId : MatchId) : Except Refusal Match :=
  match archive.stored.get? matchId with
  | none => .error (.matchNotFound matchId)
  | some stored => stored.restore.mapError (fun refusal => .archive (.snapshot refusal))

section Fields

variable (archive : Archive) (count : Nat) (matchId : MatchId) (m : Match)

@[simp] theorem stored_after : (archive.after count).stored = archive.stored := rfl

@[simp] theorem stored_put :
    (archive.put matchId m).stored = archive.stored.insert matchId m.snapshot := rfl

end Fields

theorem nameOf_injective : Function.Injective nameOf := by
  intro first second same
  have digits : (first.toNat.repr).toList = (second.toNat.repr).toList := by
    have texts := congrArg String.toList same
    simpa [nameOf, toString] using texts
  rw [Nat.toList_repr, Nat.toList_repr] at digits
  have numbers := congrArg (fun cs => Nat.ofDigitChars 10 cs 0) digits
  simp only [Nat.ofDigitChars_ten_toDigits] at numbers
  exact UInt64.toNat_inj.mp numbers

section Calls

variable (archive : Archive)

/-- A call of the archive fails and does nothing, or does what it is for. -/
theorem call_cases {α : Type} (kind : ArchiveCall)
    (act : Archive → Except ArchiveError α × Archive) :
    (∃ failure, archive.Fails failure ∧
      archive.call kind act = (.error failure, archive.after 1)) ∨
    archive.call kind act = act (archive.after 1) := by
  unfold call
  cases fails : archive.fault archive.calls kind with
  | none => exact Or.inr rfl
  | some failure => exact Or.inl ⟨failure, ⟨_, _, fails⟩, rfl⟩

/-- All that comes of looking for a match. -/
theorem find_cases (matchId : MatchId) :
    (∃ failure, archive.Fails failure ∧ archive.find matchId = (.error failure, archive.after 1)) ∨
    (archive.stored.get? matchId = none ∧ archive.find matchId = (.ok none, archive.after 1)) ∨
    (∃ stored, archive.stored.get? matchId = some stored ∧
      archive.find matchId =
        ((stored.restore.map some).mapError ArchiveError.snapshot, archive.after 1)) := by
  unfold find
  rcases archive.call_cases .find _ with failed | done
  · exact Or.inl failed
  · rw [done, stored_after]
    cases found : archive.stored.get? matchId with
    | none => exact Or.inr (Or.inl ⟨rfl, rfl⟩)
    | some stored =>
      refine Or.inr (Or.inr ⟨stored, rfl, ?_⟩)
      cases restored : stored.restore <;> simp only [restored] <;> rfl

theorem save_cases {matchId : MatchId} (m : Match) (present : archive.stored.contains matchId) :
    (∃ failure, archive.Fails failure ∧ archive.save matchId m = (.error failure, archive.after 1)) ∨
    archive.save matchId m = (.ok (), (archive.after 1).put matchId m) := by
  unfold save
  rcases archive.call_cases .save _ with failed | done
  · exact Or.inl failed
  · rw [done, stored_after, if_pos present]
    exact Or.inr rfl

/-- All that comes of creating a match. -/
theorem create_cases (m : Match) :
    (∃ failure, archive.Fails failure ∧ archive.create m = (.error failure, archive.after 1)) ∨
    archive.create m =
      (.ok (nameOf (archive.created + 1)),
        { (archive.after 1).put (nameOf (archive.created + 1)) m with
          created := archive.created + 1 }) := by
  unfold create
  rcases archive.call_cases .create _ with failed | done
  · exact Or.inl failed
  · rw [done]
    exact Or.inr rfl

/-- The match that a player names, and its name. -/
def named (text : String) : Except Refusal (MatchId × Match) := do
  let matchId ← Request.matchId text
  let m ← archive.lookup matchId
  return (matchId, m)

theorem named_eq_ok {archive : Archive} {text : String} {matchId : MatchId} {m : Match} :
    archive.named text = .ok (matchId, m) ↔
      Request.matchId text = .ok matchId ∧ archive.lookup matchId = .ok m := by
  unfold named
  cases Request.matchId text with
  | error refusal => simp [bind, Except.bind]
  | ok name =>
    simp only [bind, Except.bind]
    cases found : archive.lookup name with
    | error refusal =>
      simp only [reduceCtorEq, false_iff, not_and]
      intro same
      cases same
      simp [found]
    | ok stored =>
      simp only [pure, Except.pure, Except.ok.injEq, Prod.mk.injEq]
      constructor
      · rintro ⟨rfl, rfl⟩
        exact ⟨rfl, found⟩
      · rintro ⟨rfl, there⟩
        exact ⟨rfl, Except.ok.inj (found.symm.trans there)⟩

theorem contains_of_lookup {archive : Archive} {matchId : MatchId} {m : Match}
    (found : archive.lookup matchId = .ok m) : archive.stored.contains matchId := by
  unfold lookup at found
  split at found
  next => contradiction
  next present => simp [Dict.contains, present]

end Calls

end Archive

namespace Match

/-- What the call for a hand is answered that made this of the match. -/
def handStart (m : Match) (matchId : MatchId) (vira : Rank) (outcome : StartOutcome) : HandStart where
  matchId := matchId
  vira := (m.hand.map Hand.vira).getD vira
  started := outcome = .started
  awaiting := m.hand.bind Hand.awaiting

/-- What the call for a hand is answered in a match. -/
def startAnswer (m : Match) (matchId : MatchId) (vira : Rank) : Except Refusal HandStart :=
  match m.start vira with
  | (.ok outcome, m) => .ok (m.handStart matchId vira outcome)
  | (.error refusal, _) => .error (.game refusal)

/-- What a card is answered in a match. -/
def playAnswer (m : Match) (matchId : MatchId) (side : Side) (card : Card) :
    Except Refusal CardResult :=
  match m.play side card with
  | (.ok outcome, m) => .ok ⟨m.view matchId, outcome⟩
  | (.error refusal, _) => .error (.game refusal)

end Match

namespace Service

open Archive

/-- The match that is wished for. -/
def newMatch (points : Option Int64) : Except Refusal Match := do
  let points ← Request.pointsToWin points
  (Match.create points).mapError Refusal.game

section Steps

variable (archive : Archive)

/-- All that comes of loading a match. -/
theorem load_cases (matchId : MatchId) :
    (∃ failure, archive.Fails failure ∧
      (load matchId).apply archive = (.error (.archive failure), archive.after 1)) ∨
    (load matchId).apply archive = (archive.lookup matchId, archive.after 1) := by
  unfold load onArchive lookup
  rw [Action.apply_bind, Action.apply_mapRefusal, Action.apply_ofStep, repository_find]
  rcases archive.find_cases matchId with
    ⟨failure, fails, failed⟩ | ⟨missing, done⟩ | ⟨stored, found, done⟩
  · rw [failed]
    exact Or.inl ⟨failure, fails, rfl⟩
  · rw [done, missing]
    exact Or.inr rfl
  · rw [done, found]
    refine Or.inr ?_
    cases restored : stored.restore <;> simp only [restored] <;> rfl

/-- All that comes of saving a match that there is. -/
theorem save_cases {matchId : MatchId} (m : Match) (present : archive.stored.contains matchId) :
    (∃ failure, archive.Fails failure ∧
      (onArchive (fun archive => Repository.save archive matchId m)).apply archive =
        (.error (.archive failure), archive.after 1)) ∨
    (onArchive (fun archive => Repository.save archive matchId m)).apply archive =
      (.ok (), (archive.after 1).put matchId m) := by
  unfold onArchive
  rw [Action.apply_mapRefusal, Action.apply_ofStep, repository_save]
  rcases archive.save_cases m present with ⟨failure, fails, failed⟩ | saved
  · rw [failed]
    exact Or.inl ⟨failure, fails, rfl⟩
  · rw [saved]
    exact Or.inr rfl

/-- What a step does that begins with the match that a player names. -/
theorem named_cases {α : Type} (text : String) (next : MatchId → Match → Step α) :
    let step : Step α := do
      let matchId ← Action.ofExcept (Request.matchId text)
      let m ← load matchId
      next matchId m
    (∃ failure, archive.Fails failure ∧
      step.apply archive = (.error (.archive failure), archive.after 1)) ∨
    (∃ refusal count, archive.named text = .error refusal ∧
      step.apply archive = (.error refusal, archive.after count)) ∨
    (∃ matchId m, archive.named text = .ok (matchId, m) ∧
      step.apply archive = (next matchId m).apply (archive.after 1)) := by
  dsimp only
  rw [Action.apply_bind, Action.apply_ofExcept]
  unfold named
  cases Request.matchId text with
  | error refusal => exact Or.inr (Or.inl ⟨refusal, 0, rfl, rfl⟩)
  | ok matchId =>
    dsimp only
    rcases load_cases archive matchId with ⟨failure, fails, failed⟩ | loaded
    · rw [Action.apply_bind_error failed]
      exact Or.inl ⟨failure, fails, rfl⟩
    · refine Or.inr ?_
      simp only [bind, Except.bind]
      cases found : archive.lookup matchId with
      | error refusal =>
        rw [found] at loaded
        exact Or.inl ⟨refusal, 1, rfl, Action.apply_bind_error loaded⟩
      | ok m =>
        rw [found] at loaded
        exact Or.inr ⟨matchId, m, rfl, Action.apply_bind_ok loaded⟩

/-- All that comes of starting a hand: a failure, a match that is not found, a refusal of the match, or
a start, which is stored if it is a new one. -/
theorem startHand_cases (text : String) (vira : Rank) :
    (∃ failure count, archive.Fails failure ∧
      (startHand text vira).apply archive = (.error (.archive failure), archive.after count)) ∨
    (∃ refusal count, archive.named text = .error refusal ∧
      (startHand text vira).apply archive = (.error refusal, archive.after count)) ∨
    (∃ matchId m refusal count, archive.named text = .ok (matchId, m) ∧
      m.start vira = (.error refusal, m) ∧
      (startHand text vira).apply archive = (.error (.game refusal), archive.after count)) ∨
    (∃ matchId m m' outcome, archive.named text = .ok (matchId, m) ∧
      m.start vira = (.ok outcome, m') ∧
      (startHand text vira).apply archive =
        (.ok (m'.handStart matchId vira outcome),
          if outcome = .started then (archive.after 2).put matchId m' else archive.after 1)) := by
  unfold startHand
  rcases named_cases archive text _ with ⟨failure, fails, failed⟩ | refused | ⟨matchId, m, found, done⟩
  · exact Or.inl ⟨failure, 1, fails, failed⟩
  · exact Or.inr (Or.inl refused)
  · rw [done]
    have present := contains_of_lookup (named_eq_ok.mp found).2
    rcases m.start_cases vira with ⟨_, ended⟩ | ⟨_, going⟩ | ⟨_, begun⟩
    · exact Or.inr (Or.inr (Or.inl ⟨matchId, m, .matchFinished, 1, found, ended, by rw [ended]; rfl⟩))
    · exact Or.inr (Or.inr (Or.inr ⟨matchId, m, m, _, found, going, by rw [going]; rfl⟩))
    · have there : (archive.after 1).stored.contains matchId := present
      rw [begun]
      rcases save_cases (archive.after 1) { m with hand := some (.start vira), state := .inProgress }
        there with ⟨failure, fails, failed⟩ | saved
      · refine Or.inl ⟨failure, 2, fails, ?_⟩
        exact (Action.apply_bind_ok rfl).trans (Action.apply_bind_error failed)
      · refine Or.inr (Or.inr (Or.inr ⟨matchId, m, _, _, found, begun, ?_⟩))
        exact (Action.apply_bind_ok rfl).trans (Action.apply_bind_ok saved)

/-- All that comes of playing a card: a failure, a match that is not found, a refusal of the match, or a
play, which is stored. -/
theorem playCard_cases (text : String) (side : Side) (card : Card) :
    (∃ failure count, archive.Fails failure ∧
      (playCard text side card).apply archive = (.error (.archive failure), archive.after count)) ∨
    (∃ refusal count, archive.named text = .error refusal ∧
      (playCard text side card).apply archive = (.error refusal, archive.after count)) ∨
    (∃ matchId m refusal count, archive.named text = .ok (matchId, m) ∧
      (m.play side card).1 = .error refusal ∧
      (playCard text side card).apply archive = (.error (.game refusal), archive.after count)) ∨
    (∃ matchId m m' outcome, archive.named text = .ok (matchId, m) ∧
      m.play side card = (.ok outcome, m') ∧
      (playCard text side card).apply archive =
        (.ok ⟨m'.view matchId, outcome⟩, (archive.after 2).put matchId m')) := by
  unfold playCard
  rcases named_cases archive text _ with ⟨failure, fails, failed⟩ | refused | ⟨matchId, m, found, done⟩
  · exact Or.inl ⟨failure, 1, fails, failed⟩
  · exact Or.inr (Or.inl refused)
  · rw [done]
    rcases played : m.play side card with ⟨answer, m'⟩
    cases answer with
    | error refusal =>
      exact Or.inr (Or.inr (Or.inl ⟨matchId, m, refusal, 1, found, by rw [played], rfl⟩))
    | ok outcome =>
      have there : (archive.after 1).stored.contains matchId :=
        contains_of_lookup (named_eq_ok.mp found).2
      rcases save_cases (archive.after 1) m' there with ⟨failure, fails, failed⟩ | saved
      · refine Or.inl ⟨failure, 2, fails, ?_⟩
        exact (Action.apply_bind_ok rfl).trans (Action.apply_bind_error failed)
      · refine Or.inr (Or.inr (Or.inr ⟨matchId, m, m', outcome, found, played, ?_⟩))
        exact (Action.apply_bind_ok rfl).trans (Action.apply_bind_ok saved)

/-- All that comes of viewing a match. -/
theorem viewState_cases (text : String) :
    (∃ failure, archive.Fails failure ∧
      (viewState text).apply archive = (.error (.archive failure), archive.after 1)) ∨
    (∃ refusal count, archive.named text = .error refusal ∧
      (viewState text).apply archive = (.error refusal, archive.after count)) ∨
    (∃ matchId m, archive.named text = .ok (matchId, m) ∧
      (viewState text).apply archive = (.ok (m.view matchId), archive.after 1)) :=
  named_cases archive text (fun matchId m => pure (m.view matchId))

/-- All that comes of asking whether there is a match. -/
theorem doesExist_cases (text : String) :
    (∃ failure, archive.Fails failure ∧
      (doesExist text).apply archive = (.error (.archive failure), archive.after 1)) ∨
    (∃ refusal, Request.matchId text = .error refusal ∧
      (doesExist text).apply archive = (.error refusal, archive)) ∨
    (∃ matchId failure, Request.matchId text = .ok matchId ∧
      archive.lookup matchId = .error (.archive failure) ∧
      (doesExist text).apply archive = (.error (.archive failure), archive.after 1)) ∨
    (∃ matchId, Request.matchId text = .ok matchId ∧
      (doesExist text).apply archive =
        (.ok (archive.stored.contains matchId), archive.after 1)) := by
  unfold doesExist onArchive
  rw [Action.apply_bind, Action.apply_ofExcept]
  cases Request.matchId text with
  | error refusal => exact Or.inr (Or.inl ⟨refusal, rfl, rfl⟩)
  | ok matchId =>
    dsimp only
    rw [Action.apply_bind, Action.apply_mapRefusal, Action.apply_ofStep, repository_find]
    rcases archive.find_cases matchId with
      ⟨failure, fails, failed⟩ | ⟨missing, done⟩ | ⟨stored, found, done⟩
    · rw [failed]
      exact Or.inl ⟨failure, fails, rfl⟩
    · rw [done]
      refine Or.inr (Or.inr (Or.inr ⟨matchId, rfl, ?_⟩))
      simp [Dict.contains, missing]
    · rw [done]
      refine Or.inr (Or.inr ?_)
      cases restored : stored.restore with
      | error refusal =>
        refine Or.inl ⟨matchId, .snapshot refusal, rfl, ?_, rfl⟩
        simp [lookup, found, restored]
      | ok m =>
        refine Or.inr ⟨matchId, rfl, ?_⟩
        simp [Except.map, Dict.contains, found]

/-- All that comes of a request for a new match. -/
theorem createMatch_cases (points : Option Int64) :
    (∃ failure, archive.Fails failure ∧
      (createMatch points).apply archive = (.error (.archive failure), archive.after 1)) ∨
    (∃ refusal, newMatch points = .error refusal ∧
      (createMatch points).apply archive = (.error refusal, archive)) ∨
    (∃ m, newMatch points = .ok m ∧
      (createMatch points).apply archive =
        (.ok (nameOf (archive.created + 1)),
          { (archive.after 1).put (nameOf (archive.created + 1)) m with
            created := archive.created + 1 })) := by
  unfold createMatch newMatch ofRules
  rw [Action.apply_bind, Action.apply_ofExcept]
  cases Request.pointsToWin points with
  | error refusal => exact Or.inr (Or.inl ⟨refusal, rfl, rfl⟩)
  | ok count =>
    dsimp only [bind, Except.bind]
    cases Match.create count with
    | error refusal => exact Or.inr (Or.inl ⟨.game refusal, rfl, rfl⟩)
    | ok m =>
      refine (archive.create_cases m).imp ?_ ?_
      · rintro ⟨failure, fails, failed⟩
        refine ⟨failure, fails, (Action.apply_bind_ok rfl).trans ?_⟩
        simp [onArchive, failed]
      · intro done
        refine Or.inr ⟨m, rfl, (Action.apply_bind_ok rfl).trans ?_⟩
        simp [onArchive, done]

end Steps

end Service

end TrucoPaulista
