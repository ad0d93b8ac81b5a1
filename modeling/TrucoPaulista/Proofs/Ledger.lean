import TrucoPaulista.Proofs.Dict
import TrucoPaulista.Proofs.Restore
import TrucoPaulista.Proofs.Service

namespace TrucoPaulista

namespace Service

/-- A call of the service, by the kind of its answer. -/
inductive Call : Type → Type where
  | createMatch (points : Option Int64) : Call MatchId
  | startHand (text : String) (vira : Rank) : Call HandStart
  | playCard (text : String) (side : Side) (card : Card) : Call CardResult
  | viewState (text : String) : Call MatchView
  | doesExist (text : String) : Call Bool

namespace Call

/-- What a call does. -/
def step {α ρ : Type} [Repository ρ] : Call α → Action ρ Refusal α
  | createMatch points => Service.createMatch points
  | startHand text vira => Service.startHand text vira
  | playCard text side card => Service.playCard text side card
  | viewState text => Service.viewState text
  | doesExist text => Service.doesExist text

/-- The match that a call is about: the one that is named, or the one that was created. -/
def subject {α : Type} : Call α → Except Refusal α → Option MatchId
  | createMatch _, answer => answer.toOption
  | startHand text _, _ | playCard text _ _, _ | viewState text, _ | doesExist text, _ =>
    some (Text.trim text)

end Call

end Service

open Service (Call)

/-- Matches under their names, kept as they are. -/
abbrev Ledger := Dict MatchId Match

namespace Ledger

/-- The match under a name, or why there is none. -/
def lookup (ledger : Ledger) (matchId : MatchId) : Except Refusal Match :=
  match ledger.get? matchId with
  | some m => .ok m
  | none => .error (.matchNotFound matchId)

/-- The match that a player names, and its name. -/
def named (ledger : Ledger) (text : String) : Except Refusal (MatchId × Match) := do
  let matchId ← Request.matchId text
  let m ← ledger.lookup matchId
  return (matchId, m)

/-- What a call is answered from the matches themselves, where the next new match gets a name. -/
def answer (ledger : Ledger) (fresh : MatchId) {α : Type} : Call α → Except Refusal α
  | .createMatch points => do
    let _ ← Service.newMatch points
    return fresh
  | .startHand text vira => do
    let (matchId, m) ← ledger.named text
    m.startAnswer matchId vira
  | .playCard text side card => do
    let (matchId, m) ← ledger.named text
    m.playAnswer matchId side card
  | .viewState text => do
    let (matchId, m) ← ledger.named text
    return m.view matchId
  | .doesExist text => do
    let matchId ← Request.matchId text
    return ledger.contains matchId

/-- What a call that was answered makes of the matches themselves. -/
def follow (ledger : Ledger) {α : Type} : Call α → α → Ledger
  | .createMatch points, matchId =>
    match Service.newMatch points with
    | .ok m => ledger.insert matchId m
    | .error _ => ledger
  | .startHand text vira, _ => ledger.modify (Text.trim text) (fun m => (m.start vira).2)
  | .playCard text side card, _ => ledger.modify (Text.trim text) (fun m => (m.play side card).2)
  | .viewState _, _ | .doesExist _, _ => ledger

/-- The matches themselves after a call, which counts only when it was answered. -/
def next (ledger : Ledger) {α : Type} (call : Call α) : Except Refusal α → Ledger
  | .ok answer => ledger.follow call answer
  | .error _ => ledger

/-- An archive holds the stored forms of the matches of a ledger. -/
structure Tracks (archive : Archive) (ledger : Ledger) : Prop where
  stored : ∀ matchId, archive.stored.get? matchId = (ledger.get? matchId).map Match.snapshot
  sound : ∀ matchId m, ledger.get? matchId = some m → m.Sound

namespace Tracks

variable {archive : Archive} {ledger : Ledger}

theorem after (tracks : Tracks archive ledger) (count : Nat) :
    Tracks (archive.after count) ledger := ⟨tracks.stored, tracks.sound⟩

/-- What is loaded from the archive are the matches themselves. -/
theorem lookup_eq (tracks : Tracks archive ledger) (matchId : MatchId) :
    archive.lookup matchId = ledger.lookup matchId := by
  unfold Archive.lookup Ledger.lookup
  rw [tracks.stored]
  cases found : ledger.get? matchId with
  | none => rfl
  | some m =>
    have restored := (tracks.sound matchId m found).restore_snapshot
    simp [restored]

theorem named_eq (tracks : Tracks archive ledger) (text : String) :
    archive.named text = ledger.named text := by
  unfold Archive.named Ledger.named
  simp only [tracks.lookup_eq]

theorem contains_eq (tracks : Tracks archive ledger) (matchId : MatchId) :
    archive.stored.contains matchId = ledger.contains matchId := by
  simp [Dict.contains, tracks.stored]

theorem insert (tracks : Tracks archive ledger) (matchId : MatchId) {m : Match} (sound : m.Sound) :
    Tracks (archive.put matchId m) (Dict.insert ledger matchId m) := by
  constructor
  · intro query
    by_cases same : query = matchId <;> simp [same, tracks.stored]
  · intro query m' found
    by_cases same : query = matchId
    · simp only [same, Dict.get?_insert, if_true, Option.some.injEq] at found
      exact found ▸ sound
    · simp only [Dict.get?_insert, if_neg same] at found
      exact tracks.sound query m' found

theorem modify_eq_insert {matchId : MatchId} {m : Match} (change : Match → Match)
    (found : ledger.get? matchId = some m) :
    Dict.modify ledger matchId change = Dict.insert ledger matchId (change m) := by
  simp [Dict.modify, found]

/-- A match that is named from the archive is in the ledger, under the same name. -/
theorem get?_of_named {text : String} {matchId : MatchId} {m : Match}
    (tracks : Tracks archive ledger) (named : archive.named text = .ok (matchId, m)) :
    Text.trim text = matchId ∧ archive.stored.contains matchId ∧
      ledger.get? matchId = some m ∧ m.Sound := by
  obtain ⟨name, found⟩ := Archive.named_eq_ok.mp named
  have present := Archive.contains_of_lookup found
  rw [tracks.lookup_eq, Ledger.lookup] at found
  split at found
  next there =>
    cases found
    exact ⟨(Request.matchId_eq_ok.mp name).1, present, there, tracks.sound _ _ there⟩
  next => contradiction

end Tracks

/-- Whether an archive has the matches of another, and at most one more, which is numbered next. -/
def Grows (archive archive' : Archive) : Prop :=
  (archive'.created = archive.created ∧
    ∀ matchId, archive'.stored.contains matchId = archive.stored.contains matchId) ∨
  (archive'.created = archive.created + 1 ∧
    ∀ matchId, archive'.stored.contains matchId =
      (matchId == Archive.nameOf (archive.created + 1) || archive.stored.contains matchId))

/-- What a call on an archive is beside the matches of a ledger: the ledger follows it, it is
answered from the matches themselves or a call of the archive fails, a refusal stores nothing, at
most its subject changes, and no match is lost. -/
structure Mirrors (archive : Archive) (ledger : Ledger) {α : Type} (call : Call α)
    (answer : Except Refusal α) (archive' : Archive) : Prop where
  tracks : Tracks archive' (ledger.next call answer)
  answered : answer = ledger.answer (Archive.nameOf (archive.created + 1)) call ∨
    ∃ failure, archive.Fails failure ∧ answer = .error (.archive failure)
  refused : ∀ refusal, answer = .error refusal → archive'.stored = archive.stored
  frame : ∀ matchId, call.subject answer ≠ some matchId →
    archive'.stored.get? matchId = archive.stored.get? matchId
  grows : Grows archive archive'

theorem grows_after (archive : Archive) (count : Nat) : Grows archive (archive.after count) :=
  Or.inl ⟨rfl, fun _ => rfl⟩

theorem grows_put (archive : Archive) (count : Nat) {matchId : MatchId} (m : Match)
    (present : archive.stored.contains matchId) :
    Grows archive ((archive.after count).put matchId m) := by
  refine Or.inl ⟨rfl, ?_⟩
  intro query
  unfold Dict.contains at present ⊢
  by_cases same : query = matchId <;> simp [same, present]

theorem grows_createMatch (archive : Archive) (points : Option Int64) :
    Grows archive ((Service.createMatch points).apply archive).2 := by
  rcases Service.createMatch_cases archive points with ⟨_, _, done⟩ | ⟨_, _, done⟩ | ⟨m, _, done⟩ <;>
    rw [done]
  · exact grows_after archive 1
  · exact grows_after archive 0
  · refine Or.inr ⟨rfl, ?_⟩
    intro query
    by_cases same : query = Archive.nameOf (archive.created + 1) <;> simp [Dict.contains, same]

section Steps

variable {archive : Archive} {ledger : Ledger} {α : Type} {call : Call α}

/-- A call that stores nothing is mirrored if it is refused for what the ledger says, or for a
failure. -/
theorem Tracks.mirrors_of_refused (tracks : Tracks archive ledger) {refusal : Refusal} (count : Nat)
    (why : ledger.answer (Archive.nameOf (archive.created + 1)) call = .error refusal ∨
      ∃ failure, archive.Fails failure ∧ refusal = .archive failure) :
    Mirrors archive ledger call (.error refusal) (archive.after count) where
  tracks := tracks.after count
  answered := by
    rcases why with same | ⟨failure, fails, same⟩
    · exact Or.inl same.symm
    · exact Or.inr ⟨failure, fails, by rw [same]⟩
  refused := fun _ _ => rfl
  frame := fun _ _ => rfl
  grows := grows_after archive count

theorem Tracks.mirrors_of_failed (tracks : Tracks archive ledger) {failure : ArchiveError}
    (count : Nat) (fails : archive.Fails failure) :
    Mirrors archive ledger call (.error (.archive failure)) (archive.after count) :=
  tracks.mirrors_of_refused count (Or.inr ⟨failure, fails, rfl⟩)

/-- A call that stores nothing is mirrored if it is answered as the ledger says, which stays as it
is. -/
theorem Tracks.mirrors_of_kept (tracks : Tracks archive ledger) {answer : α} (count : Nat)
    (answered : ledger.answer (Archive.nameOf (archive.created + 1)) call = .ok answer)
    (kept : ledger.next call (.ok answer) = ledger) :
    Mirrors archive ledger call (.ok answer) (archive.after count) where
  tracks := by
    rw [kept]
    exact tracks.after count
  answered := Or.inl answered.symm
  refused := by simp
  frame := fun _ _ => rfl
  grows := grows_after archive count

/-- A match that was changed is written down and stored. -/
theorem Tracks.mirrors_of_put (tracks : Tracks archive ledger) {answer : α} {matchId : MatchId}
    {m : Match} (count : Nat)
    (answered : ledger.answer (Archive.nameOf (archive.created + 1)) call = .ok answer)
    (written : ledger.next call (.ok answer) = Dict.insert ledger matchId m) (sound : m.Sound)
    (present : archive.stored.contains matchId)
    (subject : call.subject (.ok answer) = some matchId) :
    Mirrors archive ledger call (.ok answer) ((archive.after count).put matchId m) where
  tracks := by
    rw [written]
    exact (tracks.after count).insert matchId sound
  answered := Or.inl answered.symm
  refused := by simp
  frame := by
    intro other distinct
    rw [subject] at distinct
    have away : other ≠ matchId := fun same => distinct (congrArg some same.symm)
    simp [away]
  grows := grows_put archive count m present

theorem Tracks.startHand_mirrors (tracks : Tracks archive ledger) (text : String) (vira : Rank) :
    Mirrors archive ledger (.startHand text vira) ((Service.startHand text vira).apply archive).1
      ((Service.startHand text vira).apply archive).2 := by
  rcases Service.startHand_cases archive text vira with
    ⟨failure, count, fails, done⟩ | ⟨refusal, count, unknown, done⟩ |
    ⟨matchId, m, refusal, count, named, ended, done⟩ | ⟨matchId, m, m', outcome, named, begun, done⟩
  · rw [done]
    exact tracks.mirrors_of_failed count fails
  · rw [done]
    refine tracks.mirrors_of_refused count (Or.inl ?_)
    rw [tracks.named_eq] at unknown
    simp [Ledger.answer, unknown, bind, Except.bind]
  · rw [done]
    refine tracks.mirrors_of_refused count (Or.inl ?_)
    rw [tracks.named_eq] at named
    simp [Ledger.answer, named, bind, Except.bind, Match.startAnswer, ended]
  · obtain ⟨name, present, found, sound⟩ := tracks.get?_of_named named
    rw [tracks.named_eq] at named
    have answered : ledger.answer (Archive.nameOf (archive.created + 1)) (.startHand text vira) =
        .ok (m'.handStart matchId vira outcome) := by
      simp [Ledger.answer, named, bind, Except.bind, Match.startAnswer, begun]
    have written : ledger.next (.startHand text vira) (.ok (m'.handStart matchId vira outcome)) =
        Dict.insert ledger matchId m' := by
      simp only [next, follow, name]
      rw [Tracks.modify_eq_insert _ found, begun]
    have sound' : m'.Sound := by
      have kept := sound.start vira
      rwa [begun] at kept
    rw [done]
    split
    next => exact tracks.mirrors_of_put 2 answered written sound' present (congrArg some name)
    -- a hand that goes on is not saved, and the match is the same
    next going =>
      rw [Match.eq_of_not_started begun going, Dict.insert_self found] at written
      rw [Match.eq_of_not_started begun going] at answered ⊢
      exact tracks.mirrors_of_kept 1 answered written

/-- A card that is played in the archive is played in the ledger, with the same answer. -/
theorem Tracks.playCard_mirrors (tracks : Tracks archive ledger) (text : String) (side : Side)
    (card : Card) :
    Mirrors archive ledger (.playCard text side card)
      ((Service.playCard text side card).apply archive).1
      ((Service.playCard text side card).apply archive).2 := by
  rcases Service.playCard_cases archive text side card with
    ⟨failure, count, fails, done⟩ | ⟨refusal, count, unknown, done⟩ |
    ⟨matchId, m, refusal, count, named, refused, done⟩ | ⟨matchId, m, m', outcome, named, played, done⟩
  · rw [done]
    exact tracks.mirrors_of_failed count fails
  · rw [done]
    refine tracks.mirrors_of_refused count (Or.inl ?_)
    rw [tracks.named_eq] at unknown
    simp [Ledger.answer, unknown, bind, Except.bind]
  · rw [done]
    refine tracks.mirrors_of_refused count (Or.inl ?_)
    rw [tracks.named_eq] at named
    have same : m.play side card = (.error refusal, (m.play side card).2) := by rw [← refused]
    simp only [Ledger.answer, named, bind, Except.bind, Match.playAnswer]
    rw [same]
  · obtain ⟨name, present, found, sound⟩ := tracks.get?_of_named named
    rw [tracks.named_eq] at named
    have answered : ledger.answer (Archive.nameOf (archive.created + 1)) (.playCard text side card) =
        .ok ⟨m'.view matchId, outcome⟩ := by
      simp [Ledger.answer, named, bind, Except.bind, Match.playAnswer, played]
    have written : ledger.next (.playCard text side card) (.ok ⟨m'.view matchId, outcome⟩) =
        Dict.insert ledger matchId m' := by
      simp only [next, follow, name]
      rw [Tracks.modify_eq_insert _ found, played]
    have sound' : m'.Sound := by
      have kept := sound.play side card
      rwa [played] at kept
    rw [done]
    exact tracks.mirrors_of_put 2 answered written sound' present (congrArg some name)

theorem Tracks.viewState_mirrors (tracks : Tracks archive ledger) (text : String) :
    Mirrors archive ledger (.viewState text) ((Service.viewState text).apply archive).1
      ((Service.viewState text).apply archive).2 := by
  rcases Service.viewState_cases archive text with
    ⟨failure, fails, done⟩ | ⟨refusal, count, unknown, done⟩ | ⟨matchId, m, named, done⟩
  · rw [done]
    exact tracks.mirrors_of_failed 1 fails
  · rw [done]
    refine tracks.mirrors_of_refused count (Or.inl ?_)
    rw [tracks.named_eq] at unknown
    simp [Ledger.answer, unknown, bind, Except.bind]
  · rw [tracks.named_eq] at named
    rw [done]
    refine tracks.mirrors_of_kept 1 ?_ rfl
    simp [Ledger.answer, named, bind, Except.bind, pure, Except.pure]

theorem Tracks.doesExist_mirrors (tracks : Tracks archive ledger) (text : String) :
    Mirrors archive ledger (.doesExist text) ((Service.doesExist text).apply archive).1
      ((Service.doesExist text).apply archive).2 := by
  rcases Service.doesExist_cases archive text with
    ⟨failure, fails, done⟩ | ⟨refusal, unknown, done⟩ |
    ⟨matchId, failure, name, unreadable, done⟩ | ⟨matchId, name, done⟩
  · rw [done]
    exact tracks.mirrors_of_failed 1 fails
  · rw [done]
    refine tracks.mirrors_of_refused 0 (Or.inl ?_)
    simp [Ledger.answer, unknown, bind, Except.bind]
  -- every stored match can be read
  · rw [tracks.lookup_eq, Ledger.lookup] at unreadable
    split at unreadable <;> simp at unreadable
  · rw [done]
    refine tracks.mirrors_of_kept 1 ?_ rfl
    simp [Ledger.answer, name, bind, Except.bind, pure, Except.pure, tracks.contains_eq]

theorem sound_of_newMatch {points : Option Int64} {m : Match}
    (made : Service.newMatch points = .ok m) : m.Sound := by
  unfold Service.newMatch at made
  obtain ⟨target, _, created⟩ := bind_eq_ok.mp made
  cases outcome : Match.create target with
  | error refusal => simp [outcome] at created
  | ok m' =>
    simp only [outcome, mapError_ok, Except.ok.injEq] at created
    exact created ▸ Match.sound_of_create outcome

theorem Tracks.createMatch_mirrors (tracks : Tracks archive ledger) (points : Option Int64) :
    Mirrors archive ledger (.createMatch points) ((Service.createMatch points).apply archive).1
      ((Service.createMatch points).apply archive).2 := by
  rcases Service.createMatch_cases archive points with
    ⟨failure, fails, done⟩ | ⟨refusal, refused, done⟩ | ⟨m, made, done⟩
  · rw [done]
    exact tracks.mirrors_of_failed 1 fails
  · rw [done]
    refine tracks.mirrors_of_refused 0 (Or.inl ?_)
    simp [Ledger.answer, refused, bind, Except.bind]
  · have listed := (tracks.after 1).insert (Archive.nameOf (archive.created + 1))
      (sound_of_newMatch made)
    have grows := grows_createMatch archive points
    rw [done] at grows ⊢
    refine ⟨?_, Or.inl ?_, by simp, ?_, grows⟩
    · simp only [next, follow, made]
      exact ⟨listed.stored, listed.sound⟩
    · simp [Ledger.answer, made, bind, Except.bind, pure, Except.pure]
    · intro other distinct
      have away : other ≠ Archive.nameOf (archive.created + 1) := by
        rintro rfl
        exact distinct rfl
      simp [away]

/-- Every call keeps an archive beside the matches themselves. -/
theorem Tracks.mirrors (tracks : Tracks archive ledger) (call : Call α) :
    Mirrors archive ledger call (call.step.apply archive).1 (call.step.apply archive).2 := by
  cases call with
  | createMatch points => exact tracks.createMatch_mirrors points
  | startHand text vira => exact tracks.startHand_mirrors text vira
  | playCard text side card => exact tracks.playCard_mirrors text side card
  | viewState text => exact tracks.viewState_mirrors text
  | doesExist text => exact tracks.doesExist_mirrors text

end Steps

/-- Calls one after another on a fresh archive, whichever of its calls fail, and what they make of
no matches at all. -/
inductive Run (fault : Nat → ArchiveCall → Option ArchiveError) : Nat → Archive → Ledger → Prop where
  | fresh : Run fault 0 { Archive.empty with fault } Dict.empty
  | called {count : Nat} {archive : Archive} {ledger : Ledger} {α : Type}
      (before : Run fault count archive ledger) (call : Call α) :
      Run fault (count + 1) (call.step.apply archive).2
        (ledger.next call (call.step.apply archive).1)

section Runs

variable {fault : Nat → ArchiveCall → Option ArchiveError} {count : Nat} {archive : Archive}
  {ledger : Ledger}

theorem Run.tracks (run : Run fault count archive ledger) : Tracks archive ledger := by
  induction run with
  | fresh => exact ⟨fun _ => rfl, fun _ _ found => by simp at found⟩
  | called _ call tracks => exact (tracks.mirrors call).tracks

theorem toNat_add_one {number : UInt64} (few : number.toNat + 1 < UInt64.size) :
    (number + 1).toNat = number.toNat + 1 := by
  rw [UInt64.toNat_add]
  exact Nat.mod_eq_of_lt few

/-- Whether every stored match has one of the numbers that were given, no more than so many. -/
structure Numbered (archive : Archive) (count : Nat) : Prop where
  created : archive.created.toNat ≤ count
  named : ∀ matchId, archive.stored.contains matchId →
    ∃ number, number ≤ archive.created ∧ matchId = Archive.nameOf number

theorem Numbered.of_grows {archive' : Archive} (numbered : Numbered archive count)
    (few : count + 1 < UInt64.size) (grows : Grows archive archive') : Numbered archive' (count + 1) := by
  have bound := numbered.created
  rcases grows with ⟨created, same⟩ | ⟨created, same⟩
  · refine ⟨by rw [created]; omega, ?_⟩
    intro matchId present
    rw [same] at present
    rw [created]
    exact numbered.named matchId present
  · have next : (archive.created + 1).toNat = archive.created.toNat + 1 := toNat_add_one (by omega)
    refine ⟨by rw [created, next]; omega, ?_⟩
    intro matchId present
    rw [same, Bool.or_eq_true, beq_iff_eq] at present
    rw [created]
    rcases present with new | old
    · exact ⟨_, UInt64.le_refl _, new⟩
    · obtain ⟨number, least, name⟩ := numbered.named matchId old
      refine ⟨number, ?_, name⟩
      rw [UInt64.le_iff_toNat_le] at least ⊢
      omega

/-- Until the numbers have run out, a new match does not take the name of another. -/
theorem Numbered.unused (numbered : Numbered archive count) (few : count + 1 < UInt64.size) :
    archive.stored.contains (Archive.nameOf (archive.created + 1)) = false := by
  rw [← Bool.not_eq_true]
  intro present
  obtain ⟨number, least, same⟩ := numbered.named _ present
  have bound := numbered.created
  have next : (archive.created + 1).toNat = archive.created.toNat + 1 := toNat_add_one (by omega)
  rw [← Archive.nameOf_injective same, UInt64.le_iff_toNat_le, next] at least
  omega

theorem Run.numbered (run : Run fault count archive ledger) (few : count < UInt64.size) :
    Numbered archive count := by
  induction run with
  | fresh => exact ⟨Nat.le_refl 0, fun _ present => Bool.noConfusion present⟩
  | called before call numbered =>
    exact (numbered (by omega)).of_grows few (before.tracks.mirrors call).grows

theorem Run.unused (run : Run fault count archive ledger) (few : count + 1 < UInt64.size) :
    ledger.get? (Archive.nameOf (archive.created + 1)) = none := by
  have unused := (run.numbered (by omega)).unused few
  rw [run.tracks.contains_eq] at unused
  simpa [Dict.contains] using unused

end Runs

end Ledger

end TrucoPaulista
