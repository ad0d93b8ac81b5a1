import TrucoPaulista.Crowd
import TrucoPaulista.Proofs.Calls
import TrucoPaulista.Proofs.StoredJson

namespace TrucoPaulista

namespace Request

theorem matchId_trim (text : String) : Request.matchId (Text.trim text) = Request.matchId text := by
  rw [Request.matchId, Request.matchId, Text.trim_trim]

theorem matchId_of_blank {text : String} (blank : (Text.trim text).isEmpty) :
    Request.matchId text = .error (.invalid "matchId is required") := by
  simp [Request.matchId, blank]

theorem matchId_of_solid {text : String} (some' : text.toList ≠ [])
    (solid : ∀ c ∈ text.toList, Text.isBlank c = false) : Request.matchId text = .ok text := by
  have trimmed : Text.trim text = text := by
    rw [Text.trim, Text.trimChars_of_not_blank solid, String.ofList_toList]
  refine matchId_eq_ok.mpr ⟨trimmed, ?_⟩
  simpa using some'

theorem isBlank_of_isDigit {c : Char} (digit : c.isDigit = true) : Text.isBlank c = false := by
  obtain ⟨least, most⟩ := Char.isDigit_iff_toNat.mp digit
  have zero : '0'.toNat = 48 := rfl
  have nine : '9'.toNat = 57 := rfl
  simp only [Text.isBlank, Text.inRanges, Text.blankRanges, List.any_cons, List.any_nil,
    Bool.or_eq_false_iff, Bool.and_eq_false_iff, decide_eq_false_iff_not, and_true]
  omega

/-- The name of a new match is one under which it is found. -/
theorem matchId_nameOf (number : UInt64) :
    Request.matchId (Archive.nameOf number) = .ok (Archive.nameOf number) := by
  have name : (Archive.nameOf number).toList = "match_".toList ++ Nat.toDigits 10 number.toNat := by
    simp [Archive.nameOf, toString, Nat.toList_repr]
  refine matchId_of_solid (by simp [name]) ?_
  intro c member
  rw [name] at member
  rcases List.mem_append.mp member with letter | digit
  · have letters : "match_".toList.any Text.isBlank = false := by decide
    simpa using List.any_eq_false.mp letters c letter
  · exact isBlank_of_isDigit (Nat.isDigit_of_mem_toDigits (by omega) (by omega) digit)

end Request

namespace Action

variable {σ α β : Type} {step : String → Action σ Refusal α}

/-- Whether a step takes no more from a text than the name of a match, and takes it first. -/
def ReadsName (step : String → Action σ Refusal α) : Prop :=
  ∃ next : MatchId → Action σ Refusal α, ∀ text,
    step text = ofExcept (Request.matchId text) >>= next

theorem ReadsName.bind (reads : ReadsName step) (later : α → Action σ Refusal β) :
    ReadsName (fun text => step text >>= later) := by
  obtain ⟨next, same⟩ := reads
  refine ⟨fun matchId => next matchId >>= later, fun text => ?_⟩
  show step text >>= later = _
  rw [same, bind_assoc]

theorem ReadsName.trim (reads : ReadsName step) (text : String) : step (Text.trim text) = step text := by
  obtain ⟨next, same⟩ := reads
  rw [same, same, Request.matchId_trim]

theorem ReadsName.of_blank (reads : ReadsName step) {text : String} (blank : (Text.trim text).isEmpty)
    (s : σ) : (step text).apply s = (.error (.invalid "matchId is required"), s) := by
  obtain ⟨next, same⟩ := reads
  rw [same, Request.matchId_of_blank blank]
  exact apply_bind_error rfl

end Action

namespace Service

/-- What is wished for in a match that a text names, by the kind of the answer. -/
inductive Wish : Type → Type where
  | doesExist : Wish Bool
  | startHand (vira : Rank) : Wish HandStart
  | playCard (side : Side) (card : Card) : Wish CardResult
  | viewState : Wish MatchView

def Wish.step {α : Type} (wish : Wish α) (text : String) : Step α :=
  match wish with
  | doesExist => Service.doesExist text
  | startHand vira => Service.startHand text vira
  | playCard side card => Service.playCard text side card
  | viewState => Service.viewState text

theorem Wish.readsName {α : Type} (wish : Wish α) : Action.ReadsName wish.step := by
  cases wish <;> exact ⟨_, fun _ => rfl⟩

end Service

namespace Hall

/-- What is wished for in a match that a text names, by the kind of the answer. -/
inductive Wish : Type → Type where
  | handle : Wish Handle
  | join (connection : ConnectionId) (token : String) (queue : QueueId) : Wish Session
  | startHand (connection : ConnectionId) (vira : Option Rank) : Wish HandStart
  | playCard (connection : ConnectionId) (card : Card) : Wish CardPlayed
  | viewState : Wish MatchView

def Wish.step {α : Type} (wish : Wish α) (text : String) : HallStep α :=
  match wish with
  | handle => Hall.handle text
  | join connection token queue => Hall.join text connection token queue
  | startHand connection vira => Hall.startHand connection text vira
  | playCard connection card => Hall.playCard connection text card
  | viewState => Hall.viewState text

theorem readsName_handle : Action.ReadsName (Hall.handle : String → HallStep Handle) :=
  ⟨_, fun _ => rfl⟩

theorem Wish.readsName {α : Type} (wish : Wish α) : Action.ReadsName wish.step := by
  cases wish with
  | handle => exact readsName_handle
  | join connection token queue =>
    exact readsName_handle.bind fun handle => requestOrRetire handle (.join connection token queue)
  | startHand connection vira =>
    exact readsName_handle.bind fun handle => requestOrRetire handle (.startHand connection vira)
  | playCard connection card =>
    exact readsName_handle.bind fun handle => requestOrRetire handle (.playCard connection card)
  | viewState => exact ⟨_, fun _ => rfl⟩

/-- Whether something is kept in a hall under the name of a match: a room, a table, or the seat of a
connection. -/
def Keeps (hall : Hall) (matchId : MatchId) : Prop :=
  hall.floor.lobby.hasRoom matchId ∨ (hall.registry.get? matchId).isSome ∨
    ∃ connection session, hall.floor.lobby.session connection = some session ∧
      session.matchId = matchId

theorem Attended.matchId_of_keeps {hall : Hall} {given : Given} (attended : hall.Attended given)
    {matchId : MatchId} (keeps : hall.Keeps matchId) : Request.matchId matchId = .ok matchId := by
  have registered : (hall.registry.get? matchId).isSome := by
    rcases keeps with room | registered | seated
    · exact attended.rooms matchId room
    · exact registered
    · exact attended.rooms matchId (attended.mirrored.hasRoom_iff_session.mpr seated)
  obtain ⟨id, found⟩ := Option.isSome_iff_exists.mp registered
  obtain ⟨_, _, _, valid, _⟩ := attended.table matchId id found
  exact valid

end Hall

/-- An errand with the name of its match as it is read. -/
def Errand.trimmed : Errand → Errand
  | .join text connection token queue => .join (Text.trim text) connection token queue
  | .startHand connection text vira => .startHand connection (Text.trim text) vira
  | .playCard connection text card => .playCard connection (Text.trim text) card
  | .leave connection => .leave connection

theorem Errand.target_trimmed (errand : Errand) (hall : Hall) :
    errand.trimmed.target hall = errand.target hall := by
  cases errand with
  | leave connection => rfl
  | join text _ _ _ => exact Request.matchId_trim text
  | startHand _ text _ => exact Request.matchId_trim text
  | playCard _ text _ => exact Request.matchId_trim text

theorem Errand.deliver_trimmed (errand : Errand) (table : TableId) (hall : Hall) :
    errand.trimmed.deliver table hall = errand.deliver table hall := by
  cases errand <;> rfl

namespace Hall

/-- Padding around the name of a match makes no difference to what is answered, nor to what becomes
of an archive or of a hall, and a name that is blank is refused before anything happens. Calls that
overtake one another go to the same match with it and do the same there. What a hall keeps, it keeps
under names that have no padding, and so is every match that is created. -/
theorem padding_makes_no_difference (text : String) :
    (∀ (α : Type) (wish : Service.Wish α) (archive : Archive),
      (wish.step (Text.trim text)).apply archive = (wish.step text).apply archive ∧
      ((Text.trim text).isEmpty →
        (wish.step text).apply archive = (.error (.invalid "matchId is required"), archive))) ∧
    (∀ (α : Type) (wish : Wish α) (hall : Hall),
      (wish.step (Text.trim text)).apply hall = (wish.step text).apply hall ∧
      ((Text.trim text).isEmpty →
        (wish.step text).apply hall = (.error (.invalid "matchId is required"), hall))) ∧
    (∀ (errand : Errand) (hall : Hall), errand.trimmed.target hall = errand.target hall ∧
      ∀ table, errand.trimmed.deliver table hall = errand.deliver table hall) ∧
    (∀ (hall : Hall) (given : Given), Run hall given → ∀ matchId, hall.Keeps matchId →
      Request.matchId matchId = .ok matchId) ∧
    (∀ (points : Option Int64) (archive : Archive) (matchId : MatchId),
      ((Service.createMatch points).apply archive).1 = .ok matchId →
        Request.matchId matchId = .ok matchId) := by
  refine ⟨?_, ?_, ?_, ?_, ?_⟩
  · intro α wish archive
    exact ⟨congrArg (Action.apply · archive) (wish.readsName.trim text),
      fun blank => wish.readsName.of_blank blank archive⟩
  · intro α wish hall
    exact ⟨congrArg (Action.apply · hall) (wish.readsName.trim text),
      fun blank => wish.readsName.of_blank blank hall⟩
  · intro errand hall
    exact ⟨errand.target_trimmed hall, fun table => errand.deliver_trimmed table hall⟩
  · intro hall given run matchId keeps
    exact run.tidy.attended.matchId_of_keeps keeps
  · intro points archive matchId created
    rcases Service.createMatch_cases archive points with
      ⟨_, _, done⟩ | ⟨_, _, done⟩ | ⟨_, _, done⟩ <;> rw [done] at created <;> cases created
    exact Request.matchId_nameOf _

/-- A player sits down in a match that is named with white space around it, and has a seat in the match of
that name. A name of white space only is refused. -/
theorem padding_makes_no_difference_sitting_down :
    let hall := ((createMatch none).apply (Hall.empty (.empty Archive.empty ⟨fun _ => .four, 0⟩))).2
    let sitDown (text : String) := (join text "a" "ana" 0).apply hall
    Text.trim "\tmatch_1 " = "match_1" ∧ sitDown "match_1" = sitDown "\tmatch_1 " ∧
      ((sitDown "\tmatch_1 ").2.floor.lobby.session "a").map Session.matchId = some "match_1" ∧
      sitDown "\u3000" = (.error (.invalid "matchId is required"), hall) := by
  intro hall sitDown
  have trimmed : Text.trim "\tmatch_1 " = "match_1" := by decide +kernel
  have padded := ((padding_makes_no_difference "\tmatch_1 ").2.1 Session (.join "a" "ana" 0) hall).1
  rw [trimmed] at padded
  have blank := ((padding_makes_no_difference "\u3000").2.1 Session (.join "a" "ana" 0) hall).2
    (by decide +kernel)
  exact ⟨trimmed, padded, by decide +kernel, blank⟩

end Hall

end TrucoPaulista
