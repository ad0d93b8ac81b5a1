import TrucoPaulista.Dict
import TrucoPaulista.RoomError
import TrucoPaulista.Snapshot

namespace TrucoPaulista

/-- Why an archive fails. -/
inductive ArchiveError where
  | notFound (matchId : MatchId)
  | database (reason : String)
  | timeout (seconds : Nat)
  | snapshot (refusal : GameError)
  deriving DecidableEq

def ArchiveError.message : ArchiveError → String
  | notFound matchId => "match not found: " ++ matchId
  | database reason => "database error: " ++ reason
  | timeout seconds => "database operation timed out after " ++ toString seconds ++ "s"
  | snapshot refusal => "stored match is unreadable: " ++ refusal.message

/-- A repository of matches: how a new match is stored, how the one under a name is found, and how it is
stored again. A call that fails may have done anything nonetheless. -/
class Repository (ρ : Type) where
  create : ρ → Match → Except ArchiveError MatchId × ρ
  find : ρ → MatchId → Except ArchiveError (Option Match) × ρ
  save : ρ → MatchId → Match → Except ArchiveError Unit × ρ

/-- What an archive is called for. -/
inductive ArchiveCall where
  | create
  | find
  | save
  deriving DecidableEq

/-- An archive of matches: the stored ones, how many were created, the number of calls so far, and
which calls fail. A call that fails does nothing else. -/
structure Archive where
  stored : Dict MatchId MatchSnapshot
  created : UInt64
  calls : Nat
  fault : Nat → ArchiveCall → Option ArchiveError

namespace Archive

def empty : Archive := ⟨.empty, 0, 0, fun _ _ => none⟩

/-- The name of the match that is created after so many. -/
def nameOf (number : UInt64) : MatchId := "match_" ++ toString number.toNat

/-- A call, unless it fails. -/
def call {α : Type} (archive : Archive) (kind : ArchiveCall)
    (act : Archive → Except ArchiveError α × Archive) : Except ArchiveError α × Archive :=
  let counted := { archive with calls := archive.calls + 1 }
  match archive.fault archive.calls kind with
  | some failure => (.error failure, counted)
  | none => act counted

/-- Stores a new match. The answer is its name. -/
def create (archive : Archive) (m : Match) : Except ArchiveError MatchId × Archive :=
  archive.call .create (fun archive =>
    let created := archive.created + 1
    let matchId := nameOf created
    (.ok matchId, { archive with stored := archive.stored.insert matchId m.snapshot, created }))

/-- The match that is stored under a name. -/
def find (archive : Archive) (matchId : MatchId) : Except ArchiveError (Option Match) × Archive :=
  archive.call .find (fun archive =>
    match archive.stored.get? matchId with
    | none => (.ok none, archive)
    | some stored =>
      match stored.restore with
      | .ok m => (.ok (some m), archive)
      | .error refusal => (.error (.snapshot refusal), archive))

/-- Stores a match in the place of the one under a name. -/
def save (archive : Archive) (matchId : MatchId) (m : Match) :
    Except ArchiveError Unit × Archive :=
  archive.call .save (fun archive =>
    if archive.stored.contains matchId then
      (.ok (), { archive with stored := archive.stored.insert matchId m.snapshot })
    else (.error (.notFound matchId), archive))

instance : Repository Archive where
  create := create
  find := find
  save := save

variable (archive : Archive)

@[simp] theorem repository_create (m : Match) : Repository.create archive m = archive.create m := rfl

@[simp] theorem repository_find (matchId : MatchId) :
    Repository.find archive matchId = archive.find matchId := rfl

@[simp] theorem repository_save (matchId : MatchId) (m : Match) :
    Repository.save archive matchId m = archive.save matchId m := rfl

end Archive

end TrucoPaulista
