import TrucoPaulista.Table

namespace TrucoPaulista

/-- The number of a table. -/
abbrev TableId := Nat

/-- The tables of all matches, closed ones too, the floor that they share, and the table at which
each match is played. -/
structure Hall (ρ : Type := Archive) where
  floor : Floor ρ
  tables : Dict TableId Table
  registry : Dict MatchId TableId
  opened : Nat

/-- A table as it is known to those that send it messages. -/
structure Handle where
  table : TableId
  matchId : MatchId
  deriving DecidableEq

/-- A step in the hall. -/
abbrev HallStep (α : Type) := Action Hall Refusal α

namespace Hall

variable {ρ : Type}

def empty (floor : Floor ρ) : Hall ρ := ⟨floor, .empty, .empty, 0⟩

/-- Whether a table takes messages. -/
def isRunning (hall : Hall ρ) (table : TableId) : Bool :=
  (hall.tables.get? table).any (fun t => !t.isClosed)

/-- The running table of a match. -/
def running? (hall : Hall ρ) (matchId : MatchId) : Option Handle :=
  ((hall.registry.get? matchId).filter hall.isRunning).map (fun table => ⟨table, matchId⟩)

/-- Sends a message to a table. A closed table gives no reply, and its players are told nothing any
more. -/
def ask [Repository ρ] {α : Type} (hall : Hall ρ) (table : TableId) (message : Message α) :
    Option α × Hall ρ :=
  match (hall.tables.get? table).filter (fun t => !t.isClosed) with
  | none => (none, hall)
  | some t =>
    let (reply, place) := AtTable.handle message ⟨t, hall.floor⟩
    let t := if place.table.isClosed then { place.table with subscribers := ∅ } else place.table
    (some reply, { hall with floor := place.floor, tables := hall.tables.insert table t })

/-- Opens a table for a match. -/
def openTable (hall : Hall ρ) (matchId : MatchId) : Handle × Hall ρ :=
  let tables := hall.tables.insert hall.opened (.empty matchId)
  let registry := hall.registry.insert matchId hall.opened
  (⟨hall.opened, matchId⟩, { hall with tables, registry, opened := hall.opened + 1 })

/-- The running table of a match, or else a new one. -/
def runningOrOpen (hall : Hall ρ) (matchId : MatchId) : Handle × Hall ρ :=
  match hall.running? matchId with
  | some handle => (handle, hall)
  | none => hall.openTable matchId

/-- The table of a match on which nobody sits any more is closed. -/
def retireIfIdle [Repository ρ] (hall : Hall ρ) (matchId : MatchId) : Hall ρ :=
  if hall.floor.lobby.hasRoom matchId then hall
  else
    match hall.registry.get? matchId with
    | none => hall
    | some table =>
      ({ hall with registry := hall.registry.erase matchId }.ask table Message.close).2

/-- The number of running tables. Those that were closed are struck off. -/
def activeMatches (hall : Hall ρ) : Nat × Hall ρ :=
  let registry := hall.registry.filter (fun _ table => hall.isRunning table)
  (registry.size, { hall with registry })

/-- Closes all tables. -/
def shutdown [Repository ρ] (hall : Hall ρ) : Hall ρ :=
  hall.registry.values.foldl (fun hall table => (hall.ask table Message.close).2)
    { hall with registry := ∅ }

/-- Begins anew over the same archive. -/
def restart [Repository ρ] (hall : Hall ρ) : Hall ρ :=
  let hall := hall.shutdown
  { hall with floor := { hall.floor with lobby := .empty } }

/-- Whether somebody may still put events into a queue. -/
def isHeld (hall : Hall ρ) (queue : QueueId) : Bool :=
  hall.tables.values.any (fun t => !t.isClosed && t.subscribers.values.contains queue)

/-- A step of a service. -/
def ofService {α : Type} (step : Action ρ Refusal α) : Action (Hall ρ) Refusal α :=
  (FloorStep.ofService step).on Hall.floor (fun hall floor => { hall with floor })

/-- A change of the hall. -/
def change (update : Hall ρ → Hall ρ) : Action (Hall ρ) Refusal Unit :=
  Action.ofUpdate (fun hall => ((), update hall))

/-- Sends a message that may be refused. -/
def request [Repository ρ] {α : Type} (handle : Handle) (message : Message (Except Refusal α)) :
    Action (Hall ρ) Refusal α :=
  Action.ofStep (fun hall =>
    match hall.ask handle.table message with
    | (some reply, hall) => (reply, hall)
    | (none, hall) => (.error (.unavailable handle.matchId), hall))

/-- Sends a message that may be refused. When it is, a table on which nobody sits is closed. -/
def requestOrRetire [Repository ρ] {α : Type} (handle : Handle)
    (message : Message (Except Refusal α)) : Action (Hall ρ) Refusal α :=
  Action.ofStep (fun hall =>
    match (request handle message).apply hall with
    | (.ok answer, hall) => (.ok answer, hall)
    | (.error refusal, hall) => (.error refusal, hall.retireIfIdle handle.matchId))

/-- Creates a match. -/
def createMatch [Repository ρ] (points : Option Int64) : Action (Hall ρ) Refusal MatchId :=
  ofService (Service.createMatch points)

/-- The table of a match, which is opened where there is none. -/
def handle [Repository ρ] (text : String) : Action (Hall ρ) Refusal Handle := do
  let matchId ← Action.ofExcept (Request.matchId text)
  match ← Action.look (fun hall : Hall ρ => hall.running? matchId) with
  | some handle => return handle
  | none =>
    if !(← ofService (Service.doesExist matchId)) then throw (.matchNotFound matchId)
    Action.ofUpdate (fun hall => hall.runningOrOpen matchId)

/-- The table at which a connection sits. -/
def joinedHandle [Repository ρ] (connection : ConnectionId) : Action (Hall ρ) Refusal Handle := do
  match ← Action.look (fun hall : Hall ρ => hall.floor.lobby.session connection) with
  | some session => handle session.matchId
  | none => throw (.room .notJoined)

/-- A connection sits down in a match. -/
def join [Repository ρ] (text : String) (connection : ConnectionId) (token : String)
    (queue : QueueId) : Action (Hall ρ) Refusal Session := do
  requestOrRetire (← handle text) (.join connection token queue)

/-- A player becomes ready, or is no longer so. -/
def setReady [Repository ρ] (connection : ConnectionId) (ready : Bool) :
    Action (Hall ρ) Refusal RoomView := do
  request (← joinedHandle connection) (.setReady connection ready)

/-- A player calls for a hand. -/
def startHand [Repository ρ] (connection : ConnectionId) (text : String) (vira : Option Rank) :
    Action (Hall ρ) Refusal HandStart := do
  requestOrRetire (← handle text) (.startHand connection vira)

/-- A player plays a card. -/
def playCard [Repository ρ] (connection : ConnectionId) (text : String) (card : Card) :
    Action (Hall ρ) Refusal CardPlayed := do
  requestOrRetire (← handle text) (.playCard connection card)

/-- The state of a match, from its table where there is one. -/
def viewState [Repository ρ] (text : String) : Action (Hall ρ) Refusal MatchView := do
  let matchId ← Action.ofExcept (Request.matchId text)
  match ← Action.look (fun hall : Hall ρ => hall.running? matchId) with
  | some handle => request handle .getState
  | none => ofService (Service.viewState matchId)

/-- A connection goes. The answer is the match in which it had its seat. -/
def leave [Repository ρ] (hall : Hall ρ) (connection : ConnectionId) : Option MatchId × Hall ρ :=
  match (joinedHandle connection).apply hall with
  | (.error _, hall) => (none, hall)
  | (.ok handle, hall) =>
    match hall.ask handle.table (.leave connection) with
    | (some (some matchId), hall) => (some matchId, hall.retireIfIdle matchId)
    | (_, hall) => (none, hall)

end Hall

end TrucoPaulista
