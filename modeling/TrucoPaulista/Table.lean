import TrucoPaulista.Floor

namespace TrucoPaulista

/-- A card that was played: from which seat, and what it did. -/
structure CardPlayed where
  seat : Seat
  card : Card
  result : CardResult
  deriving DecidableEq

namespace Event

/-- The state of a match as it is told. -/
def ofMatch (view : MatchView) : Event :=
  .matchState view.matchId view.state view.score view.pointsToWin view.vira view.roundsPlayed

/-- The beginning of a hand as it is told. -/
def ofStart (start : HandStart) : Event := .handStarted start.matchId start.vira

/-- A card as it is told. -/
def ofCard (played : CardPlayed) : Event :=
  .cardPlayed played.result.state.matchId played.seat played.seat.team played.card

/-- A seat as its player is told. -/
def ofSession (session : Session) : Event :=
  .playerAssigned session.matchId session.seat session.seat.team session.seat.side

end Event

/-- The table of a match: the queues of those that sit at it, and whether it is closed. -/
structure Table where
  matchId : MatchId
  subscribers : Dict ConnectionId QueueId
  isClosed : Bool

def Table.empty (matchId : MatchId) : Table := ⟨matchId, .empty, false⟩

/-- A table and the floor on which it stands. -/
structure AtTable (ρ : Type := Archive) where
  table : Table
  floor : Floor ρ

/-- A step at a table. -/
abbrev TableStep (α : Type) := Action AtTable Refusal α

namespace AtTable

variable {ρ : Type}

/-- A step on the floor. -/
def onFloor {α : Type} (step : Action (Floor ρ) Refusal α) : Action (AtTable ρ) Refusal α :=
  step.on AtTable.floor (fun place floor => { place with floor })

/-- The room of the table as others see it. -/
def roomView (place : AtTable ρ) : RoomView := place.floor.lobby.roomView place.table.matchId

/-- Tells something to everyone at the table. Who has hung up is told nothing from now on, and so is
a player with a full queue, who moreover loses the connection to the seat. The table is closed when
its room is. -/
def broadcast (place : AtTable ρ) (event : Event) : AtTable ρ :=
  let (deliveries, floor) := place.floor.sendAll event place.table.subscribers.entries
  let accepted (connection : ConnectionId) : Bool :=
    deliveries.any (fun delivery => delivery.1 = connection && delivery.2 = .accepted)
  let subscribers := place.table.subscribers.filter (fun connection _ => accepted connection)
  let lagging := (deliveries.filter (fun delivery => delivery.2 = .full)).map Prod.fst
  let floor := floor.unseat lagging
  let lost := !lagging.isEmpty && !floor.lobby.hasRoom place.table.matchId
  ⟨{ place.table with subscribers, isClosed := place.table.isClosed || lost }, floor⟩

/-- Tells everyone at the table the state of the room. -/
def broadcastRoom (place : AtTable ρ) : AtTable ρ := place.broadcast (.ofRoom place.roomView)

/-- A change of the place. -/
def change (update : AtTable ρ → AtTable ρ) : Action (AtTable ρ) Refusal Unit :=
  Action.ofUpdate (fun place => ((), update place))

/-- The session of a connection that has a seat at this table. -/
def seated (connection : ConnectionId) : Action (AtTable ρ) Refusal Session := do
  let session ← Action.look (fun place : AtTable ρ =>
    (place.floor.lobby.session connection).filter (fun s => s.matchId = place.table.matchId))
  match session with
  | some session => return session
  | none => throw (.room .notJoined)

/-- The table with a connection that takes its events from a queue; those that have no seat
anywhere are told nothing any more. -/
def subscribe (connection : ConnectionId) (queue : QueueId) (place : AtTable ρ) : AtTable ρ :=
  let subscribers := (place.table.subscribers.insert connection queue).filter
    (fun subscriber _ => (place.floor.lobby.session subscriber).isSome)
  { place with table := { place.table with subscribers } }

/-- A connection sits down. -/
def join [Repository ρ] (connection : ConnectionId) (token : String) (queue : QueueId) :
    Action (AtTable ρ) Refusal Session := do
  let matchId ← Action.look (fun place : AtTable ρ => place.table.matchId)
  if !(← onFloor (FloorStep.ofService (Service.doesExist matchId))) then
    throw (.matchNotFound matchId)
  let session ← onFloor (FloorStep.ofLobby (fun lobby => lobby.join matchId connection token))
  change (subscribe connection queue)
  change broadcastRoom
  return session

/-- A player becomes ready, or is no longer so. -/
def setReady (connection : ConnectionId) (ready : Bool) : Action (AtTable ρ) Refusal RoomView := do
  let _ ← seated connection
  let view ← onFloor (FloorStep.ofLobby (fun lobby => lobby.setReady connection ready))
  change (fun place => place.broadcast (.ofRoom view))
  return view

/-- The vira that was asked for, or else one that is drawn. -/
def pickVira (vira : Option Rank) : Action (AtTable ρ) Refusal Rank :=
  match vira with
  | some vira => pure vira
  | none => onFloor (Action.ofUpdate (fun floor =>
    let (vira, dealer) := floor.dealer.draw
    (vira, { floor with dealer })))

/-- A player calls for a hand. In a match in which one is being played that hand goes on. -/
def startHand [Repository ρ] (connection : ConnectionId) (vira : Option Rank) :
    Action (AtTable ρ) Refusal HandStart := do
  let matchId ← Action.look (fun place : AtTable ρ => place.table.matchId)
  let _ ← seated connection
  if !(← Action.look (fun place : AtTable ρ => place.floor.lobby.canStart matchId)) then
    throw (.room .notAllReady)
  let vira ← pickVira vira
  let start ← onFloor (FloorStep.ofService (Service.startHand matchId vira))
  let _ ← onFloor (FloorStep.ofLobby (fun lobby =>
    if start.started then lobby.beginHand matchId else lobby.resumeHand matchId start.awaiting))
  let state ← onFloor (FloorStep.ofService (Service.viewState matchId))
  change (fun place => place.broadcast (.ofStart start))
  change (fun place => place.broadcast (.ofMatch state))
  change broadcastRoom
  return start

/-- The turn after a card of a side: nobody's after the hand, the other side's within a round. -/
def passTurn (side : Side) (outcome : PlayOutcome) (place : AtTable ρ) : AtTable ρ :=
  let matchId := place.table.matchId
  let lobby := place.floor.lobby
  let (_, lobby) :=
    if outcome.handCompleted then lobby.endHand matchId
    else lobby.advanceTurn matchId (if outcome.round.isNone then some side.other else none)
  { place with floor := { place.floor with lobby } }

/-- A player plays a card. -/
def playCard [Repository ρ] (connection : ConnectionId) (card : Card) :
    Action (AtTable ρ) Refusal CardPlayed := do
  let matchId ← Action.look (fun place : AtTable ρ => place.table.matchId)
  let session ← seated connection
  if !(← Action.look (fun place : AtTable ρ =>
      place.floor.lobby.isPlayersTurn connection matchId)) then
    throw (.room .notYourTurn)
  let result ← onFloor (FloorStep.ofService (Service.playCard matchId session.seat.side card))
  change (passTurn session.seat.side result.outcome)
  let played : CardPlayed := ⟨session.seat, card, result⟩
  change (fun place => place.broadcast (.ofCard played))
  change (fun place => place.broadcast (.ofMatch result.state))
  change broadcastRoom
  return played

/-- The state of the match. -/
def getState [Repository ρ] : Action (AtTable ρ) Refusal MatchView := do
  let matchId ← Action.look (fun place : AtTable ρ => place.table.matchId)
  onFloor (FloorStep.ofService (Service.viewState matchId))

/-- A connection goes. The answer is the match in which it had its seat. -/
def leave (connection : ConnectionId) (place : AtTable ρ) : Option MatchId × AtTable ρ :=
  let subscribers := place.table.subscribers.erase connection
  let (left, lobby) := place.floor.lobby.leave connection
  let place : AtTable ρ := ⟨{ place.table with subscribers }, { place.floor with lobby }⟩
  match left with
  | some matchId => (some matchId, place.broadcastRoom)
  | none => (none, place)

/-- The table is closed. -/
def close (place : AtTable ρ) : AtTable ρ :=
  { place with table := { place.table with isClosed := true } }

end AtTable

/-- A message to a table, by the kind of its reply. -/
inductive Message : Type → Type where
  | join (connection : ConnectionId) (token : String) (queue : QueueId) :
      Message (Except Refusal Session)
  | setReady (connection : ConnectionId) (ready : Bool) : Message (Except Refusal RoomView)
  | startHand (connection : ConnectionId) (vira : Option Rank) : Message (Except Refusal HandStart)
  | playCard (connection : ConnectionId) (card : Card) : Message (Except Refusal CardPlayed)
  | getState : Message (Except Refusal MatchView)
  | leave (connection : ConnectionId) : Message (Option MatchId)
  | close : Message Unit

/-- The reply to a message. -/
def AtTable.handle {ρ α : Type} [Repository ρ] (message : Message α) (place : AtTable ρ) :
    α × AtTable ρ :=
  match message with
  | .join connection token queue => (join connection token queue).apply place
  | .setReady connection ready => (setReady connection ready).apply place
  | .startHand connection vira => (startHand connection vira).apply place
  | .playCard connection card => (playCard connection card).apply place
  | .getState => getState.apply place
  | .leave connection => place.leave connection
  | .close => ((), place.close)

end TrucoPaulista
