import TrucoPaulista.Hall
import TrucoPaulista.RateLimit
import TrucoPaulista.Wire.Command

namespace TrucoPaulista

/-- A player's connection to the server: its token if it has one, how many commands it still may
send, and the queue of its events. -/
structure Visitor where
  token : Option String
  limiter : RateLimiter
  queue : QueueId

/-- A server: the hall, the points to win of matches for which none are given, and who is
connected. -/
structure Server (ρ : Type := Archive) where
  hall : Hall ρ
  defaultPoints : UInt32
  visitors : Dict ConnectionId Visitor

/-- What a connection sends. A ping is echoed. -/
inductive Frame where
  | text (content : String)
  | binary
  | ping (data : String)
  deriving DecidableEq

namespace Server

variable {ρ : Type}

/-- The number of events that may wait for a visitor. -/
def eventCapacity : Nat := 64

/-- A server to which nobody is connected, over a repository. -/
def founded (archive : ρ) (defaultPoints : UInt32) (dealer : Dealer)
    (rollCall : RollCall := .byName) : Server ρ :=
  ⟨.empty (.empty archive dealer rollCall), defaultPoints, .empty⟩

/-- A server over an archive in which there is nothing yet. -/
def empty (defaultPoints : UInt32) (dealer : Dealer) (rollCall : RollCall := .byName) : Server :=
  .founded .empty defaultPoints dealer rollCall

/-- A token that is not blank, without the white space around it. -/
def normalizeToken (token : Option String) : Option String :=
  (token.map Text.trim).filter (fun token => !token.isEmpty)

/-- A connection is opened. -/
def connect (server : Server ρ) (connection : ConnectionId) (token : Option String) : Server ρ :=
  let (queue, floor) := server.hall.floor.openQueue eventCapacity
  let visitor : Visitor := ⟨normalizeToken token, .standard, queue⟩
  { server with
    hall := { server.hall with floor }
    visitors := server.visitors.insert connection visitor }

/-- The points to win that were asked for, or else those of the server. -/
def pointsOr (server : Server ρ) (points : Option Int64) : Option Int64 :=
  points.or (some (Int64.ofNat server.defaultPoints.toNat))

/-- The token of a visitor, without whom there is no place at a table. -/
def requireToken (visitor : Visitor) : Action (Hall ρ) Refusal String :=
  match visitor.token with
  | some token => pure token
  | none => throw (.room .missingToken)

/-- Carries out a command. One that the whole room hears of has no reply of its own. -/
def perform [Repository ρ] (server : Server ρ) (connection : ConnectionId) (visitor : Visitor)
    (command : Command) : Action (Hall ρ) Refusal (Option Event) := do
  match command with
  | .createMatch points => return some (.created (← Hall.createMatch (server.pointsOr points)))
  | .joinMatch matchId =>
    let token ← requireToken visitor
    return some (.ofSession (← Hall.join matchId connection token visitor.queue))
  | .setReady ready =>
    let _ ← requireToken visitor
    let _ ← Hall.setReady connection ready
    return none
  | .startHand matchId vira =>
    let _ ← requireToken visitor
    let vira ← Action.ofExcept (vira.mapM Request.vira)
    let _ ← Hall.startHand connection matchId vira
    return none
  | .playCard matchId words =>
    let _ ← requireToken visitor
    let card ← Action.ofExcept (Request.card words)
    let _ ← Hall.playCard connection matchId card
    return none
  | .getState matchId => return some (.ofMatch (← Hall.viewState matchId))

/-- What a visitor is told who sent something that is no command. -/
def malformed : Event := .error "Invalid message format"

/-- Carries out the command in a text. -/
def answer [Repository ρ] (server : Server ρ) (connection : ConnectionId) (visitor : Visitor)
    (content : String) : Option Event × Server ρ :=
  match Command.parse? content with
  | none => (some malformed, server)
  | some command =>
    let (outcome, hall) := (server.perform connection visitor command).apply server.hall
    let reply := match outcome with
      | .ok reply => reply
      | .error refusal => some (.error refusal.clientMessage)
    (reply, { server with hall })

/-- Puts a reply into the queue of a visitor; the reply waits until there is room for it. -/
def reply (server : Server ρ) (visitor : Visitor) (event : Event) : Server ρ :=
  let floor := server.hall.floor
  let queues := floor.queues.modify visitor.queue (fun queue => queue.push event)
  { server with hall := { server.hall with floor := { floor with queues } } }

/-- A connection ends. -/
def disconnect [Repository ρ] (server : Server ρ) (connection : ConnectionId) : Server ρ :=
  match server.visitors.get? connection with
  | none => server
  | some visitor =>
    let hall := (server.hall.leave connection).2
    { server with
      hall := { hall with floor := hall.floor.hangUp visitor.queue }
      visitors := server.visitors.erase connection }

/-- The most bytes that a ping may carry. -/
def pingLimit : Nat := 125

/-- A visitor sends something. One that sends a ping that is too large loses the connection. -/
def receive [Repository ρ] (server : Server ρ) (connection : ConnectionId) (now : Nat)
    (frame : Frame) : Server ρ :=
  match server.visitors.get? connection with
  | none => server
  | some visitor =>
    match frame with
    | .ping data =>
      if data.utf8ByteSize ≤ pingLimit then server else server.disconnect connection
    | .binary => server.reply visitor malformed
    | .text content =>
      let (admitted, limiter) := visitor.limiter.check now
      let server :=
        { server with visitors := server.visitors.insert connection { visitor with limiter } }
      match admitted with
      | .error limit => server.reply visitor (.error limit.message)
      | .ok () =>
        let (event, server) := server.answer connection visitor content
        match event with
        | some event => server.reply visitor event
        | none => server

/-- Takes the events that wait for a visitor. -/
def collect (server : Server ρ) (connection : ConnectionId) : List Event × Server ρ :=
  match server.visitors.get? connection with
  | none => ([], server)
  | some visitor =>
    let (events, floor) := server.hall.floor.drain visitor.queue
    (events, { server with hall := { server.hall with floor } })

/-- Creates a match without a connection of one's own. -/
def createMatch [Repository ρ] (server : Server ρ) (points : Option Int64) :
    Except Refusal MatchId × Server ρ :=
  let (answer, hall) := (Hall.createMatch (server.pointsOr points)).apply server.hall
  (answer, { server with hall })

/-- The state of a match. -/
def viewState [Repository ρ] (server : Server ρ) (text : String) :
    Except Refusal MatchView × Server ρ :=
  let (answer, hall) := (Hall.viewState text).apply server.hall
  (answer, { server with hall })

/-- The number of running tables. -/
def activeMatches (server : Server ρ) : Nat × Server ρ :=
  let (count, hall) := server.hall.activeMatches
  (count, { server with hall })

end Server

end TrucoPaulista
