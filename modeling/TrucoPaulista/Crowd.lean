import TrucoPaulista.Hall

namespace TrucoPaulista

/-- A call that others may overtake. -/
inductive Errand where
  | join (text : String) (connection : ConnectionId) (token : String) (queue : QueueId)
  | startHand (connection : ConnectionId) (text : String) (vira : Option Rank)
  | playCard (connection : ConnectionId) (text : String) (card : Card)
  | leave (connection : ConnectionId)
  deriving DecidableEq

/-- How far a call has come: before its first step; before the table of the match is looked up; before
the archive is asked for the match; before a table is opened; with a table, before a letter is sent to
it; before the reply; before the table is taken out of the registry; before it is told to close. -/
inductive Stage where
  | begun
  | finding (matchId : MatchId)
  | checking (matchId : MatchId)
  | opening (matchId : MatchId)
  | sending (handle : Handle)
  | waiting (handle : Handle)
  | retiring (matchId : MatchId)
  | dismissing (table : TableId)
  deriving DecidableEq

/-- A call in flight. -/
structure Progress where
  errand : Errand
  stage : Stage
  deriving DecidableEq

/-- A letter in the inbox of a table: the errand of a call, by its number, or word to close. -/
inductive Letter where
  | errand (number : Nat) (errand : Errand)
  | close
  deriving DecidableEq

/-- What came of an errand at a table. -/
inductive Reply where
  | seated (session : Session)
  | done
  | refused
  | left (matchId : MatchId)
  deriving DecidableEq

/-- A hall in which several calls go on at the same time: the letters that wait at its tables, the
first one first, and how far each call has come. -/
structure Crowd where
  hall : Hall
  inboxes : Dict TableId (List Letter)
  calls : Dict Nat Progress

/-- How many letters may wait at a table. -/
def inboxCapacity : Nat := 100

namespace Errand

/-- The match to which an errand goes. A connection leaves the one in which it sits. -/
def target (errand : Errand) (hall : Hall) : Except Refusal MatchId :=
  match errand with
  | .join text _ _ _ => Request.matchId text
  | .startHand _ text _ => Request.matchId text
  | .playCard _ text _ => Request.matchId text
  | .leave connection =>
    match hall.floor.lobby.session connection with
    | some session => Request.matchId session.matchId
    | none => .error (.room .notJoined)

/-- Sends a message that may be refused. The reply comes from the answer, if there is one. -/
def submit {α : Type} (hall : Hall) (table : TableId) (message : Message (Except Refusal α))
    (reply : α → Reply) : Reply × Hall :=
  match hall.ask table message with
  | (some (.ok answer), hall) => (reply answer, hall)
  | (_, hall) => (.refused, hall)

/-- What a table makes of an errand. -/
def deliver (errand : Errand) (table : TableId) (hall : Hall) : Reply × Hall :=
  match errand with
  | .join _ connection token queue => submit hall table (.join connection token queue) .seated
  | .startHand connection _ vira => submit hall table (.startHand connection vira) (fun _ => .done)
  | .playCard connection _ card => submit hall table (.playCard connection card) (fun _ => .done)
  | .leave connection =>
    match hall.ask table (.leave connection) with
    | (some (some matchId), hall) => (.left matchId, hall)
    | (_, hall) => (.done, hall)

/-- The stage after no reply has come: only who wanted to leave gives up at once. -/
def unanswered (errand : Errand) (handle : Handle) : Option Stage :=
  match errand with
  | .leave _ => none
  | _ => some (.retiring handle.matchId)

/-- Whether the queue of an errand, if it comes with one, was opened. -/
def isKnown (errand : Errand) (floor : Floor) : Bool :=
  match errand with
  | .join _ _ _ queue => queue < floor.opened
  | _ => true

end Errand

/-- The stage after a reply; there is none when the call is over. -/
def Reply.next (reply : Reply) (handle : Handle) : Option Stage :=
  match reply with
  | .seated _ => none
  | .done => none
  | .refused => some (.retiring handle.matchId)
  | .left matchId => some (.retiring matchId)

/-- What may happen next: a call begins or goes on, a table takes the first letter from its inbox, or
a player opens a queue, takes the events out of one or hangs up. -/
inductive Move where
  | begin (number : Nat) (errand : Errand)
  | advance (number : Nat)
  | serve (table : TableId)
  | openQueue (capacity : Nat)
  | drain (queue : QueueId)
  | hangUp (queue : QueueId)

namespace Crowd

/-- An empty hall, over any archive. -/
def empty (archive : Archive) (dealer : Dealer) (rollCall : RollCall := .byName) : Crowd :=
  ⟨.empty (.empty archive dealer rollCall), .empty, .empty⟩

/-- The letters that wait at a table. -/
def inbox (crowd : Crowd) (table : TableId) : List Letter := (crowd.inboxes.get? table).getD []

/-- Whether a table can take no letter now. -/
def isStuffed (crowd : Crowd) (table : TableId) : Bool := inboxCapacity ≤ (crowd.inbox table).length

/-- Whether a call holds the registry while it waits for room in an inbox. -/
def isLocked (crowd : Crowd) : Bool :=
  crowd.calls.values.any (fun progress => progress.stage matches .dismissing _)

/-- Puts a letter into the inbox of a table. -/
def post (crowd : Crowd) (table : TableId) (letter : Letter) : Crowd :=
  { crowd with inboxes := crowd.inboxes.insert table (crowd.inbox table ++ [letter]) }

/-- A call comes to another stage, or is over. -/
def goOn (crowd : Crowd) (number : Nat) (errand : Errand) (stage : Option Stage) : Crowd :=
  { crowd with
    calls :=
      match stage with
      | some stage => crowd.calls.insert number ⟨errand, stage⟩
      | none => crowd.calls.erase number }

/-- The next step of a call, unless it has to wait. -/
def advance (crowd : Crowd) (number : Nat) (progress : Progress) : Option Crowd :=
  let errand := progress.errand
  match progress.stage with
  | .begun =>
    match errand.target crowd.hall with
    | .ok matchId => some (crowd.goOn number errand (some (.finding matchId)))
    | .error _ => some (crowd.goOn number errand none)
  | .finding matchId =>
    if crowd.isLocked then none
    else
      match crowd.hall.running? matchId with
      | some handle => some (crowd.goOn number errand (some (.sending handle)))
      | none => some (crowd.goOn number errand (some (.checking matchId)))
  | .checking matchId =>
    let (answer, hall) := (Hall.ofService (Service.doesExist matchId)).apply crowd.hall
    let stage := if answer matches .ok true then some (.opening matchId) else none
    some (({ crowd with hall } : Crowd).goOn number errand stage)
  | .opening matchId =>
    if crowd.isLocked then none
    else
      let (handle, hall) := crowd.hall.runningOrOpen matchId
      some (({ crowd with hall } : Crowd).goOn number errand (some (.sending handle)))
  | .sending handle =>
    if !crowd.hall.isRunning handle.table then
      some (crowd.goOn number errand (errand.unanswered handle))
    else if crowd.isStuffed handle.table then none
    else
      some ((crowd.post handle.table (.errand number errand)).goOn number errand
        (some (.waiting handle)))
  | .waiting handle =>
    if crowd.hall.isRunning handle.table then none
    else some (crowd.goOn number errand (errand.unanswered handle))
  | .retiring matchId =>
    if crowd.isLocked then none
    else if crowd.hall.floor.lobby.hasRoom matchId then some (crowd.goOn number errand none)
    else
      match crowd.hall.registry.get? matchId with
      | none => some (crowd.goOn number errand none)
      | some table =>
        let hall := { crowd.hall with registry := crowd.hall.registry.erase matchId }
        some (({ crowd with hall } : Crowd).goOn number errand (some (.dismissing table)))
  | .dismissing table =>
    if !crowd.hall.isRunning table then some (crowd.goOn number errand none)
    else if crowd.isStuffed table then none
    else some ((crowd.post table .close).goOn number errand none)

/-- What is left in the inbox of a table: nothing, once it is closed. -/
def leaveLetters (crowd : Crowd) (table : TableId) (letters : List Letter) : Crowd :=
  let letters := if crowd.hall.isRunning table then letters else []
  { crowd with inboxes := crowd.inboxes.insert table letters }

/-- The reply reaches the call that waits for it. -/
def receive (crowd : Crowd) (number : Nat) (reply : Reply) : Crowd :=
  match crowd.calls.get? number with
  | some ⟨errand, .waiting handle⟩ => crowd.goOn number errand (reply.next handle)
  | _ => crowd

/-- A table takes the first letter from its inbox. -/
def serve (crowd : Crowd) (table : TableId) : Option Crowd :=
  if !crowd.hall.isRunning table then none
  else
    match crowd.inbox table with
    | [] => none
    | .close :: rest =>
      let hall := (crowd.hall.ask table .close).2
      some (({ crowd with hall } : Crowd).leaveLetters table rest)
    | .errand number errand :: rest =>
      let (reply, hall) := errand.deliver table crowd.hall
      some ((({ crowd with hall } : Crowd).leaveLetters table rest).receive number reply)

/-- A change of the floor. -/
def onFloor (crowd : Crowd) (update : Floor → Floor) : Crowd :=
  { crowd with hall := { crowd.hall with floor := update crowd.hall.floor } }

/-- The crowd after a move, if it can be made. -/
def next (crowd : Crowd) (move : Move) : Option Crowd :=
  match move with
  | .begin number errand =>
    if crowd.calls.contains number || !errand.isKnown crowd.hall.floor then none
    else some (crowd.goOn number errand (some .begun))
  | .advance number => (crowd.calls.get? number).bind (crowd.advance number)
  | .serve table => crowd.serve table
  | .openQueue capacity => some (crowd.onFloor (fun floor => (floor.openQueue capacity).2))
  | .drain queue => some (crowd.onFloor (fun floor => (floor.drain queue).2))
  | .hangUp queue => some (crowd.onFloor (fun floor => floor.hangUp queue))

/-- Whether no call is in flight, and no letter waits. -/
def isQuiet (crowd : Crowd) : Bool :=
  crowd.calls.entries.isEmpty && crowd.inboxes.values.all List.isEmpty

end Crowd

end TrucoPaulista
