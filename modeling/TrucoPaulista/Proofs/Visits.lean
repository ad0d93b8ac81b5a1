import TrucoPaulista.Proofs.Ground
import TrucoPaulista.Server

namespace TrucoPaulista

namespace Action

/-- A step that begins with something that leaves the state alone. -/
theorem Keeps.yields_bind {σ ε α β : Type} {s : σ} {answered : α → σ → Prop}
    {refused : ε → σ → Prop} {first : Action σ ε β} {next : β → Action σ ε α} (still : first.Keeps id)
    (refusal : ∀ refusal, refused refusal s) (later : ∀ answer, (next answer).Yields s answered refused) :
    (first >>= next).Yields s answered refused := by
  have same : (first.apply s).2 = s := still s
  refine Action.yields_bind.mpr ?_
  constructor
  · intro answer s' applied
    obtain rfl : s' = s := (congrArg Prod.snd applied).symm.trans same
    exact later answer
  · intro failure s' applied
    obtain rfl : s' = s := (congrArg Prod.snd applied).symm.trans same
    exact refusal failure

/-- A step of which the answer is put otherwise. -/
theorem Yields.answering {σ ε α β : Type} {s : σ} {answered : α → σ → Prop} {refused : ε → σ → Prop}
    {action : Action σ ε β} {reply : β → α}
    (yields : action.Yields s (fun answer => answered (reply answer)) refused) :
    (action >>= fun answer => pure (reply answer)).Yields s answered refused := by
  refine yields_bind.mpr (yields.mono ?_ fun _ _ => id)
  intro answer s' holds
  exact yields_pure.mpr holds

theorem apply_answering {σ ε α β : Type} (action : Action σ ε β) (reply : β → α) (s : σ) :
    ((action >>= fun answer => pure (reply answer)).apply s).2 = (action.apply s).2 := by
  rw [apply_bind]
  rcases action.apply s with ⟨_ | _, _⟩ <;> rfl

end Action

/-- Whether no two connections were given one queue. -/
def Given.IsSole (given : Given) : Prop :=
  ∀ connection other queue, given connection = some queue → given other = some queue → connection = other

theorem Given.put_self {given : Given} {connection : ConnectionId} {queue : QueueId}
    (had : given connection = some queue) : given.put connection queue = given := by
  funext other
  unfold Given.put
  split
  next here => rw [here, had]
  next => rfl

namespace Floor

/-- The first few of the events that wait in a queue are delivered. -/
def deliver (floor : Floor) (queue : QueueId) (count : Nat) : Floor :=
  { floor with queues := floor.queues.modify queue (fun waiting =>
      { waiting with waiting := waiting.waiting.drop count }) }

theorem isOpen_modify (floor : Floor) (queue : QueueId) {change : EventQueue → EventQueue}
    (kept : ∀ waiting, (change waiting).isOpen = waiting.isOpen) (query : QueueId) :
    isOpen { floor with queues := floor.queues.modify queue change } query = floor.isOpen query := by
  unfold isOpen
  rw [Dict.get?_modify]
  by_cases same : query = queue
  · subst same
    cases floor.queues.get? query <;> simp [kept]
  · simp [same]

end Floor

namespace Hall

section Given

variable {hall : Hall} {given given' : Given}

theorem Attended.given_of_session (attended : hall.Attended given) {connection : ConnectionId}
    {session : Session} (found : hall.floor.lobby.session connection = some session) :
    ∃ queue, given connection = some queue := by
  have room := attended.mirrored.hasRoom_iff_session.mpr ⟨connection, session, found, rfl⟩
  obtain ⟨id, registered⟩ := Option.isSome_iff_exists.mp (attended.rooms session.matchId room)
  obtain ⟨t, _, name, _, seats⟩ := attended.table session.matchId id registered
  obtain ⟨queue, had, _⟩ := seats.served connection session found name.symm
  exact ⟨queue, had⟩

/-- It does not matter which queues those were given that sit nowhere. -/
theorem Tidy.of_given (tidy : hall.Tidy given) (same : ∀ connection session,
      hall.floor.lobby.session connection = some session → given' connection = given connection) :
    hall.Tidy given' := by
  refine ⟨⟨tidy.attended.mirrored, ?_, tidy.attended.rooms, tidy.attended.fresh⟩, tidy.needed⟩
  intro matchId id registered
  obtain ⟨t, found, name, valid, seats⟩ := tidy.attended.table matchId id registered
  refine ⟨t, found, name, valid, ?_, ?_, seats.shut⟩
  · intro connection queue told
    obtain ⟨had, session, seated, here⟩ := seats.seated connection queue told
    exact ⟨(same connection session seated).trans had, session, seated, here⟩
  · intro connection session seated here
    obtain ⟨queue, had, listens⟩ := seats.served connection session seated here
    exact ⟨queue, (same connection session seated).trans had, listens⟩

end Given

end Hall

namespace Server

/-- The server with another floor. -/
def onFloor {ρ : Type} (server : Server ρ) (floor : Floor ρ) : Server ρ :=
  { server with hall := { server.hall with floor } }

/-- The server once a visitor's limiter has counted what the visitor sent. -/
def charge {ρ : Type} (server : Server ρ) (connection : ConnectionId) (visitor : Visitor)
    (limiter : RateLimiter) : Server ρ :=
  { server with visitors := server.visitors.insert connection { visitor with limiter } }

/-- The queues over which the visitors are told of everything. -/
def given (server : Server) : Given := fun connection => (server.visitors.get? connection).map Visitor.queue

/-- What a server becomes over an archive in memory that never fails, while visitors come, send
something, take the events that wait for them, one by one or all of them, take no more of them, and go,
and others look at the matches or create some. What is sent is dealt with before anything else is. -/
inductive Run : Server → Prop where
  | opened (defaultPoints : UInt32) (dealer : Dealer) (rollCall : RollCall) :
      Run (.empty defaultPoints dealer rollCall)
  | connected {server : Server} (before : Run server) (connection : ConnectionId)
      (fresh : server.visitors.get? connection = none) (token : Option String) :
      Run (server.connect connection token)
  | received {server : Server} (before : Run server) (connection : ConnectionId) (now : Nat)
      (frame : Frame) : Run (server.receive connection now frame)
  | disconnected {server : Server} (before : Run server) (connection : ConnectionId) :
      Run (server.disconnect connection)
  | collected {server : Server} (before : Run server) (connection : ConnectionId) :
      Run (server.collect connection).2
  | delivered {server : Server} (before : Run server) (queue : QueueId) (count : Nat) :
      Run (server.onFloor (server.hall.floor.deliver queue count))
  | hungUp {server : Server} (before : Run server) (queue : QueueId) :
      Run (server.onFloor (server.hall.floor.hangUp queue))
  | created {server : Server} (before : Run server) (points : Option Int64) :
      Run (server.createMatch points).2
  | viewed {server : Server} (before : Run server) (text : String) : Run (server.viewState text).2
  | counted {server : Server} (before : Run server) : Run server.activeMatches.2

/-- One of the things that happen to a server, whichever calls of the archive fail. -/
inductive Step (server : Server) : Server → Prop where
  | connected (connection : ConnectionId) (fresh : server.visitors.get? connection = none)
      (token : Option String) : Step server (server.connect connection token)
  | received (connection : ConnectionId) (now : Nat) (frame : Frame) :
      Step server (server.receive connection now frame)
  | disconnected (connection : ConnectionId) : Step server (server.disconnect connection)
  | collected (connection : ConnectionId) : Step server (server.collect connection).2
  | delivered (queue : QueueId) (count : Nat) :
      Step server (server.onFloor (server.hall.floor.deliver queue count))
  | hungUp (queue : QueueId) : Step server (server.onFloor (server.hall.floor.hangUp queue))
  | created (points : Option Int64) : Step server (server.createMatch points).2
  | viewed (text : String) : Step server (server.viewState text).2
  | counted : Step server server.activeMatches.2

/-- Whether a server is as it should be between two calls: the hall is tidy, every visitor has a queue of
their own, and no call of the archive fails. -/
structure Sound (server : Server) : Prop where
  tidy : server.hall.Tidy server.given
  sole : server.given.IsSole
  known : ∀ connection queue, server.given connection = some queue → queue < server.hall.floor.opened
  faultless : ∀ number kind, server.hall.floor.archive.fault number kind = none

/-- The queues of the visitors that have a token. -/
def ticketed (server : Server) : Given := fun connection =>
  (server.visitors.get? connection).bind (fun visitor => visitor.token.map (fun _ => visitor.queue))

/-- Whether a server is as it should be between two calls, where only visitors with a token count in the
hall and the archive fails as it was bound to. -/
structure Settled (fault : Nat → ArchiveCall → Option ArchiveError) (server : Server) : Prop where
  tidy : server.hall.Tidy server.ticketed
  sole : server.given.IsSole
  known : ∀ connection queue, server.given connection = some queue → queue < server.hall.floor.opened
  fails : server.hall.floor.archive.fault = fault

/-- The call of the hall to which a command of a visitor comes, if it comes to one. -/
def call? (server : Server) (connection : ConnectionId) (visitor : Visitor) :
    Command → Option (Sigma Call)
  | .createMatch points => some ⟨_, .createMatch (server.pointsOr points)⟩
  | .joinMatch text =>
    visitor.token.map (fun token => ⟨_, .join text connection token visitor.queue⟩)
  | .setReady ready => visitor.token.map (fun _ => ⟨_, .setReady connection ready⟩)
  | .startHand text words => visitor.token.bind (fun _ =>
    (words.mapM Request.vira).toOption.map (fun vira => ⟨_, .startHand connection text vira⟩))
  | .playCard text words => visitor.token.bind (fun _ =>
    (Request.card words).toOption.map (fun card => ⟨_, .playCard connection text card⟩))
  | .getState text => some ⟨_, .viewState text⟩

section Perform

variable (server : Server) (connection : ConnectionId) (visitor : Visitor) (command : Command)

theorem keeps_requireToken {β : Type} {view : Hall → β} : (requireToken visitor).Keeps view := by
  unfold requireToken
  split
  next => exact Action.keeps_pure _
  next => exact Action.keeps_throw _

theorem hall_requireToken {α : Type} (next : String → HallStep α) (hall : Hall) :
    ((requireToken visitor >>= next).apply hall).2 =
      visitor.token.elim hall (fun token => ((next token).apply hall).2) := by
  rw [Action.apply_bind]
  unfold requireToken
  cases visitor.token <;> rfl

theorem hall_ofExcept {α β : Type} (read : Except Refusal β) (next : β → HallStep α) (hall : Hall) :
    ((Action.ofExcept read >>= next).apply hall).2 =
      read.toOption.elim hall (fun answer => ((next answer).apply hall).2) := by
  rw [Action.apply_bind]
  cases read <;> rfl

/-- What a command makes of the hall is what the call makes of it. -/
theorem perform_hall (hall : Hall) : ((server.perform connection visitor command).apply hall).2 =
    (server.call? connection visitor command).elim hall (fun call => (hall.perform call.2).2) := by
  cases command with
  | createMatch | getState =>
    rw [perform, Action.apply_answering]
    rfl
  | joinMatch | setReady =>
    rw [perform, hall_requireToken, call?, Option.elim_map]
    simp only [Action.apply_answering]
    rfl
  | startHand | playCard =>
    rw [perform, hall_requireToken, call?]
    cases visitor.token with
    | none => rfl
    | some token =>
      rw [Option.bind_some, Option.elim_map, Option.elim_some, hall_ofExcept]
      simp only [Action.apply_answering]
      rfl

theorem createMatch_perform (points : Option Int64) : (server.createMatch points).2 =
    { server with hall := (server.hall.perform (.createMatch (server.pointsOr points))).2 } := by
  unfold createMatch Hall.perform
  rfl

theorem viewState_perform (text : String) : (server.viewState text).2 =
    { server with hall := (server.hall.perform (.viewState text)).2 } := by
  unfold viewState Hall.perform
  rfl

theorem keeps_perform : (server.perform connection visitor command).Keeps Hall.ground := by
  intro hall
  rw [perform_hall]
  cases server.call? connection visitor command with
  | none => rfl
  | some call => exact Hall.ground_perform call.2 hall

variable {server connection visitor command}

/-- A visitor comes to a hall with a queue only to sit down, and only with a token. -/
theorem free_or_join {call : Sigma Call} (comes : server.call? connection visitor command = some call) :
    call.2.queue? = none ∨ ∃ text token, visitor.token = some token ∧
      call = ⟨_, .join text connection token visitor.queue⟩ := by
  cases command with
  | joinMatch text =>
    obtain ⟨token, ticket, rfl⟩ := Option.map_eq_some_iff.mp comes
    exact Or.inr ⟨text, token, ticket, rfl⟩
  | createMatch | getState =>
    obtain rfl := Option.some.inj comes
    exact Or.inl rfl
  | setReady ready =>
    obtain ⟨_, _, rfl⟩ := Option.map_eq_some_iff.mp comes
    exact Or.inl rfl
  | startHand | playCard =>
    obtain ⟨_, _, read⟩ := Option.bind_eq_some_iff.mp comes
    obtain ⟨_, _, rfl⟩ := Option.map_eq_some_iff.mp read
    exact Or.inl rfl

end Perform

section Visitors

variable {server : Server} {connection : ConnectionId} {visitor : Visitor}

theorem given_of_visitor (found : server.visitors.get? connection = some visitor) :
    server.given connection = some visitor.queue := by
  unfold given
  rw [found, Option.map_some]

theorem given_insert (connection other : ConnectionId) (visitor : Visitor) :
    given { server with visitors := server.visitors.insert connection visitor } other =
      if other = connection then some visitor.queue else server.given other := by
  unfold given
  rw [Dict.get?_insert]
  split <;> rfl

theorem given_charge (found : server.visitors.get? connection = some visitor) (limiter : RateLimiter) :
    (server.charge connection visitor limiter).given = server.given := by
  funext other
  refine (given_insert connection other _).trans ?_
  split
  next here => simp [given, here, found]
  next => rfl

theorem ticketed_eq_some {queue : QueueId} : server.ticketed connection = some queue ↔
    ∃ visitor, server.visitors.get? connection = some visitor ∧ visitor.token.isSome ∧
      visitor.queue = queue := by
  simp only [ticketed, Option.bind_eq_some_iff, Option.map_eq_some_iff, Option.isSome_iff_exists]
  constructor
  · rintro ⟨visitor, found, token, ticket, same⟩
    exact ⟨visitor, found, ⟨token, ticket⟩, same⟩
  · rintro ⟨visitor, found, ⟨token, ticket⟩, same⟩
    exact ⟨visitor, found, token, ticket, same⟩

theorem ticketed_of_visitor (found : server.visitors.get? connection = some visitor)
    (ticket : visitor.token.isSome) : server.ticketed connection = some visitor.queue :=
  ticketed_eq_some.mpr ⟨visitor, found, ticket, rfl⟩

theorem given_of_ticketed {queue : QueueId} (had : server.ticketed connection = some queue) :
    server.given connection = some queue := by
  obtain ⟨visitor, found, _, rfl⟩ := ticketed_eq_some.mp had
  exact given_of_visitor found

theorem ticketed_congr {server' : Server}
    (same : server'.visitors.get? connection = server.visitors.get? connection) :
    server'.ticketed connection = server.ticketed connection := by
  unfold ticketed
  rw [same]

theorem ticketed_charge (found : server.visitors.get? connection = some visitor) (limiter : RateLimiter) :
    (server.charge connection visitor limiter).ticketed = server.ticketed := by
  funext other
  by_cases same : other = connection
  · simp [ticketed, charge, same, found]
  · exact ticketed_congr ((Dict.get?_insert _ _ _ _).trans (if_neg same))

/-- What holds of a server at whatever point it has come to with something that a connection has
sent, holds when it is done with it. -/
theorem receive_keeps (holds : Server → Prop) {now : Nat} {frame : Frame} (before : holds server)
    (gone : holds (server.disconnect connection))
    (heard : ∀ visitor, server.visitors.get? connection = some visitor →
      (∀ server' event, holds server' → holds (server'.reply visitor event)) ∧
      (∀ limiter, holds (server.charge connection visitor limiter)) ∧
      ∀ limiter content, frame = .text content →
        holds ((server.charge connection visitor limiter).answer connection visitor content).2) :
    holds (server.receive connection now frame) := by
  unfold receive
  split
  next => exact before
  next visitor found =>
    obtain ⟨replied, charged, answered⟩ := heard visitor found
    cases frame with
    | ping data =>
      dsimp only
      split
      next => exact before
      next => exact gone
    | binary => exact replied server malformed before
    | text content =>
      have charged := charged (visitor.limiter.check now).2
      have answered := answered (visitor.limiter.check now).2 content rfl
      dsimp only
      split
      next => exact replied _ _ charged
      next =>
        split
        next event _ => exact replied _ event answered
        next => exact answered

end Visitors

namespace Settled

variable {fault : Nat → ArchiveCall → Option ArchiveError} {server : Server}
  (settled : server.Settled fault)

include settled

/-- Who sits somewhere has a token. -/
theorem ticketed_of_session {connection : ConnectionId} {session : Session}
    (found : server.hall.floor.lobby.session connection = some session) :
    ∃ queue, server.ticketed connection = some queue :=
  settled.tidy.attended.given_of_session found

/-- What happens in the hall while the visitors stay the same. -/
theorem inHall {hall : Hall} (tidy : hall.Tidy server.ticketed)
    (ground : hall.ground = server.hall.ground) : Settled fault { server with hall } where
  tidy := tidy
  sole := settled.sole
  known connection queue had := by
    have opened : hall.floor.opened = server.hall.floor.opened := congrArg Ground.opened ground
    exact (settled.known connection queue had).trans_eq opened.symm
  fails := (congrArg Ground.fault ground).trans settled.fails

theorem called {α : Type} (call : Call α) (free : call.queue? = none) :
    Settled fault { server with hall := (server.hall.perform call).2 } := by
  have tidy := settled.tidy.perform call (by simp [free])
  have same : call.given (server.hall.perform call).1 server.ticketed = server.ticketed := by
    cases call with
    | join => cases free
    | _ => rfl
  rw [same] at tidy
  exact settled.inHall tidy (Hall.ground_perform call server.hall)

/-- What becomes of the queues, when nobody listens again who has hung up. -/
theorem onQueues {queues : Dict QueueId EventQueue}
    (isOpen : ∀ queue, Floor.isOpen { server.hall.floor with queues } queue →
      server.hall.floor.isOpen queue) :
    (server.onFloor { server.hall.floor with queues }).Settled fault where
  tidy := settled.tidy.onFloor rfl le_rfl fun queue _ => isOpen queue
  sole := settled.sole
  known := settled.known
  fails := settled.fails

/-- A server stays settled whatever becomes of the events in a queue. -/
theorem onQueue (queue : QueueId) {change : EventQueue → EventQueue}
    (kept : ∀ waiting, (change waiting).isOpen = waiting.isOpen) :
    (server.onFloor { server.hall.floor with
      queues := server.hall.floor.queues.modify queue change }).Settled fault :=
  settled.onQueues fun query opens =>
    (server.hall.floor.isOpen_modify queue kept query).symm.trans opens

theorem hungUp (queue : QueueId) :
    (server.onFloor (server.hall.floor.hangUp queue)).Settled fault := by
  refine settled.onQueues fun query opens => ?_
  have opens' : (server.hall.floor.hangUp queue).isOpen query := opens
  rw [Floor.isOpen_hangUp, Bool.and_eq_true] at opens'
  exact opens'.2

theorem reply (visitor : Visitor) (event : Event) : (server.reply visitor event).Settled fault := by
  refine settled.onQueue visitor.queue fun waiting => ?_
  unfold EventQueue.push
  split <;> rfl

theorem collect (connection : ConnectionId) : (server.collect connection).2.Settled fault := by
  unfold Server.collect
  split
  next => exact settled
  next visitor _ =>
    have tidy := settled.tidy.drain visitor.queue
    have ground : (server.hall.floor.drain visitor.queue).2.ground = server.hall.floor.ground := by
      have opens := funext (server.hall.floor.isOpen_drain visitor.queue)
      unfold Floor.ground
      rw [opens]
      unfold Floor.drain
      split <;> rfl
    exact settled.inHall tidy ground

theorem connect {connection : ConnectionId} (fresh : server.visitors.get? connection = none)
    (token : Option String) : (server.connect connection token).Settled fault := by
  -- queues are numbered as they are opened, so nobody was given the new one before
  have older : ∀ other queue, (server.connect connection token).given other = some queue →
      other = connection ∧ queue = server.hall.floor.opened ∨
        server.given other = some queue ∧ queue < server.hall.floor.opened := by
    intro other queue had
    have given' : (server.connect connection token).given other =
      if other = connection then some server.hall.floor.opened else server.given other :=
        given_insert connection other _
    rw [given'] at had
    split at had
    next same => exact Or.inl ⟨same, (Option.some.inj had).symm⟩
    next => exact Or.inr ⟨had, settled.known other queue had⟩
  refine ⟨?_, ?_, ?_, settled.fails⟩
  · refine (settled.tidy.openQueue eventCapacity).of_given ?_
    intro other session found
    obtain ⟨queue, had⟩ := settled.ticketed_of_session found
    have apart : other ≠ connection := by
      rintro rfl
      simp [ticketed, fresh] at had
    exact ticketed_congr ((Dict.get?_insert _ _ _ _).trans (if_neg apart))
  · intro first second queue had had'
    rcases older first queue had with ⟨rfl, new⟩ | ⟨old, less⟩ <;>
      rcases older second queue had' with ⟨rfl, new'⟩ | ⟨old', less'⟩
    · rfl
    · exact absurd new less'.ne
    · exact absurd new' less.ne
    · exact settled.sole first second queue old old'
  · intro other queue had
    rcases older other queue had with ⟨_, rfl⟩ | ⟨_, less⟩
    · exact Nat.lt_succ_self _
    · exact less.trans (Nat.lt_succ_self _)

theorem disconnect (connection : ConnectionId) : (server.disconnect connection).Settled fault := by
  unfold Server.disconnect
  split
  next => exact settled
  next visitor _ =>
    have left := settled.called (.leave connection) rfl
    obtain ⟨_, gone⟩ := settled.tidy.leave connection
    have hungUp := left.hungUp visitor.queue
    have stays : ∀ other queue,
        given { server with visitors := server.visitors.erase connection } other = some queue →
          server.given other = some queue := by
      intro other queue had
      unfold given at had
      rw [Dict.get?_erase] at had
      split at had
      next => cases had
      next => exact had
    -- the visitor has left the room first, so no table asks for the queue that is forgotten
    refine ⟨hungUp.tidy.of_given ?_, ?_, ?_, hungUp.fails⟩
    · intro other session found
      have apart : other ≠ connection := by
        rintro rfl
        cases gone.symm.trans found
      exact ticketed_congr ((Dict.get?_erase _ _ _).trans (if_neg apart))
    · exact fun first second queue had had' =>
        settled.sole first second queue (stays first queue had) (stays second queue had')
    · exact fun other queue had => hungUp.known other queue (stays other queue had)

theorem charge {connection : ConnectionId} {visitor : Visitor}
    (found : server.visitors.get? connection = some visitor) (limiter : RateLimiter) :
    (server.charge connection visitor limiter).Settled fault := by
  have given := given_charge found limiter
  constructor
  · rw [ticketed_charge found limiter]
    exact settled.tidy
  · rw [given]
    exact settled.sole
  · rw [given]
    exact settled.known
  · exact settled.fails

/-- A server stays settled after a command of one of its visitors. -/
theorem performed {connection : ConnectionId} {visitor : Visitor}
    (had : visitor.token.isSome → server.ticketed connection = some visitor.queue) (command : Command) :
    Settled fault
      { server with hall := ((server.perform connection visitor command).apply server.hall).2 } := by
  rw [perform_hall]
  cases comes : server.call? connection visitor command with
  | none => exact settled
  | some call =>
    rcases free_or_join comes with free | ⟨text, token, ticket, rfl⟩
    · exact settled.called call.2 free
    · have had' := had (Option.isSome_of_eq_some ticket)
      have known := settled.known connection visitor.queue (given_of_ticketed had')
      have joined := settled.tidy.join text connection token known
      rw [Given.put_self had'] at joined
      exact settled.inHall joined.apply (Hall.ground_perform _ server.hall)

theorem answer {connection : ConnectionId} {visitor : Visitor}
    (had : visitor.token.isSome → server.ticketed connection = some visitor.queue) (content : String) :
    (server.answer connection visitor content).2.Settled fault := by
  unfold Server.answer
  split
  next => exact settled
  next command _ => exact settled.performed had command

theorem receive (connection : ConnectionId) (now : Nat) (frame : Frame) :
    (server.receive connection now frame).Settled fault := by
  refine receive_keeps (Settled fault) settled (settled.disconnect connection) ?_
  intro visitor found
  have charged := fun limiter => settled.charge found limiter
  refine ⟨fun server' event settled' => settled'.reply visitor event, charged, ?_⟩
  intro limiter content _
  have had := ticketed_of_visitor found
  rw [← ticketed_charge found limiter] at had
  exact (charged limiter).answer had content

theorem step {server' : Server} (step : server.Step server') : server'.Settled fault := by
  cases step with
  | connected connection fresh token => exact settled.connect fresh token
  | received connection now frame => exact settled.receive connection now frame
  | disconnected connection => exact settled.disconnect connection
  | collected connection => exact settled.collect connection
  | delivered queue count => exact settled.onQueue queue fun _ => rfl
  | hungUp queue => exact settled.hungUp queue
  | created points =>
    rw [createMatch_perform]
    exact settled.called (.createMatch (server.pointsOr points)) rfl
  | viewed text =>
    rw [viewState_perform]
    exact settled.called (.viewState text) rfl
  | counted => exact settled.called .activeMatches rfl

end Settled

theorem Settled.sound {server : Server} (settled : server.Settled fun _ _ => none) : server.Sound where
  tidy := by
    refine settled.tidy.of_given ?_
    intro connection session found
    obtain ⟨queue, had⟩ := settled.ticketed_of_session found
    exact (given_of_ticketed had).trans had.symm
  sole := settled.sole
  known := settled.known
  faultless number kind := congrFun (congrFun settled.fails number) kind

theorem settled_founded (archive : Archive) (defaultPoints : UInt32) (dealer : Dealer)
    (rollCall : RollCall) : Settled archive.fault (.founded archive defaultPoints dealer rollCall) where
  tidy := Hall.tidy_empty archive dealer rollCall
  sole := nofun
  known := nofun
  fails := rfl

theorem Run.sound {server : Server} (run : Run server) : server.Sound := by
  suffices settled : server.Settled fun _ _ => none from settled.sound
  induction run with
  | opened defaultPoints dealer rollCall => exact settled_founded .empty defaultPoints dealer rollCall
  | connected _ connection fresh token settled => exact settled.step (.connected connection fresh token)
  | received _ connection now frame settled => exact settled.step (.received connection now frame)
  | disconnected _ connection settled => exact settled.step (.disconnected connection)
  | collected _ connection settled => exact settled.step (.collected connection)
  | delivered _ queue count settled => exact settled.step (.delivered queue count)
  | hungUp _ queue settled => exact settled.step (.hungUp queue)
  | created _ points settled => exact settled.step (.created points)
  | viewed _ text settled => exact settled.step (.viewed text)
  | counted _ settled => exact settled.step .counted

end Server

end TrucoPaulista
