import TrucoPaulista.Proofs.Alone
import TrucoPaulista.Proofs.Ledger
import TrucoPaulista.Proofs.Visits

namespace TrucoPaulista

/-- Whether every match in an archive is still there as it was, beside others that are new. -/
def Archive.Extends (isNew : Match → Prop) (archive archive' : Archive) : Prop :=
  ∀ matchId, archive'.stored.get? matchId = archive.stored.get? matchId ∨
    archive.stored.get? matchId = none ∧
      ∃ m, isNew m ∧ archive'.stored.get? matchId = some m.snapshot

namespace Archive

variable {isNew isNew' : Match → Prop} {archive mid archive' : Archive}

theorem extends_of_stored (same : archive'.stored = archive.stored) :
    archive.Extends isNew archive' := by
  intro matchId
  rw [same]
  exact Or.inl rfl

theorem Extends.trans (first : archive.Extends isNew mid) (second : mid.Extends isNew archive') :
    archive.Extends isNew archive' := by
  intro matchId
  rcases second matchId with same | ⟨absent, m, new, here⟩
  · rw [same]
    exact first matchId
  · rcases first matchId with same | ⟨_, m', _, there⟩
    · exact Or.inr ⟨same.symm.trans absent, m, new, here⟩
    · cases absent.symm.trans there

theorem Extends.mono (more : ∀ m, isNew m → isNew' m) (extends' : archive.Extends isNew archive') :
    archive.Extends isNew' archive' := by
  intro matchId
  refine (extends' matchId).imp_right ?_
  rintro ⟨absent, m, new, here⟩
  exact ⟨absent, m, more m new, here⟩

/-- A match that is created under a name that is free comes beside the others. -/
theorem extends_createMatch (points : Option Int64)
    (unused : archive.stored.contains (nameOf (archive.created + 1)) = false) :
    archive.Extends (fun m => Service.newMatch points = .ok m)
      ((Service.createMatch points).apply archive).2 := by
  rcases Service.createMatch_cases archive points with
    ⟨_, _, done⟩ | ⟨_, _, done⟩ | ⟨m, made, done⟩ <;> rw [done]
  · exact extends_of_stored rfl
  · exact extends_of_stored rfl
  · intro matchId
    by_cases same : matchId = nameOf (archive.created + 1)
    · rw [same]
      refine Or.inr ⟨?_, m, made, ?_⟩
      · simpa [Dict.contains] using unused
      · exact (Dict.get?_insert _ _ _ _).trans (if_pos rfl)
    · exact Or.inl ((Dict.get?_insert _ _ _ _).trans (if_neg same))

end Archive

theorem Service.viewState_apply (archive : Archive) (text : String) :
    ∃ count, ((viewState text).apply archive).2 = archive.after count := by
  rcases viewState_cases archive text with ⟨_, _, done⟩ | ⟨_, count, _, done⟩ | ⟨_, _, _, done⟩
  · exact ⟨1, congrArg Prod.snd done⟩
  · exact ⟨count, congrArg Prod.snd done⟩
  · exact ⟨1, congrArg Prod.snd done⟩

theorem AtTable.getState_apply (place : AtTable) : ∃ count, (getState.apply place).2 =
    { place with floor := { place.floor with archive := place.floor.archive.after count } } := by
  obtain ⟨count, called⟩ := Service.viewState_apply place.floor.archive place.table.matchId
  refine ⟨count, ?_⟩
  unfold getState
  rw [Action.apply_bind]
  simp only [Action.look, Action.apply_ofStep, onFloor, FloorStep.ofService, Action.apply_on, called]

namespace Hall

/-- The hall over another archive. -/
def onArchive (hall : Hall) (archive : Archive) : Hall :=
  { hall with floor := { hall.floor with archive } }

variable (hall : Hall)

theorem ask_getState (table : TableId) : ∃ count,
    (hall.ask table .getState).2 = hall.onArchive (hall.floor.archive.after count) := by
  unfold ask
  split
  next => exact ⟨0, rfl⟩
  next t takes =>
    obtain ⟨found, open'⟩ := Option.filter_eq_some_iff.mp takes
    obtain ⟨count, read⟩ := AtTable.getState_apply ⟨t, hall.floor⟩
    refine ⟨count, ?_⟩
    simp only [AtTable.handle, read]
    rw [if_neg (by simpa using open'), Dict.insert_self found]
    rfl

theorem hall_request {α : Type} (handle : Handle) (message : Message (Except Refusal α)) :
    ((request handle message).apply hall).2 = (hall.ask handle.table message).2 := by
  unfold request
  rw [Action.apply_ofStep]
  rcases hall.ask handle.table message with ⟨_ | reply, hall'⟩ <;> rfl

theorem hall_ofService {α : Type} (step : Service.Step α) :
    ((ofService step).apply hall).2 = hall.onArchive (step.apply hall.floor.archive).2 := rfl

/-- Who looks at a match only calls the archive. -/
theorem viewState_apply (text : String) : ∃ count,
    ((viewState text).apply hall).2 = hall.onArchive (hall.floor.archive.after count) := by
  unfold viewState
  rw [Action.apply_bind, Action.apply_ofExcept]
  cases Request.matchId text with
  | error refusal =>
    have unmoved : hall = hall.onArchive (hall.floor.archive.after 0) := rfl
    exact ⟨0, unmoved⟩
  | ok matchId =>
    dsimp only
    rw [Action.apply_bind]
    simp only [Action.look, Action.apply_ofStep]
    cases hall.running? matchId with
    | some handle =>
      dsimp only
      rw [hall_request]
      exact hall.ask_getState handle.table
    | none =>
      obtain ⟨count, called⟩ := Service.viewState_apply hall.floor.archive matchId
      refine ⟨count, ?_⟩
      dsimp only
      rw [hall_ofService, called]

theorem leave_of_unseated {connection : ConnectionId}
    (unseated : hall.floor.lobby.session connection = none) : (hall.leave connection).2 = hall := by
  rw [leave_send, unseated]

/-- No call but one to create a match stores a match that was not there. -/
theorem grows_perform {α : Type} (call : Call α) :
    Ledger.Grows hall.floor.archive (hall.perform call).2.floor.archive := by
  cases creating : call.creates with
  | true =>
    cases call with
    | createMatch points => exact Ledger.grows_createMatch hall.floor.archive points
    | _ => cases creating
  | false =>
    have steady : Floor.Steady fun floor =>
        (floor.archive.created, floor.archive.stored.contains) := by
      refine ⟨fun floor => ⟨fun _ _ => rfl, ?_⟩, fun _ _ => rfl, fun _ _ => rfl, fun _ _ => rfl, ?_⟩
      · intro archive matchId m present
        refine congrArg (Prod.mk _) (funext fun query => ?_)
        unfold Dict.contains at present ⊢
        by_cases same : query = matchId <;> simp [same, present]
      · intro floor queue event
        unfold Floor.send
        split <;> rfl
    have same := steady_perform steady call creating hall
    exact Or.inl ⟨congrArg Prod.fst same, congrFun (congrArg Prod.snd same)⟩

end Hall

namespace Server

variable {server server' : Server} {connection : ConnectionId} {visitor : Visitor}

theorem grows_of_archive (same : server'.hall.floor.archive = server.hall.floor.archive) :
    Ledger.Grows server.hall.floor.archive server'.hall.floor.archive := by
  rw [same]
  exact Ledger.grows_after _ 0

theorem grows_called {α : Type} (call : Call α) : Ledger.Grows server.hall.floor.archive
    { server with hall := (server.hall.perform call).2 }.hall.floor.archive :=
  server.hall.grows_perform call

theorem archive_drain (floor : Floor) (queue : QueueId) :
    (floor.drain queue).2.archive = floor.archive := by
  unfold Floor.drain
  split <;> rfl

theorem grows_disconnect (connection : ConnectionId) :
    Ledger.Grows server.hall.floor.archive (server.disconnect connection).hall.floor.archive := by
  unfold disconnect
  split
  next => exact Ledger.grows_after _ 0
  next =>
    have grows := server.hall.grows_perform (.leave connection)
    rw [Hall.perform] at grows
    exact grows

theorem grows_answer (connection : ConnectionId) (visitor : Visitor) (content : String) :
    Ledger.Grows server.hall.floor.archive
      (server.answer connection visitor content).2.hall.floor.archive := by
  unfold answer
  split
  next => exact Ledger.grows_after _ 0
  next command _ =>
    dsimp only
    rw [perform_hall]
    cases server.call? connection visitor command with
    | none => exact Ledger.grows_after _ 0
    | some call => exact server.hall.grows_perform call.2

theorem Step.grows (step : server.Step server') :
    Ledger.Grows server.hall.floor.archive server'.hall.floor.archive := by
  have still := Ledger.grows_after server.hall.floor.archive 0
  cases step with
  | connected connection fresh token => exact still
  | received connection now frame =>
    refine receive_keeps (fun server' => Ledger.Grows server.hall.floor.archive
      server'.hall.floor.archive) still (grows_disconnect connection) ?_
    intro visitor _
    refine ⟨fun _ _ => id, fun _ => still, ?_⟩
    intro limiter content _
    exact @grows_answer (server.charge connection visitor limiter) connection visitor content
  | disconnected connection => exact grows_disconnect connection
  | collected connection =>
    unfold collect
    split
    next => exact still
    next visitor _ => exact grows_of_archive (archive_drain _ _)
  | delivered queue count => exact still
  | hungUp queue => exact still
  | created points =>
    rw [createMatch_perform]
    exact grows_called (.createMatch (server.pointsOr points))
  | viewed text =>
    rw [viewState_perform]
    exact grows_called (.viewState text)
  | counted => exact still

/-- What a server becomes over an archive, whichever calls of the archive fail. No more matches were
created than the number says. -/
inductive Course : Nat → Server → Prop where
  | opened {count : Nat} {archive : Archive} (numbered : Ledger.Numbered archive count)
      (dealer : Dealer) (rollCall : RollCall) (defaultPoints : UInt32) :
      Course count (.founded archive defaultPoints dealer rollCall)
  | next {count : Nat} {server server' : Server} (before : Course count server)
      (step : server.Step server') : Course (count + 1) server'

theorem Course.settled {count : Nat} (course : Course count server) :
    ∃ fault, server.Settled fault := by
  induction course with
  | opened _ dealer rollCall defaultPoints =>
    exact ⟨_, settled_founded _ defaultPoints dealer rollCall⟩
  | next _ step settled =>
    obtain ⟨fault, settled⟩ := settled
    exact ⟨fault, settled.step step⟩

theorem Course.numbered {count : Nat} (course : Course count server) (few : count < UInt64.size) :
    Ledger.Numbered server.hall.floor.archive count := by
  induction course with
  | opened numbered => exact numbered
  | next _ step numbered => exact (numbered (by omega)).of_grows few step.grows

/-- Whether everything is as it was but for one connection and the archive: the rooms and everybody's
place in them, the tables and who is told of what happens there, which of them run, and the other
visitors with what waits for them. -/
structure Spares (connection : ConnectionId) (server server' : Server) : Prop where
  lobby : server'.hall.floor.lobby = server.hall.floor.lobby
  tables : server'.hall.tables = server.hall.tables
  running : ∀ matchId, server'.hall.running? matchId = server.hall.running? matchId
  points : server'.defaultPoints = server.defaultPoints
  visitors : ∀ other, other ≠ connection → server'.visitors.get? other = server.visitors.get? other
  queues : ∀ other visitor, other ≠ connection → server.visitors.get? other = some visitor →
    server'.hall.floor.queues.get? visitor.queue = server.hall.floor.queues.get? visitor.queue

/-- The server as it is after all that a connection has sent. -/
def hear (server : Server) (connection : ConnectionId) (frames : List (Nat × Frame)) : Server :=
  frames.foldl (fun server sent => server.receive connection sent.1 sent.2) server

/-- Whether a match is one that is created by something that was sent. -/
def Makes (server : Server) (frames : List (Nat × Frame)) (m : Match) : Prop :=
  ∃ now content points, (now, Frame.text content) ∈ frames ∧
    Command.parse? content = some (.createMatch points) ∧
    Service.newMatch (server.pointsOr points) = .ok m

section Spares

variable {mid : Server}

theorem Spares.refl (connection : ConnectionId) (server : Server) :
    Spares connection server server where
  lobby := rfl
  tables := rfl
  running _ := rfl
  points := rfl
  visitors _ _ := rfl
  queues _ _ _ _ := rfl

theorem Spares.trans (first : Spares connection server mid) (second : Spares connection mid server') :
    Spares connection server server' where
  lobby := second.lobby.trans first.lobby
  tables := second.tables.trans first.tables
  running matchId := (second.running matchId).trans (first.running matchId)
  points := second.points.trans first.points
  visitors other apart := (second.visitors other apart).trans (first.visitors other apart)
  queues other visitor apart found := by
    have found' := (first.visitors other apart).trans found
    exact (second.queues other visitor apart found').trans (first.queues other visitor apart found)

/-- What becomes of the queue of one visitor does not concern the others. -/
theorem Spares.onQueue (spares : Spares connection server mid) (sole : server.given.IsSole)
    (found : server.visitors.get? connection = some visitor) (change : EventQueue → EventQueue) :
    Spares connection server (mid.onFloor { mid.hall.floor with
      queues := mid.hall.floor.queues.modify visitor.queue change }) where
  lobby := spares.lobby
  tables := spares.tables
  running := spares.running
  points := spares.points
  visitors := spares.visitors
  queues other visitor' apart found' := by
    have away : visitor'.queue ≠ visitor.queue := by
      intro same
      have had := given_of_visitor found'
      rw [same] at had
      exact apart (sole other connection visitor.queue had (given_of_visitor found))
    refine Eq.trans ?_ (spares.queues other visitor' apart found')
    exact (Dict.get?_modify _ _ _ _).trans (if_neg away)

theorem Spares.onVisitors (spares : Spares connection server mid)
    {visitors : Dict ConnectionId Visitor}
    (same : ∀ other, other ≠ connection → visitors.get? other = mid.visitors.get? other) :
    Spares connection server { mid with visitors } where
  lobby := spares.lobby
  tables := spares.tables
  running := spares.running
  points := spares.points
  visitors other apart := (same other apart).trans (spares.visitors other apart)
  queues := spares.queues

theorem Spares.onArchive (spares : Spares connection server mid) (archive : Archive) :
    Spares connection server { mid with hall := mid.hall.onArchive archive } :=
  ⟨spares.lobby, spares.tables, spares.running, spares.points, spares.visitors, spares.queues⟩

end Spares

section Strangers

theorem token_of_ticketed (found : server.visitors.get? connection = some visitor)
    (stranger : server.ticketed connection = none) : visitor.token = none := by
  by_contra ticket
  cases (ticketed_of_visitor found (Option.isSome_iff_ne_none.mpr ticket)).symm.trans stranger

/-- All that comes of a command without a token is that a match is created. -/
theorem perform_of_stranger (stranger : visitor.token = none) (command : Command) (hall : Hall) :
    (∃ count, ((server.perform connection visitor command).apply hall).2 =
      hall.onArchive (hall.floor.archive.after count)) ∨
    ∃ points, command = .createMatch points ∧
      ((server.perform connection visitor command).apply hall).2 =
        hall.onArchive ((Service.createMatch (server.pointsOr points)).apply hall.floor.archive).2 := by
  have unmoved : hall = hall.onArchive (hall.floor.archive.after 0) := rfl
  rw [perform_hall]
  cases command with
  | createMatch points =>
    refine Or.inr ⟨points, rfl, ?_⟩
    rw [call?, Option.elim_some, Hall.perform]
    exact Hall.hall_ofService hall _
  | getState text =>
    refine Or.inl ?_
    rw [call?, Option.elim_some, Hall.perform]
    exact hall.viewState_apply text
  | joinMatch | setReady | startHand | playCard =>
    refine Or.inl ⟨0, ?_⟩
    rw [call?, stranger]
    exact unmoved

/-- A visitor without a token changes nothing but the archive, and that only by creating a match. -/
theorem answer_of_stranger (stranger : visitor.token = none) (content : String) : ∃ archive,
    (server.answer connection visitor content).2 =
        { server with hall := server.hall.onArchive archive } ∧
      (archive.stored = server.hall.floor.archive.stored ∨
        ∃ points, Command.parse? content = some (.createMatch points) ∧
          archive =
            ((Service.createMatch (server.pointsOr points)).apply server.hall.floor.archive).2) := by
  unfold answer
  cases read : Command.parse? content with
  | none => exact ⟨server.hall.floor.archive, rfl, Or.inl rfl⟩
  | some command =>
    rcases @perform_of_stranger server connection visitor stranger command server.hall with
      ⟨count, same⟩ | ⟨points, rfl, same⟩
    · refine ⟨server.hall.floor.archive.after count, ?_, Or.inl rfl⟩
      dsimp only
      rw [same]
    · refine ⟨_, ?_, Or.inr ⟨points, rfl, rfl⟩⟩
      dsimp only
      rw [same]

variable {fault : Nat → ArchiveCall → Option ArchiveError}

theorem Settled.leave_of_stranger (settled : server.Settled fault)
    (stranger : server.ticketed connection = none) : (server.hall.leave connection).2 = server.hall := by
  refine server.hall.leave_of_unseated ?_
  by_contra seated
  obtain ⟨session, found⟩ := Option.ne_none_iff_exists'.mp seated
  obtain ⟨queue, had⟩ := settled.ticketed_of_session found
  cases had.symm.trans stranger

theorem Settled.spares_disconnect (settled : server.Settled fault)
    (stranger : server.ticketed connection = none) :
    Spares connection server (server.disconnect connection) := by
  have spares := Spares.refl connection server
  unfold Server.disconnect
  split
  next => exact spares
  next visitor found =>
    rw [settled.leave_of_stranger stranger]
    refine (spares.onQueue settled.sole found _).onVisitors ?_
    intro other apart
    exact (Dict.get?_erase _ _ _).trans (if_neg apart)

theorem Settled.archive_disconnect (settled : server.Settled fault)
    (stranger : server.ticketed connection = none) :
    (server.disconnect connection).hall.floor.archive = server.hall.floor.archive := by
  unfold Server.disconnect
  split
  next => rfl
  next =>
    rw [settled.leave_of_stranger stranger]
    rfl

theorem Settled.spares_receive (settled : server.Settled fault)
    (stranger : server.ticketed connection = none) (now : Nat) (frame : Frame) :
    Spares connection server (server.receive connection now frame) := by
  have spares := Spares.refl connection server
  refine receive_keeps (Spares connection server) spares (settled.spares_disconnect stranger) ?_
  intro visitor found
  have charged : ∀ limiter, Spares connection server (server.charge connection visitor limiter) :=
    fun limiter => spares.onVisitors fun other apart =>
      (Dict.get?_insert _ _ _ _).trans (if_neg apart)
  refine ⟨fun _ event spares' => spares'.onQueue settled.sole found _, charged, ?_⟩
  intro limiter content _
  have token := token_of_ticketed found stranger
  obtain ⟨archive, answered, _⟩ :=
    @answer_of_stranger (server.charge connection visitor limiter) connection visitor token content
  rw [answered]
  exact (charged limiter).onArchive archive

theorem ticketed_receive (stranger : server.ticketed connection = none) (now : Nat) (frame : Frame) :
    (server.receive connection now frame).ticketed connection = none := by
  refine receive_keeps (fun server' => server'.ticketed connection = none) stranger ?_ ?_
  · unfold disconnect
    split
    next => exact stranger
    next => simp [ticketed, Dict.get?_erase]
  · intro visitor found
    have charged := fun limiter =>
      (congrFun (ticketed_charge found limiter) connection).trans stranger
    refine ⟨fun _ _ => id, charged, ?_⟩
    intro limiter content _
    unfold answer
    split
    next => exact charged limiter
    next => exact charged limiter

/-- A frame from a connection without a ticket stores at most a match that it asks for, beside the
others. -/
theorem Settled.extends_receive {count : Nat} (settled : server.Settled fault)
    (numbered : Ledger.Numbered server.hall.floor.archive count) (few : count + 1 < UInt64.size)
    (stranger : server.ticketed connection = none) (now : Nat) (frame : Frame) :
    server.hall.floor.archive.Extends (server.Makes [(now, frame)])
      (server.receive connection now frame).hall.floor.archive := by
  have still : server.hall.floor.archive.Extends (server.Makes [(now, frame)])
    server.hall.floor.archive := Archive.extends_of_stored rfl
  refine receive_keeps (fun server' => server.hall.floor.archive.Extends
    (server.Makes [(now, frame)]) server'.hall.floor.archive) still ?_ ?_
  · exact Archive.extends_of_stored (congrArg Archive.stored (settled.archive_disconnect stranger))
  · intro visitor found
    refine ⟨fun _ _ => id, fun _ => still, ?_⟩
    rintro limiter content rfl
    have token := token_of_ticketed found stranger
    obtain ⟨archive, answered, kept | ⟨points, read, rfl⟩⟩ :=
      @answer_of_stranger (server.charge connection visitor limiter) connection visitor token content
    · rw [answered]
      exact Archive.extends_of_stored kept
    · rw [answered]
      refine (Archive.extends_createMatch _ (numbered.unused few)).mono ?_
      intro m made
      exact ⟨now, content, points, List.mem_singleton_self _, read, made⟩

theorem Makes.mono {frames frames' : List (Nat × Frame)} {m : Match}
    (points : server'.defaultPoints = server.defaultPoints) (more : frames ⊆ frames')
    (makes : server'.Makes frames m) : server.Makes frames' m := by
  obtain ⟨now, content, asked, sent, read, made⟩ := makes
  refine ⟨now, content, asked, more sent, read, ?_⟩
  unfold pointsOr at made ⊢
  rwa [points] at made

/-- Whatever frames come from a connection without a ticket, it has none afterwards and everybody else
is spared. While there are numbers for new matches, the stored ones stay beside those it asked for. -/
theorem Course.hear {count : Nat} (course : Course count server)
    (stranger : server.ticketed connection = none) (frames : List (Nat × Frame)) :
    Course (count + frames.length) (server.hear connection frames) ∧
      (server.hear connection frames).ticketed connection = none ∧
      Spares connection server (server.hear connection frames) ∧
      (count + frames.length < UInt64.size → server.hall.floor.archive.Extends (server.Makes frames)
        (server.hear connection frames).hall.floor.archive) := by
  -- at every server on the way the connection is still without a token
  induction frames generalizing server count with
  | nil => exact ⟨course, stranger, .refl connection server, fun _ => Archive.extends_of_stored rfl⟩
  | cons sent later ih =>
    obtain ⟨now, frame⟩ := sent
    obtain ⟨fault, settled⟩ := course.settled
    have spares := settled.spares_receive stranger now frame
    have next := course.next (.received connection now frame)
    obtain ⟨course', stranger', spares', extends'⟩ := ih next (ticketed_receive stranger now frame)
    rw [List.length_cons, Nat.add_comm later.length 1, ← Nat.add_assoc]
    refine ⟨course', stranger', spares.trans spares', ?_⟩
    intro few
    have numbered := course.numbered (by omega)
    have first := settled.extends_receive numbered (by omega) stranger now frame
    have here : [(now, frame)] ⊆ (now, frame) :: later :=
      List.cons_subset.mpr ⟨List.mem_cons_self, List.nil_subset _⟩
    exact (first.mono fun m => .mono rfl here).trans
      ((extends' few).mono fun m => .mono spares.points (List.subset_cons_self _ later))

theorem normalizeToken_eq_none {asked : Option String}
    (blank : ∀ text ∈ asked, (Text.trim text).isEmpty) : normalizeToken asked = none := by
  cases asked with
  | none => rfl
  | some text =>
    have empty : Text.trim text = "" := by simpa using blank text rfl
    simp [normalizeToken, empty]

/-- Whatever is sent by somebody who came with no token or a blank one, and when that connection ends,
the rooms, the places in them and whose turn it is stay the same, as do the tables, those that run and
those that are told of what happens there, and nobody else hears anything. Until their numbers have run
out, the stored matches stay the same too, beside new ones that were asked for. -/
theorem Course.stranger_changes_nothing {count : Nat} (course : Course count server)
    (found : server.visitors.get? connection = some visitor) {asked : Option String}
    (opened : visitor.token = normalizeToken asked)
    (blank : ∀ text ∈ asked, (Text.trim text).isEmpty) (frames : List (Nat × Frame)) :
    let heard := server.hear connection frames
    ∀ server' ∈ [heard, heard.disconnect connection], Spares connection server server' ∧
      (count + frames.length < UInt64.size →
        server.hall.floor.archive.Extends (server.Makes frames) server'.hall.floor.archive) := by
  intro heard
  have stranger : server.ticketed connection = none := by
    simp [ticketed, found, opened, normalizeToken_eq_none blank]
  obtain ⟨course', stranger', spares, extends'⟩ := course.hear stranger frames
  obtain ⟨fault, settled⟩ := course'.settled
  have spares' := settled.spares_disconnect stranger'
  simp only [List.mem_cons, List.not_mem_nil, or_false]
  rintro server' (rfl | rfl)
  · exact ⟨spares, extends'⟩
  · refine ⟨spares.trans spares', ?_⟩
    rw [settled.archive_disconnect stranger']
    exact extends'

/-- Somebody whose token is blank creates a match, looks at the one at which a player sits, and is
refused a seat there. -/
theorem Course.stranger_changes_nothing_blank_token :
    let frames := [(0, Frame.text "\x7b\"type\":\"create-match\"\x7d"),
      (1, Frame.text "\x7b\"type\":\"get-state\",\"matchId\":\"match_1\"\x7d"),
      (2, Frame.text "\x7b\"type\":\"join-match\",\"matchId\":\"match_1\"\x7d"), (3, Frame.text "hello")]
    ∃ count server visitor, Course count server ∧ server.visitors.get? "b" = some visitor ∧
      visitor.token = normalizeToken (some " ") ∧ (Text.trim " ").isEmpty ∧
      (server.hall.floor.lobby.session "a").isSome ∧ (server.hall.running? "match_1").isSome ∧
      server.hall.floor.archive.stored.contains "match_2" = false ∧
      (server.hear "b" frames).hall.floor.archive.stored.contains "match_2" ∧
      ∀ server' ∈ [server.hear "b" frames, (server.hear "b" frames).disconnect "b"],
        Spares "b" server server' ∧
          server.hall.floor.archive.Extends (server.Makes frames) server'.hall.floor.archive := by
  intro frames
  have numbered : Ledger.Numbered .empty 0 :=
    ⟨Nat.le_refl 0, fun _ present => Bool.noConfusion present⟩
  have course := Course.opened numbered ⟨fun _ => .four, 0⟩ .byName 12
    |>.next (.created none)
    |>.next (.connected "a" (by decide +kernel) (some "ana"))
    |>.next (.received "a" 0 (.text "\x7b\"type\":\"join-match\",\"matchId\":\"match_1\"\x7d"))
    |>.next (.connected "b" (by decide +kernel) (some " "))
  obtain ⟨server, course, ticket, seated, running, absent, new⟩ : ∃ server, Course 4 server ∧
      ((server.visitors.get? "b").map Visitor.token = some (normalizeToken (some " "))) ∧
      (server.hall.floor.lobby.session "a").isSome ∧ (server.hall.running? "match_1").isSome ∧
      server.hall.floor.archive.stored.contains "match_2" = false ∧
      (server.hear "b" frames).hall.floor.archive.stored.contains "match_2" :=
    ⟨_, course, by decide +kernel, by decide +kernel, by decide +kernel, by decide +kernel,
      by decide +kernel⟩
  obtain ⟨visitor, found, opened⟩ := Option.map_eq_some_iff.mp ticket
  have blank : (Text.trim " ").isEmpty := by decide
  have spares := course.stranger_changes_nothing found opened (by simpa using blank) frames
  refine ⟨4, server, visitor, course, found, opened, blank, seated, running, absent, new, ?_⟩
  intro server' later
  obtain ⟨spares, extends'⟩ := spares server' later
  exact ⟨spares, extends' (by decide)⟩

end Strangers

end Server

end TrucoPaulista
