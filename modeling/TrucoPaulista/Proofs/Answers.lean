import TrucoPaulista.Proofs.Caller

namespace TrucoPaulista

/-- What a connection is told of a command that is carried out, by the floor before it and after it. -/
def Command.Tells (connection : ConnectionId) (floor floor' : Floor) : Command → List Event → Prop
  | .createMatch points, told => ∃ fallback matchId m, Service.newMatch (points.or fallback) = .ok m ∧
      floor'.archive.stored = floor.archive.stored.insert matchId m.snapshot ∧
      told = [.created matchId]
  | .joinMatch text, told => ∃ session, Request.matchId text = .ok session.matchId ∧
      floor'.lobby.session connection = some session ∧
      told = [(floor'.lobby.roomView session.matchId).announcement,
        .playerAssigned session.matchId session.seat session.seat.team session.seat.side]
  | .setReady _, told => ∃ session, floor'.lobby.session connection = some session ∧
      told = [(floor'.lobby.roomView session.matchId).announcement]
  | .startHand text _, told => ∃ matchId m h, floor'.archive.named text = .ok (matchId, m) ∧
      m.hand = some h ∧ told = [.handStarted matchId h.vira, m.announcement matchId,
        (floor'.lobby.roomView matchId).announcement]
  | .playCard text words, told => ∃ card m session, Request.card words = .ok card ∧
      floor'.archive.named text = .ok (session.matchId, m) ∧
      floor.lobby.session connection = some session ∧
      told = [.cardPlayed session.matchId session.seat session.seat.team card,
        m.announcement session.matchId, (floor'.lobby.roomView session.matchId).announcement]
  | .getState text, told => ∃ matchId m, floor.archive.named text = .ok (matchId, m) ∧
      told = [m.announcement matchId]

namespace RateLimiter

/-- A request that is not taken leaves no stamp in either window. -/
theorem check_refused {limiter limiter' : RateLimiter} {now : Nat} {limit : Limit}
    (checked : limiter.check now = (.error limit, limiter')) :
    limiter'.burst.stamps <:+ limiter.burst.stamps ∧
      limiter'.sustained.stamps <:+ limiter.sustained.stamps := by
  unfold check at checked
  dsimp only at checked
  split at checked
  next =>
    obtain rfl := (Prod.mk.inj checked).2
    exact ⟨List.dropWhile_suffix _, List.suffix_rfl⟩
  next =>
    split at checked
    next =>
      obtain rfl := (Prod.mk.inj checked).2
      exact ⟨List.dropWhile_suffix _, List.dropWhile_suffix _⟩
    next => cases checked

end RateLimiter

namespace Server

/-- Whether nothing has become of a hall but of its queues. -/
def Rests (server server' : Server) : Prop :=
  server'.hall = { server.hall with
    floor := { server.hall.floor with queues := server'.hall.floor.queues } }

/-- Whether the limiter of a visitor has counted nothing since. -/
def Uncharged (connection : ConnectionId) (visitor : Visitor) (server' : Server) : Prop :=
  ∃ limiter, server'.visitors.get? connection = some { visitor with limiter } ∧
    limiter.burst.stamps <:+ visitor.limiter.burst.stamps ∧
    limiter.sustained.stamps <:+ visitor.limiter.sustained.stamps

/-- What a visitor is told of a text, and what has become of the server then. -/
inductive Answers (server : Server) (connection : ConnectionId) (visitor : Visitor) (now : Nat)
    (content : String) (server' : Server) : List Event → Prop where
  | limited {limit : Limit} (checked : (visitor.limiter.check now).1 = .error limit)
      (rests : server.Rests server') (uncharged : Uncharged connection visitor server') :
      Answers server connection visitor now content server' [.error limit.message]
  | malformed (checked : (visitor.limiter.check now).1 = .ok ())
      (unread : Command.parse? content = none) (rests : server.Rests server') :
      Answers server connection visitor now content server' [.error "Invalid message format"]
  | refused {command : Command} {refusal : Refusal} (checked : (visitor.limiter.check now).1 = .ok ())
      (read : Command.parse? content = some command)
      (refused : ((server.perform connection visitor command).apply server.hall).1 = .error refusal)
      (records : server.hall.floor.SameRecords server'.hall.floor) :
      Answers server connection visitor now content server' [.error refusal.clientMessage]
  | carriedOut {command : Command} {reply : Option Event} {told : List Event}
      (checked : (visitor.limiter.check now).1 = .ok ()) (read : Command.parse? content = some command)
      (done : ((server.perform connection visitor command).apply server.hall).1 = .ok reply)
      (tells : command.Tells connection server.hall.floor server'.hall.floor told) :
      Answers server connection visitor now content server' told

section Answers

variable {server : Server} {connection : ConnectionId} {visitor : Visitor}

theorem waitingIn_reply (opens : server.hall.floor.isOpen visitor.queue) (event : Event) :
    (server.reply visitor event).hall.floor.waitingIn visitor.queue =
      server.hall.floor.waitingIn visitor.queue ++ [event] := by
  unfold Floor.isOpen at opens
  unfold Floor.waitingIn reply
  rw [Dict.get?_modify, if_pos rfl]
  cases found : server.hall.floor.queues.get? visitor.queue with
  | none => simp [found] at opens
  | some waiting =>
    rw [found, Option.any_some] at opens
    simp [EventQueue.push, opens]

theorem perform_charge (limiter : RateLimiter) (command : Command) :
    (server.charge connection visitor limiter).perform connection visitor command =
      server.perform connection visitor command := by
  cases command <;> rfl

variable (server) in
/-- A command that is carried out reaches the visitor by way of the room, and then by its reply. -/
theorem perform_told {hall : Hall} {given : Given} (tidy : hall.Tidy given)
    (roomy : given.IsRoomy hall.floor 3) (had : given connection = some visitor.queue)
    (known : visitor.queue < hall.floor.opened)
    (faultless : ∀ number kind, hall.floor.archive.fault number kind = none) (command : Command) :
    (server.perform connection visitor command).Yields hall
      (fun reply hall' => hall.floor.Gets visitor.queue hall'.floor
        (fun news => command.Tells connection hall.floor hall'.floor (news ++ reply.toList)))
      (fun _ hall' => hall.floor.Ignores visitor.queue hall'.floor) := by
  have ignores := Floor.Ignores.refl hall.floor visitor.queue
  cases command with
  | createMatch points =>
    have created := hall.createMatch_told visitor.queue (server.pointsOr points)
    refine (created.mono ?_ fun _ _ => id).answering
    rintro matchId hall' ⟨waiting, m, made, stored⟩
    exact ⟨[], waiting.trans (List.append_nil _).symm, _, matchId, m, made, stored, rfl⟩
  | joinMatch text =>
    refine (keeps_requireToken visitor).yields_bind (fun _ => ignores) fun token => ?_
    have joined := tidy.join_told roomy had known text token
    refine (joined.mono ?_ fun _ _ => id).answering
    rintro session hall' ⟨named, found, _, waiting, rfl⟩
    exact ⟨_, waiting, session, named, found, rfl⟩
  | setReady ready =>
    refine (keeps_requireToken visitor).yields_bind (fun _ => ignores) fun _ => ?_
    refine ((tidy.setReady_told roomy had ready).mono ?_ fun _ _ => id).answering
    rintro view hall' ⟨session, found, _, waiting, rfl⟩
    exact ⟨_, waiting, session, found, rfl⟩
  | startHand text words =>
    refine (keeps_requireToken visitor).yields_bind (fun _ => ignores) fun _ => ?_
    refine (Action.keeps_ofExcept _).yields_bind (fun _ => ignores) fun vira => ?_
    refine ((tidy.startHand_told roomy had faultless text vira).mono ?_ fun _ _ => id).answering
    rintro start hall' ⟨matchId, m, h, named, hand, _, waiting, rfl⟩
    exact ⟨_, waiting, matchId, m, h, named, hand, rfl⟩
  | playCard text words =>
    refine (keeps_requireToken visitor).yields_bind (fun _ => ignores) fun _ => ?_
    rw [Action.yields_bind]
    cases read : Request.card words with
    | error refusal => exact (Action.yields_iff_of_error rfl).mpr ignores
    | ok card =>
      refine (Action.yields_iff_of_ok rfl).mpr ?_
      refine ((tidy.playCard_told roomy had text card).mono ?_ fun _ _ => id).answering
      rintro played hall' ⟨m, session, named, found, _, waiting, rfl⟩
      exact ⟨_, waiting, card, m, session, read, named, found, rfl⟩
  | getState text =>
    refine (tidy.viewState_told text |>.mono ?_ fun _ _ => id).answering
    rintro view hall' ⟨ignores', matchId, m, named, rfl⟩
    exact ⟨[], ignores'.waiting.trans (List.append_nil _).symm, matchId, m, named, rfl⟩

section Receive

variable {now : Nat} {content : String} {limiter : RateLimiter}
  (found : server.visitors.get? connection = some visitor)

include found

/-- A visitor with too many messages is told so, whatever the message says. -/
theorem receive_limited (opens : server.hall.floor.isOpen visitor.queue) {limit : Limit}
    (checked : visitor.limiter.check now = (.error limit, limiter)) :
    server.hall.floor.Gets visitor.queue (server.receive connection now (.text content)).hall.floor
      (server.Answers connection visitor now content
        (server.receive connection now (.text content))) := by
  have stands : server.receive connection now (.text content) =
      (server.charge connection visitor limiter).reply visitor (.error limit.message) := by
    simp [receive, found, checked, charge]
  have charged : (server.receive connection now (.text content)).visitors.get? connection =
      some { visitor with limiter } := by
    rw [stands]
    exact (Dict.get?_insert _ _ _ _).trans (if_pos rfl)
  have uncharged := RateLimiter.check_refused checked
  refine ⟨_, ?_, .limited (congrArg Prod.fst checked) ?_ ⟨limiter, charged, uncharged⟩⟩
  · rw [stands]
    exact waitingIn_reply opens _
  · rw [stands]
    rfl

variable (checked : visitor.limiter.check now = (.ok (), limiter))

include checked

/-- A text that cannot be read as a command is answered with a complaint about its form. -/
theorem receive_malformed (opens : server.hall.floor.isOpen visitor.queue)
    (unread : Command.parse? content = none) :
    server.hall.floor.Gets visitor.queue (server.receive connection now (.text content)).hall.floor
      (server.Answers connection visitor now content
        (server.receive connection now (.text content))) := by
  have stands : server.receive connection now (.text content) =
      (server.charge connection visitor limiter).reply visitor Server.malformed := by
    simp [receive, found, checked, charge, answer, unread]
  rw [stands]
  exact ⟨_, waitingIn_reply opens _, .malformed (congrArg Prod.fst checked) unread rfl⟩

variable {command : Command} (read : Command.parse? content = some command)

include read

theorem receive_command : server.receive connection now (.text content) =
    let (outcome, hall) := (server.perform connection visitor command).apply server.hall
    let server' := { server.charge connection visitor limiter with hall }
    match outcome with
    | .error refusal => server'.reply visitor (.error refusal.clientMessage)
    | .ok none => server'
    | .ok (some event) => server'.reply visitor event := by
  -- a command does not look at the limiter that has counted it
  have same := @perform_charge server connection visitor limiter command
  unfold charge at same
  simp only [receive, found, checked, answer, read]
  rw [same]
  rcases (server.perform connection visitor command).apply server.hall with
    ⟨refusal | _ | event, hall⟩ <;> rfl

/-- A visitor whose command is performed is told what comes of it, in a queue with three free places. -/
theorem Sound.receive_performed (sound : server.Sound) (opens : server.hall.floor.isOpen visitor.queue)
    (roomy : server.given.IsRoomy server.hall.floor 3) :
    server.hall.floor.Gets visitor.queue (server.receive connection now (.text content)).hall.floor
      (server.Answers connection visitor now content
        (server.receive connection now (.text content))) := by
  have had := given_of_visitor found
  have known := sound.known connection visitor.queue had
  have told := server.perform_told sound.tidy roomy had known sound.faultless command
  have ground := server.keeps_perform connection visitor command server.hall
  have stands := receive_command found checked read
  have admitted := congrArg Prod.fst checked
  rcases performed : (server.perform connection visitor command).apply server.hall with
    ⟨refusal | reply, hall⟩ <;> rw [performed] at ground stands <;> rw [stands]
  all_goals
    have done := congrArg Prod.fst performed
    have opens' : hall.floor.isOpen visitor.queue :=
      (congrFun (congrArg Ground.isOpen ground) visitor.queue).trans opens
    have replied := @waitingIn_reply { server.charge connection visitor limiter with hall } visitor opens'
  · have ignores := told.refusal refusal hall performed
    have waiting := congrArg (· ++ [Event.error refusal.clientMessage]) ignores.waiting
    have records := ignores.records
    exact ⟨_, (replied _).trans waiting, .refused admitted read done ⟨records.stored, records.lobby⟩⟩
  · obtain ⟨news, waiting, tells⟩ := told.answer reply hall performed
    cases reply with
    | none =>
      rw [Option.toList_none, List.append_nil] at tells
      exact ⟨news, waiting, .carriedOut admitted read done tells⟩
    | some event =>
      have waiting' := (congrArg (· ++ [event]) waiting).trans (List.append_assoc _ news [event])
      refine ⟨_, (replied event).trans waiting', .carriedOut admitted read done ?_⟩
      cases command <;> exact tells

end Receive

/-- Every text of a visitor is answered once. While there is room for four events in the queue of each
visitor, the one that sends something is told of what comes of it and of nothing else: that the limit is
exceeded, and then nothing is done and nothing counted; that the text is no command; that the command is
refused, and then no room is changed and nothing is stored otherwise; or what the command has come to,
over the room or as a reply. -/
theorem Run.answered_once (run : Run server)
    (found : server.visitors.get? connection = some visitor)
    (room : ∀ other visitor', server.visitors.get? other = some visitor' →
      4 ≤ server.hall.floor.roomIn visitor'.queue) (now : Nat) (content : String) :
    ∃ told, (server.receive connection now (.text content)).hall.floor.waitingIn visitor.queue =
        server.hall.floor.waitingIn visitor.queue ++ told ∧
      server.Answers connection visitor now content (server.receive connection now (.text content)) told := by
  have sound := run.sound
  have roomy : server.given.IsRoomy server.hall.floor 3 := by
    refine ⟨sound.sole, ?_⟩
    intro other queue had
    obtain ⟨visitor', found', rfl⟩ := Option.map_eq_some_iff.mp had
    exact (Nat.le_succ 3).trans (room other visitor' found')
  have opens := Floor.isOpen_of_roomIn (Floor.takes_of_room roomy (given_of_visitor found))
  rcases checked : visitor.limiter.check now with ⟨limit | _, limiter⟩
  · exact receive_limited found opens checked
  · cases read : Command.parse? content with
    | none => exact receive_malformed found checked opens read
    | some command => exact sound.receive_performed found checked read opens roomy

/-- The first player who sits down in a match gets the state of the room, and then the seat. -/
theorem Run.answered_once_sitting_down :
    let content := "\x7b\"type\":\"join-match\",\"matchId\":\"match_1\"\x7d"
    let told : List Event := [.roomState "match_1" [⟨.t1a, .t1, false, true⟩] false none,
      .playerAssigned "match_1" .t1a .t1 .a]
    ∃ server visitor, Run server ∧ server.visitors.get? "a" = some visitor ∧
      (∀ other visitor', server.visitors.get? other = some visitor' →
        4 ≤ server.hall.floor.roomIn visitor'.queue) ∧
      (server.receive "a" 0 (.text content)).hall.floor.waitingIn visitor.queue =
        server.hall.floor.waitingIn visitor.queue ++ told ∧
      Answers server "a" visitor 0 content (server.receive "a" 0 (.text content)) told := by
  intro content told
  have run := Run.opened 12 ⟨fun _ => .four, 0⟩ .byName
    |>.created none
    |>.connected "a" (by decide +kernel) (some "ana")
  obtain ⟨server, run, queue, room, got⟩ : ∃ server, Run server ∧ server.given "a" = some 0 ∧
      (∀ entry ∈ server.visitors.entries, 4 ≤ server.hall.floor.roomIn entry.2.queue) ∧
      (server.receive "a" 0 (.text content)).hall.floor.waitingIn 0 =
        server.hall.floor.waitingIn 0 ++ told :=
    ⟨_, run, by decide +kernel, by decide +kernel, by decide +kernel⟩
  obtain ⟨visitor, found, same⟩ := Option.map_eq_some_iff.mp queue
  have room' : ∀ other visitor', server.visitors.get? other = some visitor' →
      4 ≤ server.hall.floor.roomIn visitor'.queue :=
    fun other visitor' there => room (other, visitor') (Dict.mem_entries.mpr there)
  obtain ⟨told', waiting, answers⟩ := run.answered_once found room' 0 content
  have cancels := waiting
  rw [same] at cancels
  obtain rfl : told = told' := List.append_cancel_left (got.symm.trans cancels)
  exact ⟨server, visitor, run, found, room', waiting, answers⟩

end Answers

end Server

end TrucoPaulista
