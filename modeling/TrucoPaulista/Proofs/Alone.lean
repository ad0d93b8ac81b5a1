import TrucoPaulista.Proofs.Crowd

namespace TrucoPaulista

/-- What a call makes of the hall when no other call comes between. -/
def Errand.perform (errand : Errand) (hall : Hall) : Hall :=
  match errand with
  | .join text connection token queue => ((Hall.join text connection token queue).apply hall).2
  | .startHand connection text vira => ((Hall.startHand connection text vira).apply hall).2
  | .playCard connection text card => ((Hall.playCard connection text card).apply hall).2
  | .leave connection => (hall.leave connection).2

namespace Hall

/-- The hall once a call that has come to a stage after the reply, if there is one, is over. -/
def settle (hall : Hall) (stage : Option Stage) : Hall :=
  match stage with
  | some (.retiring matchId) => hall.retireIfIdle matchId
  | _ => hall

/-- The hall after an errand at a table. -/
def send (hall : Hall) (errand : Errand) (handle : Handle) : Hall :=
  let (reply, hall) := errand.deliver handle.table hall
  hall.settle (reply.next handle)

/-- The hall after an errand at a table that is opened for it, if there is the match. -/
def sendOpening (hall : Hall) (errand : Errand) (matchId : MatchId) : Hall :=
  match (ofService (Service.doesExist matchId)).apply hall with
  | (.ok true, hall) => (hall.runningOrOpen matchId).2.send errand (hall.runningOrOpen matchId).1
  | (_, hall) => hall

/-- The hall after an errand at the table of a match, which is opened where there is none. -/
def approach (hall : Hall) (errand : Errand) (matchId : MatchId) : Hall :=
  match hall.running? matchId with
  | some handle => hall.send errand handle
  | none => hall.sendOpening errand matchId

section Calls

variable (hall : Hall)

/-- The handle of a match is the one of its running table. Where none runs, one is opened if there is
the match. -/
theorem handle_apply (text : String) : (Hall.handle text).apply hall =
    match Request.matchId text with
    | .error refusal => (.error refusal, hall)
    | .ok matchId =>
      match hall.running? matchId with
      | some handle => (.ok handle, hall)
      | none =>
        match (ofService (Service.doesExist matchId)).apply hall with
        | (.error refusal, hall) => (.error refusal, hall)
        | (.ok false, hall) => (.error (.matchNotFound matchId), hall)
        | (.ok true, hall) => (.ok (hall.runningOrOpen matchId).1, (hall.runningOrOpen matchId).2) := by
  unfold Hall.handle
  rw [Action.apply_bind, Action.apply_ofExcept]
  cases Request.matchId text with
  | error refusal => rfl
  | ok matchId =>
    dsimp only
    rw [Action.apply_bind]
    cases running : hall.running? matchId with
    | some handle => simp [Action.look, running]
    | none =>
      simp only [Action.look, Action.apply_ofStep, running]
      rw [Action.apply_bind]
      rcases (ofService (Service.doesExist matchId)).apply hall with ⟨_ | _ | _, hall'⟩ <;> rfl

/-- A call that sends an errand to the handle of a match approaches the table of the match, unless the
text names none. -/
theorem handle_send (text : String) (errand : Errand) {α : Type} (next : Handle → HallStep α)
    (sends : ∀ hall handle, ((next handle).apply hall).2 = hall.send errand handle) :
    ((Hall.handle text >>= next).apply hall).2 =
      match Request.matchId text with
      | .error _ => hall
      | .ok matchId => hall.approach errand matchId := by
  rw [Action.apply_bind, handle_apply]
  cases Request.matchId text with
  | error refusal => rfl
  | ok matchId =>
    unfold approach
    dsimp only
    cases hall.running? matchId with
    | some handle => exact sends hall handle
    | none =>
      dsimp only
      unfold sendOpening
      rcases (ofService (Service.doesExist matchId)).apply hall with ⟨_ | _ | _, hall'⟩
      · rfl
      · rfl
      · exact sends _ _

/-- A request that retires the table when it is refused leaves the hall as its errand does. -/
theorem requestOrRetire_send {α : Type} (errand : Errand) (message : Message (Except Refusal α))
    (reply : α → Reply) (ends : ∀ answer handle, (reply answer).next handle = none)
    (delivers : ∀ hall table, errand.deliver table hall = Errand.submit hall table message reply)
    (handle : Handle) : ((requestOrRetire handle message).apply hall).2 = hall.send errand handle := by
  unfold requestOrRetire request send
  rw [delivers]
  unfold Errand.submit
  simp only [Action.apply_ofStep]
  rcases hall.ask handle.table message with ⟨_ | _ | answer, hall'⟩
  · rfl
  · rfl
  · simp [ends, settle]

/-- The handle that a connection may use is the one of the match in which it sits. -/
theorem joinedHandle_apply (connection : ConnectionId) : (joinedHandle connection).apply hall =
    match hall.floor.lobby.session connection with
    | some session => (Hall.handle session.matchId).apply hall
    | none => (.error (.room .notJoined), hall) := by
  unfold joinedHandle
  rw [Action.apply_bind]
  cases found : hall.floor.lobby.session connection with
  | none => simp only [Action.look, Action.apply_ofStep, found]; rfl
  | some session => simp only [Action.look, Action.apply_ofStep, found]

/-- A connection that leaves sends its errand to the table of the match in which it sits. One that sits
nowhere changes nothing. -/
theorem leave_send (connection : ConnectionId) : (hall.leave connection).2 =
    match hall.floor.lobby.session connection with
    | some session => ((Hall.handle session.matchId >>= fun handle => Action.ofUpdate
        (fun hall : Hall => ((), hall.send (.leave connection) handle)) : HallStep Unit).apply hall).2
    | none => hall := by
  unfold leave
  rw [joinedHandle_apply]
  cases hall.floor.lobby.session connection with
  | none => rfl
  | some session =>
    dsimp only
    rw [Action.apply_bind]
    rcases (Hall.handle session.matchId).apply hall with ⟨_ | handle, hall'⟩
    · rfl
    · dsimp only [Action.ofUpdate, Action.apply_ofStep, send, Errand.deliver]
      rcases hall'.ask handle.table (.leave connection) with ⟨_ | _ | matchId, hall''⟩ <;> rfl

end Calls

end Hall

/-- An errand whose target is refused comes to nothing. Any other is done at the table of its match. -/
theorem Errand.perform_eq (errand : Errand) (hall : Hall) : errand.perform hall =
    match errand.target hall with
    | .error _ => hall
    | .ok matchId => hall.approach errand matchId := by
  cases errand with
  | join text connection token queue =>
    unfold Errand.perform Hall.join Errand.target
    dsimp only
    rw [hall.handle_send text (.join text connection token queue)]
    intro hall handle
    exact hall.requestOrRetire_send _ _ .seated (fun _ _ => rfl) (fun _ _ => rfl) handle
  | startHand connection text vira =>
    unfold Errand.perform Hall.startHand Errand.target
    dsimp only
    rw [hall.handle_send text (.startHand connection text vira)]
    intro hall handle
    exact hall.requestOrRetire_send _ _ (fun _ => .done) (fun _ _ => rfl) (fun _ _ => rfl) handle
  | playCard connection text card =>
    unfold Errand.perform Hall.playCard Errand.target
    dsimp only
    rw [hall.handle_send text (.playCard connection text card)]
    intro hall handle
    exact hall.requestOrRetire_send _ _ (fun _ => .done) (fun _ _ => rfl) (fun _ _ => rfl) handle
  | leave connection =>
    unfold Errand.perform Errand.target
    dsimp only
    rw [Hall.leave_send]
    cases hall.floor.lobby.session connection with
    | none => rfl
    | some session =>
      dsimp only
      rw [hall.handle_send session.matchId (.leave connection)]
      intro hall handle
      rfl

namespace Hall

section Closed

variable {hall : Hall} {id : TableId}

theorem ask_closed (closed : hall.isRunning id = false) {ρ : Type} (message : Message ρ) :
    hall.ask id message = (none, hall) := by
  have none' : (hall.tables.get? id).filter (fun t => !t.isClosed) = none := by
    rw [Option.filter_eq_none_iff]
    intro t found
    simpa using isRunning_eq_false.mp closed t found
  unfold ask
  rw [none']

theorem send_closed {handle : Handle} (closed : hall.isRunning handle.table = false) (errand : Errand) :
    hall.send errand handle = hall.settle (errand.unanswered handle) := by
  unfold send Errand.deliver Errand.submit
  cases errand <;> simp only [ask_closed closed] <;> rfl

end Closed

end Hall

namespace Crowd

/-- Whether one call is the only one, or there is none, and no letters wait but at one table. -/
structure Only (crowd : Crowd) (number : Nat) (errand : Errand) (stage : Option Stage)
    (table : TableId) (letters : List Letter) : Prop where
  calls : ∀ other, crowd.calls.get? other =
    if other = number then stage.map (fun stage => ⟨errand, stage⟩) else none
  inbox : ∀ other, crowd.inbox other = if other = table then letters else []

/-- A step of one call, or of a table. -/
inductive Goes (number : Nat) : Crowd → Crowd → Prop where
  | advance {crowd crowd' : Crowd} (made : crowd.next (.advance number) = some crowd') :
      Goes number crowd crowd'
  | serve {crowd crowd' : Crowd} (table : TableId) (made : crowd.next (.serve table) = some crowd') :
      Goes number crowd crowd'

/-- Whether a crowd in which only one call goes on comes to rest, and its hall is this one then,
whatever happens first. -/
inductive Rests (number : Nat) : Crowd → Hall → Prop where
  | quiet {crowd : Crowd} (quiet : crowd.isQuiet) : Rests number crowd crowd.hall
  | goes {crowd crowd' : Crowd} {hall : Hall} (goes : Goes number crowd crowd')
      (all : ∀ crowd', Goes number crowd crowd' → Rests number crowd' hall) : Rests number crowd hall

section Alone

variable {crowd crowd' : Crowd} {number : Nat} {errand : Errand} {hall : Hall} {table : TableId}
  {stage : Option Stage} {letters : List Letter}

namespace Only

theorem isLocked (only : crowd.Only number errand stage table letters)
    (free : ∀ table, stage ≠ some (.dismissing table)) : crowd.isLocked = false := by
  unfold Crowd.isLocked
  rw [List.any_eq_false]
  intro progress member locked
  obtain ⟨other, found⟩ := Dict.mem_values.mp member
  rw [only.calls] at found
  split at found
  next =>
    obtain ⟨_, there, rfl⟩ := Option.map_eq_some_iff.mp found
    dsimp only at locked
    split at locked
    next => exact free _ there
    next => cases locked
  next => cases found

theorem isStuffed (only : crowd.Only number errand stage table []) (other : TableId) :
    crowd.isStuffed other = false := by
  have none' : crowd.inbox other = [] := by simp [only.inbox]
  simp [Crowd.isStuffed, none', inboxCapacity]

theorem withHall (only : crowd.Only number errand stage table letters) (hall : Hall) :
    ({ crowd with hall } : Crowd).Only number errand stage table letters := ⟨only.calls, only.inbox⟩

theorem goOn {before : Option Stage} (only : crowd.Only number errand before table letters)
    (stage : Option Stage) :
    (crowd.goOn number errand stage).Only number errand stage table letters where
  calls other := by
    have others : other ≠ number → crowd.calls.get? other = none := by
      intro apart
      simp [only.calls, apart]
    by_cases same : other = number
    · cases stage <;> simp [Crowd.goOn, same]
    · cases stage <;> simp [Crowd.goOn, same, others]
  inbox := only.inbox

theorem post (only : crowd.Only number errand stage table []) (other : TableId) (letter : Letter) :
    (crowd.post other letter).Only number errand stage other [letter] where
  calls := only.calls
  inbox query := by
    rw [inbox_post]
    simp [only.inbox]

theorem leaveLetters (only : crowd.Only number errand stage table letters) :
    (crowd.leaveLetters table []).Only number errand stage table [] where
  calls := only.calls
  inbox query := by
    rw [inbox_leaveLetters]
    by_cases same : query = table <;> simp [only.inbox, same]

theorem rests (only : crowd.Only number errand none table []) : crowd.Rests number crowd.hall := by
  have calls : ∀ other, crowd.calls.get? other = none := by simp [only.calls]
  have inbox : ∀ other, crowd.inbox other = [] := by simp [only.inbox]
  exact .quiet (isQuiet_iff.mpr ⟨calls, inbox⟩)

/-- Where no letter waits, only the call can go on. -/
theorem advance {stage : Stage} (only : crowd.Only number errand (some stage) table [])
    (made : crowd.advance number ⟨errand, stage⟩ = some crowd') (rests : crowd'.Rests number hall) :
    crowd.Rests number hall := by
  have next : crowd.next (.advance number) = some crowd' := by
    simp [Crowd.next, only.calls, made]
  refine .goes (.advance next) ?_
  intro other goes
  cases goes with
  | advance made' =>
    obtain rfl := Option.some.inj (next.symm.trans made')
    exact rests
  | serve id served =>
    have empty : crowd.inbox id = [] := by simp [only.inbox]
    simp [Crowd.next, Crowd.serve, empty] at served

/-- Where the call cannot go on, only the table at which a letter waits can. -/
theorem serve {letter : Letter} (only : crowd.Only number errand stage table [letter])
    (stands : crowd.next (.advance number) = none) (made : crowd.serve table = some crowd')
    (rests : crowd'.Rests number hall) : crowd.Rests number hall := by
  refine .goes (.serve table made) ?_
  intro other goes
  cases goes with
  | advance made' =>
    rw [stands] at made'
    cases made'
  | serve id served =>
    by_cases same : id = table
    · subst same
      obtain rfl := Option.some.inj (made.symm.trans served)
      exact rests
    · have empty : crowd.inbox id = [] := by simp [only.inbox, same]
      simp [Crowd.next, Crowd.serve, empty] at served

theorem dismissing {id : TableId}
    (only : crowd.Only number errand (some (.dismissing id)) table []) :
    crowd.Rests number (crowd.hall.ask id .close).2 := by
  cases running : crowd.hall.isRunning id with
  | false =>
    have made : crowd.advance number ⟨errand, .dismissing id⟩ =
        some (crowd.goOn number errand none) := by simp [Crowd.advance, running]
    rw [Hall.ask_closed running]
    exact only.advance made (only.goOn none).rests
  | true =>
    have made : crowd.advance number ⟨errand, .dismissing id⟩ =
        some ((crowd.post id .close).goOn number errand none) := by
      simp [Crowd.advance, running, only.isStuffed]
    have posted := (only.post id .close).goOn none
    have served : ((crowd.post id .close).goOn number errand none).serve id =
        some (({ (crowd.post id .close).goOn number errand none with
          hall := (crowd.hall.ask id .close).2 } : Crowd).leaveLetters id []) := by
      have letters := posted.inbox id
      have running' : ((crowd.post id .close).goOn number errand none).hall.isRunning id = true := running
      unfold Crowd.serve
      simp only [running', letters, if_true]
      rfl
    have stands : ((crowd.post id .close).goOn number errand none).next (.advance number) = none := by
      simp [Crowd.next, posted.calls]
    exact only.advance made (posted.serve stands served (posted.withHall _).leaveLetters.rests)

theorem retiring {matchId : MatchId}
    (only : crowd.Only number errand (some (.retiring matchId)) table []) :
    crowd.Rests number (crowd.hall.retireIfIdle matchId) := by
  have free := only.isLocked nofun
  unfold Hall.retireIfIdle
  split
  next room =>
    have made : crowd.advance number ⟨errand, .retiring matchId⟩ =
        some (crowd.goOn number errand none) := by simp [Crowd.advance, free, room]
    exact only.advance made (only.goOn none).rests
  next empty =>
    split
    next missing =>
      have made : crowd.advance number ⟨errand, .retiring matchId⟩ =
          some (crowd.goOn number errand none) := by simp [Crowd.advance, free, empty, missing]
      exact only.advance made (only.goOn none).rests
    next id registered =>
      have made : crowd.advance number ⟨errand, .retiring matchId⟩ =
          some (({ crowd with hall := { crowd.hall with
            registry := crowd.hall.registry.erase matchId } } : Crowd).goOn number errand
            (some (.dismissing id))) := by simp [Crowd.advance, free, empty, registered]
      exact only.advance made ((only.withHall _).goOn _).dismissing

theorem settle (only : crowd.Only number errand stage table [])
    (last : ∀ next, stage = some next → ∃ matchId, next = .retiring matchId) :
    crowd.Rests number (crowd.hall.settle stage) := by
  cases stage with
  | none => exact only.rests
  | some next =>
    obtain ⟨matchId, rfl⟩ := last next rfl
    exact only.retiring

theorem waiting {handle : Handle} (running : crowd.hall.isRunning handle.table)
    (only : crowd.Only number errand (some (.waiting handle)) handle.table [.errand number errand]) :
    crowd.Rests number (crowd.hall.send errand handle) := by
  obtain ⟨reply, hall, delivered⟩ :
      ∃ reply hall, errand.deliver handle.table crowd.hall = (reply, hall) := ⟨_, _, rfl⟩
  have letters : crowd.inbox handle.table = [.errand number errand] := by simp [only.inbox]
  have left := (only.withHall hall).leaveLetters
  have found : (({ crowd with hall } : Crowd).leaveLetters handle.table []).calls.get? number =
      some ⟨errand, .waiting handle⟩ := by simp [left.calls]
  have served : crowd.serve handle.table = some ((({ crowd with hall } : Crowd).leaveLetters
      handle.table []).goOn number errand (reply.next handle)) := by
    unfold Crowd.serve Crowd.receive
    simp [running, letters, delivered, found]
  have after : crowd.hall.send errand handle = hall.settle (reply.next handle) := by
    unfold Hall.send
    rw [delivered]
  rw [after]
  have stands : crowd.next (.advance number) = none := by
    simp [Crowd.next, only.calls, Crowd.advance, running]
  refine only.serve stands served ((left.goOn _).settle ?_)
  intro next after
  cases reply <;> cases after <;> exact ⟨_, rfl⟩

theorem sending {handle : Handle}
    (only : crowd.Only number errand (some (.sending handle)) table []) :
    crowd.Rests number (crowd.hall.send errand handle) := by
  cases running : crowd.hall.isRunning handle.table with
  | false =>
    have made : crowd.advance number ⟨errand, .sending handle⟩ =
        some (crowd.goOn number errand (errand.unanswered handle)) := by simp [Crowd.advance, running]
    rw [Hall.send_closed running]
    refine only.advance made ((only.goOn _).settle ?_)
    intro next after
    cases errand <;> cases after <;> exact ⟨_, rfl⟩
  | true =>
    have made : crowd.advance number ⟨errand, .sending handle⟩ =
        some ((crowd.post handle.table (.errand number errand)).goOn number errand
          (some (.waiting handle))) := by simp [Crowd.advance, running, only.isStuffed]
    exact only.advance made (((only.post _ _).goOn _).waiting running)

/-- A call that is about to open the table of a match comes to rest after its errand there. -/
theorem opening {matchId : MatchId}
    (only : crowd.Only number errand (some (.opening matchId)) table []) :
    crowd.Rests number ((crowd.hall.runningOrOpen matchId).2.send errand
      (crowd.hall.runningOrOpen matchId).1) := by
  have free := only.isLocked nofun
  have made : crowd.advance number ⟨errand, .opening matchId⟩ =
      some (({ crowd with hall := (crowd.hall.runningOrOpen matchId).2 } : Crowd).goOn number errand
        (some (.sending (crowd.hall.runningOrOpen matchId).1))) := by
    simp [Crowd.advance, free]
  exact only.advance made ((only.withHall _).goOn _).sending

theorem checking {matchId : MatchId}
    (only : crowd.Only number errand (some (.checking matchId)) table []) :
    crowd.Rests number (crowd.hall.sendOpening errand matchId) := by
  have made : ∀ answer hall,
      (Hall.ofService (Service.doesExist matchId)).apply crowd.hall = (answer, hall) →
      crowd.advance number ⟨errand, .checking matchId⟩ = some (({ crowd with hall } : Crowd).goOn
        number errand (if answer.toOption = some true then some (.opening matchId) else none)) := by
    intro answer hall asked
    rcases answer with _ | _ | _ <;> simp [Crowd.advance, asked, Except.toOption]
  unfold Hall.sendOpening
  rcases asked : (Hall.ofService (Service.doesExist matchId)).apply crowd.hall with
    ⟨_ | _ | _, hall⟩
  · exact only.advance (made _ _ asked) ((only.withHall hall).goOn none).rests
  · exact only.advance (made _ _ asked) ((only.withHall hall).goOn none).rests
  · exact only.advance (made _ _ asked) ((only.withHall hall).goOn _).opening

theorem finding {matchId : MatchId}
    (only : crowd.Only number errand (some (.finding matchId)) table []) :
    crowd.Rests number (crowd.hall.approach errand matchId) := by
  have free := only.isLocked nofun
  unfold Hall.approach
  split
  next handle found =>
    have made : crowd.advance number ⟨errand, .finding matchId⟩ =
        some (crowd.goOn number errand (some (.sending handle))) := by
      simp [Crowd.advance, free, found]
    exact only.advance made (only.goOn _).sending
  next idle =>
    have made : crowd.advance number ⟨errand, .finding matchId⟩ =
        some (crowd.goOn number errand (some (.checking matchId))) := by
      simp [Crowd.advance, free, idle]
    exact only.advance made (only.goOn _).checking

end Only

/-- A call that no other call overtakes does in a quiet crowd what it does in its hall. -/
theorem rests_perform (quiet : crowd.isQuiet) (known : errand.isKnown crowd.hall.floor) (number : Nat) :
    ∃ crowd', crowd.next (.begin number errand) = some crowd' ∧
      crowd'.Rests number (errand.perform crowd.hall) := by
  obtain ⟨nobody, empty⟩ := isQuiet_iff.mp quiet
  have only : crowd.Only number errand none 0 [] := ⟨by simp [nobody], by simp [empty]⟩
  refine ⟨crowd.goOn number errand (some .begun), ?_, ?_⟩
  · simp [Crowd.next, Dict.contains, nobody, known]
  have begun := only.goOn (some .begun)
  rw [errand.perform_eq]
  cases target : errand.target crowd.hall with
  | error refusal =>
    have made : (crowd.goOn number errand (some .begun)).advance number ⟨errand, .begun⟩ =
        some ((crowd.goOn number errand (some .begun)).goOn number errand none) := by
      have target' : errand.target (crowd.goOn number errand (some .begun)).hall = _ := target
      simp [Crowd.advance, target']
    exact begun.advance made (begun.goOn none).rests
  | ok matchId =>
    have made : (crowd.goOn number errand (some .begun)).advance number ⟨errand, .begun⟩ =
        some ((crowd.goOn number errand (some .begun)).goOn number errand (some (.finding matchId))) := by
      have target' : errand.target (crowd.goOn number errand (some .begun)).hall = _ := target
      simp [Crowd.advance, target']
    exact begun.advance made (begun.goOn _).finding

end Alone

end Crowd

end TrucoPaulista
