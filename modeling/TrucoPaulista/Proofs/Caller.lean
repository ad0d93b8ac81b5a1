import TrucoPaulista.Proofs.Visits

namespace TrucoPaulista

/-- Whether no two connections have one queue, and there is room for so many events in each. -/
structure Given.IsRoomy (given : Given) (floor : Floor) (count : Nat) : Prop where
  sole : given.IsSole
  room : ∀ connection queue, given connection = some queue → count ≤ floor.roomIn queue

namespace Floor

/-- Whether the same matches are stored and the rooms are the same. -/
structure SameRecords (floor floor' : Floor) : Prop where
  stored : floor'.archive.stored = floor.archive.stored
  lobby : floor'.lobby = floor.lobby

/-- Whether a queue has got some events, and which. -/
def Gets (floor : Floor) (queue : QueueId) (floor' : Floor) (told : List Event → Prop) : Prop :=
  ∃ news, floor'.waitingIn queue = floor.waitingIn queue ++ news ∧ told news

/-- Whether nothing is stored otherwise, no room has changed, and a queue has got nothing. -/
structure Ignores (floor : Floor) (queue : QueueId) (floor' : Floor) : Prop where
  records : floor.SameRecords floor'
  waiting : floor'.waitingIn queue = floor.waitingIn queue

section Queues

variable {floor mid floor' : Floor} {queue : QueueId}

theorem Ignores.refl (floor : Floor) (queue : QueueId) : floor.Ignores queue floor := ⟨⟨rfl, rfl⟩, rfl⟩

theorem Ignores.trans (first : floor.Ignores queue mid) (second : mid.Ignores queue floor') :
    floor.Ignores queue floor' where
  records :=
    ⟨second.records.stored.trans first.records.stored, second.records.lobby.trans first.records.lobby⟩
  waiting := second.waiting.trans first.waiting

theorem Ignores.gets {told : List Event → Prop} (first : floor.Ignores queue mid)
    (second : mid.Gets queue floor' told) : floor.Gets queue floor' told := by
  obtain ⟨news, waiting, is⟩ := second
  exact ⟨news, by rw [waiting, first.waiting], is⟩

theorem isOpen_of_roomIn (room : floor.roomIn queue ≠ 0) : floor.isOpen queue := by
  unfold roomIn at room
  unfold isOpen
  cases found : floor.queues.get? queue with
  | none => simp [found] at room
  | some waiting =>
    rw [found, Option.elim_some, EventQueue.takes] at room
    rw [Option.any_some]
    by_contra closed
    rw [if_neg closed] at room
    exact room rfl

theorem takes_of_room {given : Given} {count : Nat} (roomy : given.IsRoomy floor (count + 1))
    {connection : ConnectionId} (had : given connection = some queue) : floor.roomIn queue ≠ 0 :=
  Nat.ne_of_gt ((Nat.succ_pos count).trans_le (roomy.room connection queue had))

end Queues

end Floor

namespace AtTable

section Told

variable {place place' : AtTable} {given : Given} {connection : ConnectionId} {queue : QueueId}

theorem Attended.alone (attended : place.Attended given) (sole : given.IsSole)
    (listens : place.table.subscribers.get? connection = some queue) :
    ∀ other, place.table.subscribers.get? other = some queue → other = connection := by
  have had := (attended.seated connection queue listens).1
  intro other listens'
  exact sole other connection queue (attended.seated other queue listens').1 had

theorem Attended.hasRoomFor {count : Nat} (attended : place.Attended given)
    (roomy : given.IsRoomy place.floor count) : place.HasRoomFor count := by
  intro connection queue listens
  have had := (attended.seated connection queue listens).1
  rw [copies_eq_one listens (attended.alone roomy.sole listens), Nat.mul_one]
  exact roomy.room connection queue had

/-- Who sits at the table listens, unless the connection has hung up. -/
theorem Attended.listens (attended : place.Attended given) {session : Session}
    (found : place.floor.lobby.session connection = some session)
    (here : session.matchId = place.table.matchId) (had : given connection = some queue)
    (opens : place.floor.isOpen queue) : place.table.subscribers.get? connection = some queue := by
  obtain ⟨query, had', _, told⟩ := attended.served connection session found here
  obtain rfl : queue = query := Option.some.inj (had.symm.trans had')
  exact told opens

/-- What the messages of a table read of a match that has the name of the table. -/
theorem lookup_of_named {archive : Archive} {name matchId : MatchId} {m : Match}
    (valid : Request.matchId name = .ok name) (named : archive.named name = .ok (matchId, m)) :
    matchId = name ∧ archive.lookup name = .ok m := by
  obtain ⟨read, found⟩ := Archive.named_eq_ok.mp named
  obtain rfl : matchId = name := Except.ok.inj (read.symm.trans valid)
  exact ⟨rfl, found⟩

theorem not_startsUnread (faultless : ∀ number kind, place.floor.archive.fault number kind = none)
    (vira : Option Rank) : ¬place.StartsUnread connection vira := by
  rintro ⟨_, _, start, archive, failure, begun, fails, _⟩
  have kept := Service.keeps_startHand Archive.steady_fault place.table.matchId
    (vira.getD place.floor.dealer.draw.1) place.floor.archive
  rw [begun] at kept
  have none' := (congrFun (congrFun kept archive.calls) .find).trans (faultless archive.calls .find)
  cases none'.symm.trans fails

variable (attended : place.Attended given) (mirrored : place.floor.lobby.Mirrored)
  (roomy : given.IsRoomy place.floor 3)

include attended mirrored roomy

variable (connection queue) in
/-- Who listens after a message that is accepted has got what it is told, and nothing else; a message
that is refused is told to nobody. -/
theorem Attended.told {α : Type} {message : Message (Except Refusal α)} {step : TableStep α}
    (handled : handle message place = step.apply place)
    (replies : place.Replies given step (fun _ => given))
    (untold : ∀ refusal place' told, message.Tells place place' (.error refusal) told → told = [])
    (refused : step.Yields place (fun _ _ => True) (fun _ place' => place.SameRecords place'))
    (listens : ∀ answer place', step.apply place = (.ok answer, place') →
      message.KeepsSender place place' (.ok answer) →
      place'.table.subscribers.get? connection = some queue) :
    step.Yields place
      (fun answer place' => place'.table.subscribers.get? connection = some queue ∧
        place.floor.Gets queue place'.floor (message.Tells place place' (.ok answer)))
      (fun _ place' => place.floor.Ignores queue place'.floor) := by
  obtain ⟨told, tells, spreads, keeps⟩ := tells_handle mirrored (attended.hasRoomFor roomy) message
  rw [handled] at tells spreads keeps
  constructor
  · intro answer place' applied
    rw [applied] at tells spreads keeps
    have listens' := listens answer place' applied keeps
    have attended' := (replies.answer answer place' applied).1.attended
    have waiting := spreads.alone listens' (attended'.alone roomy.sole listens')
    exact ⟨listens', told, waiting, tells⟩
  · intro refusal place' applied
    rw [applied] at tells spreads
    obtain rfl := untold refusal place' told tells
    obtain ⟨stored, lobby⟩ := refused.refusal refusal place' applied
    exact ⟨⟨stored, lobby⟩, (spreads queue).trans (List.append_nil _)⟩

variable (had : given connection = some queue)

include had

/-- Who joins is told the room as it is then. A refusal tells nothing. -/
theorem Attended.join_told (open' : place.table.isClosed = false) (known : queue < place.floor.opened)
    (token : String) : (join connection token queue).Yields place
      (fun session place' => session.matchId = place.table.matchId ∧
        place'.floor.lobby.session connection = some session ∧
        place.floor.Gets queue place'.floor
          (· = [.ofRoom (place'.floor.lobby.roomView session.matchId)]))
      (fun _ place' => place.floor.Ignores queue place'.floor) := by
  have takes := Floor.takes_of_room roomy had
  have quick : place.floor.isFull queue = false := by
    by_contra full
    exact takes (Floor.roomIn_eq_zero (Bool.not_eq_false _ ▸ full))
  have handled : handle (.join connection token queue) place = (join connection token queue).apply place :=
    rfl
  have replies := join_replies attended mirrored open' connection token known
  rw [Given.put_self had] at replies
  have told := attended.told connection queue mirrored roomy handled replies (fun _ _ _ => id)
    (place.join_refused connection token queue) (fun _ _ _ keeps => keeps rfl takes)
  refine (told.and (join_yields mirrored connection token queue)).mono ?_ (fun _ _ => And.left)
  rintro session place' ⟨⟨listens, _, waiting, view, rfl, shown⟩, mid, welcomes, stirs⟩
  have here : session.matchId = place.table.matchId := welcomes.joined.here
  have name : place'.table.matchId = place.table.matchId := stirs.name.trans welcomes.name
  refine ⟨here, ?_, _, waiting, ?_⟩
  · rw [(stirs.kept connection queue listens).2]
    exact welcomes.joined.seated
  · rw [shown quick, here, ← name]
    rfl

/-- Who becomes ready is told the room as it is then. A refusal tells nothing. -/
theorem Attended.setReady_told (even : place.IsEven) {session : Session}
    (found : place.floor.lobby.session connection = some session)
    (here : session.matchId = place.table.matchId) (ready : Bool) :
    (setReady connection ready).Yields place
      (fun _ place' => place'.floor.lobby.session connection = some session ∧
        place.floor.Gets queue place'.floor
          (· = [.ofRoom (place'.floor.lobby.roomView session.matchId)]))
      (fun _ place' => place.floor.Ignores queue place'.floor) := by
  have listens := attended.listens found here had (Floor.isOpen_of_roomIn (Floor.takes_of_room roomy had))
  have handled : handle (.setReady connection ready) place = (setReady connection ready).apply place := rfl
  have told := attended.told connection queue mirrored roomy handled
    (setReady_replies attended mirrored even connection ready) (fun _ _ _ => id)
    (place.setReady_refused connection ready) (fun _ _ _ keeps => keeps ▸ listens)
  refine (told.and (setReady_yields mirrored connection ready)).mono ?_ (fun _ _ => And.left)
  rintro view place' ⟨⟨listens', _, waiting, rfl⟩, stirs⟩
  refine ⟨(stirs.kept connection queue listens').2.trans found, _, waiting, ?_⟩
  rw [here, ← stirs.name]
  rfl

variable (open' : place.table.isClosed = false)
  (valid : Request.matchId place.table.matchId = .ok place.table.matchId)

include open' valid

/-- A player is told of the hand that is started, of the match as it is stored then, and of the room. A
refusal tells nothing, since no call of the archive fails. -/
theorem Attended.startHand_told (faultless : ∀ number kind, place.floor.archive.fault number kind = none)
    (vira : Option Rank) : (startHand connection vira).Yields place
      (fun _ place' => ∃ m h, place'.floor.archive.lookup place.table.matchId = .ok m ∧
        m.hand = some h ∧ place.floor.Gets queue place'.floor (· = [
          .handStarted place.table.matchId h.vira, .ofMatch (m.view place.table.matchId),
          .ofRoom (place'.floor.lobby.roomView place.table.matchId)]))
      (fun _ place' => place.floor.Ignores queue place'.floor) := by
  have opens := Floor.isOpen_of_roomIn (Floor.takes_of_room roomy had)
  have started := startHand_yields mirrored connection vira
  have handled : handle (.startHand connection vira) place = (startHand connection vira).apply place := rfl
  have refused : (startHand connection vira).Yields place (fun _ _ => True)
      (fun _ place' => place.SameRecords place') :=
    (place.startHand_refused connection vira).mono (fun _ _ => id)
      (fun _ _ same => same.mpr (not_startsUnread faultless vira))
  have told := attended.told connection queue mirrored roomy handled
    (startHand_replies attended mirrored open' connection vira) (fun _ _ _ => id) refused ?_
  · refine (told.and started).mono ?_ (fun _ _ => And.left)
    rintro start place' ⟨⟨_, _, waiting, matchId, m, h, named, hand, rfl⟩, stirs, _⟩
    obtain ⟨rfl, found⟩ := lookup_of_named valid named
    refine ⟨m, h, found, hand, _, waiting, ?_⟩
    rw [← stirs.name]
    rfl
  · intro start place' applied keeps
    obtain ⟨_, session, found, here⟩ := started.answer start place' applied
    exact keeps ▸ attended.listens found here had opens

/-- Who plays a card is told of it, of the match as it is stored then, and of the room. A refusal tells
nothing. -/
theorem Attended.playCard_told (card : Card) : (playCard connection card).Yields place
    (fun _ place' => ∃ m session, place'.floor.archive.lookup place.table.matchId = .ok m ∧
      place.floor.lobby.session connection = some session ∧ session.matchId = place.table.matchId ∧
      place.floor.Gets queue place'.floor (· = [
        .cardPlayed place.table.matchId session.seat session.seat.team card,
        .ofMatch (m.view place.table.matchId),
        .ofRoom (place'.floor.lobby.roomView place.table.matchId)]))
    (fun _ place' => place.floor.Ignores queue place'.floor) := by
  have opens := Floor.isOpen_of_roomIn (Floor.takes_of_room roomy had)
  have played := playCard_yields mirrored connection card
  have handled : handle (.playCard connection card) place = (playCard connection card).apply place := rfl
  have told := attended.told connection queue mirrored roomy handled
    (playCard_replies attended mirrored open' connection card) (fun _ _ _ => id)
    (place.playCard_refused connection card) ?_
  · refine (told.and played).mono ?_ (fun _ _ => And.left)
    rintro card' place' ⟨⟨_, _, waiting, matchId, m, session, named, found, rfl⟩, stirs, _, found', here⟩
    obtain ⟨rfl, stored⟩ := lookup_of_named valid named
    obtain rfl := Option.some.inj (found.symm.trans found')
    refine ⟨m, session, stored, found, here, _, waiting, ?_⟩
    rw [← stirs.name]
    rfl
  · intro card' place' applied keeps
    obtain ⟨_, session, found, here⟩ := played.answer card' place' applied
    exact keeps ▸ attended.listens found here had opens

end Told

end AtTable

theorem Archive.named_of_read {archive : Archive} {text : String} {matchId : MatchId}
    (read : Request.matchId text = .ok matchId) : archive.named matchId = archive.named text := by
  unfold Archive.named
  rw [read, Request.matchId_self read]

/-- A state that is viewed is the one of a match that is stored, and no queue gets anything by it. -/
theorem FloorStep.viewState_told (floor : Floor) (queue : QueueId) (text : String) :
    (ofService (Service.viewState text)).Yields floor
      (fun view floor' => floor.Ignores queue floor' ∧ ∃ matchId m,
        floor.archive.named text = .ok (matchId, m) ∧ view = m.view matchId)
      (fun _ floor' => floor.Ignores queue floor') := by
  simp only [ofService, Action.yields_on]
  refine (Service.viewState_keeps.and (Service.viewState_reads floor.archive text)).mono ?_ ?_
  · rintro view archive' ⟨stored, matchId, m, named, same, rfl⟩
    exact ⟨⟨⟨stored, rfl⟩, rfl⟩, matchId, m, same ▸ named, rfl⟩
  · rintro _ archive' ⟨stored, _⟩
    exact ⟨⟨stored, rfl⟩, rfl⟩

namespace Hall

section Calls

variable {hall : Hall} {given : Given} {handle : Handle} {connection : ConnectionId} {queue : QueueId}

theorem floor_retireIfIdle (hall : Hall) (matchId : MatchId) :
    (hall.retireIfIdle matchId).floor = hall.floor := by
  unfold retireIfIdle
  split
  next => rfl
  next =>
    split
    next => rfl
    next table _ =>
      obtain ⟨_, closed, _⟩ := ask_close { hall with registry := hall.registry.erase matchId } table
      rw [closed]

section Requests

variable {α : Type} {message : Message (Except Refusal α)} {step : TableStep α}
  {answered : α → Hall → Prop}
  (prepared : hall.Prepared given handle)
  (handled : ∀ place, AtTable.handle message place = step.apply place)
  (yields : ∀ t, t.isClosed = false → t.matchId = handle.matchId →
    Request.matchId t.matchId = .ok t.matchId → AtTable.Attended ⟨t, hall.floor⟩ given →
    step.Yields ⟨t, hall.floor⟩
      (fun answer place' => ∀ hall' : Hall, hall'.floor = place'.floor → answered answer hall')
      (fun _ place' => hall.floor.Ignores queue place'.floor))

include prepared handled yields

/-- What comes of a message to a table is what comes of it there. -/
theorem Prepared.yields_request : (Hall.request handle message).Yields hall answered
    (fun _ hall' => hall.floor.Ignores queue hall'.floor) := by
  obtain ⟨t, found, open', name, valid, seats⟩ := prepared.table
  have step' := yields t open' name valid seats
  have done : (Hall.request handle message).apply hall = ((step.apply ⟨t, hall.floor⟩).1,
      hall.put handle.table (step.apply ⟨t, hall.floor⟩).2) := by
    simp [Hall.request, ask_running found open', handled]
  rcases applied : step.apply ⟨t, hall.floor⟩ with ⟨refusal | answer, place'⟩ <;> rw [applied] at done
  · exact (Action.yields_iff_of_error done).mpr (step'.refusal refusal place' applied)
  · exact (Action.yields_iff_of_ok done).mpr (step'.answer answer place' applied _ rfl)

theorem Prepared.yields_requestOrRetire : (Hall.requestOrRetire handle message).Yields hall answered
    (fun _ hall' => hall.floor.Ignores queue hall'.floor) := by
  have requested := prepared.yields_request handled yields
  rcases applied : (Hall.request handle message).apply hall with ⟨refusal | answer, hall'⟩
  · have done : (Hall.requestOrRetire handle message).apply hall =
        (.error refusal, hall'.retireIfIdle handle.matchId) := by
      simp [Hall.requestOrRetire, applied]
    -- a table that is retired over the refusal is closed, and nobody is told of that
    refine (Action.yields_iff_of_error done).mpr ?_
    rw [floor_retireIfIdle]
    exact requested.refusal refusal hall' applied
  · have done : (Hall.requestOrRetire handle message).apply hall = (.ok answer, hall') := by
      simp [Hall.requestOrRetire, applied]
    exact (Action.yields_iff_of_ok done).mpr (requested.answer answer hall' applied)

end Requests

/-- Whether the way to a table has changed nothing but the tables. -/
structure Finds (hall : Hall) (hall' : Hall) : Prop where
  records : hall.floor.SameRecords hall'.floor
  queues : hall'.floor.queues = hall.floor.queues
  ground : hall'.ground = hall.ground

theorem Finds.refl (hall : Hall) : hall.Finds hall := ⟨⟨rfl, rfl⟩, rfl, rfl⟩

theorem Finds.of_floor {hall' hall'' : Hall} (finds : hall.Finds hall')
    (floor : hall''.floor = hall'.floor) : hall.Finds hall'' := by
  have ground : hall''.ground = hall'.ground := congrArg Floor.ground floor
  exact ⟨floor ▸ finds.records, floor ▸ finds.queues, ground.trans finds.ground⟩

theorem doesExist_finds (hall : Hall) (text : String) : (ofService (Service.doesExist text)).Yields hall
    (fun _ hall' => hall.Finds hall') (fun _ hall' => hall.Finds hall') := by
  have grounded := Action.yields_of_apply (fun hall' : Hall => hall'.ground = hall.ground)
    (keeps_ofService (fun floor => Service.keeps_doesExist (Floor.steady_ground.archive floor) text) hall)
  have kept : (ofService (Service.doesExist text)).Yields hall
      (fun _ hall' => hall.floor.SameRecords hall'.floor ∧ hall'.floor.queues = hall.floor.queues)
      (fun _ hall' => hall.floor.SameRecords hall'.floor ∧ hall'.floor.queues = hall.floor.queues) := by
    simp only [ofService, FloorStep.ofService, Action.yields_on]
    exact Service.doesExist_keeps.mono (fun _ _ stored => ⟨⟨stored, rfl⟩, trivial⟩)
      (fun _ _ stored => ⟨⟨stored, rfl⟩, trivial⟩)
  refine (kept.and grounded).mono ?_ ?_
  · rintro _ hall' ⟨⟨records, queues⟩, ground⟩
    exact ⟨records, queues, ground⟩
  · rintro _ hall' ⟨⟨records, queues⟩, ground⟩
    exact ⟨records, queues, ground⟩

theorem Finds.ignores {hall' : Hall} (finds : hall.Finds hall') (queue : QueueId) :
    hall.floor.Ignores queue hall'.floor where
  records := finds.records
  waiting := by rw [Floor.waitingIn, Floor.waitingIn, finds.queues]

theorem Finds.isRoomy {hall' : Hall} {count : Nat} (finds : hall.Finds hall')
    (roomy : given.IsRoomy hall.floor count) : given.IsRoomy hall'.floor count where
  sole := roomy.sole
  room connection queue had := by
    rw [Floor.roomIn, finds.queues]
    exact roomy.room connection queue had

theorem runningOrOpen_keeps (hall : Hall) (matchId : MatchId) :
    (hall.runningOrOpen matchId).1.matchId = matchId ∧
      (hall.runningOrOpen matchId).2.floor = hall.floor := by
  unfold runningOrOpen
  split
  next handle running => exact ⟨(running?_eq_some.mp running).1, rfl⟩
  next => exact ⟨rfl, rfl⟩

theorem handle_finds (hall : Hall) (text : String) : (Hall.handle text).Yields hall
    (fun handle hall' => Request.matchId text = .ok handle.matchId ∧ hall.Finds hall')
    (fun _ hall' => hall.Finds hall') := by
  unfold Hall.handle
  rw [Action.yields_bind]
  cases read : Request.matchId text with
  | error refusal => exact (Action.yields_iff_of_error rfl).mpr (.refl hall)
  | ok matchId =>
    refine (Action.yields_iff_of_ok rfl).mpr ?_
    simp only [Action.yields_bind, Action.yields_look]
    cases running : hall.running? matchId with
    | some handle =>
      obtain ⟨rfl, _⟩ := running?_eq_some.mp running
      exact Action.yields_pure.mpr ⟨rfl, .refl hall⟩
    | none =>
      simp only [Action.yields_bind]
      refine (doesExist_finds hall matchId).mono ?_ (fun _ _ => id)
      intro found hall' finds
      cases found with
      | false => exact Action.yields_throw.mpr finds
      | true =>
        obtain ⟨name, floor⟩ := hall'.runningOrOpen_keeps matchId
        exact Action.yields_ofUpdate.mpr ⟨congrArg Except.ok name.symm, finds.of_floor floor⟩

/-- A match that is created is stored, and no queue gets anything by it. -/
theorem createMatch_told (hall : Hall) (queue : QueueId) (points : Option Int64) :
    (Hall.createMatch points).Yields hall
      (fun matchId hall' => hall'.floor.waitingIn queue = hall.floor.waitingIn queue ∧
        ∃ m, Service.newMatch points = .ok m ∧
          hall'.floor.archive.stored = hall.floor.archive.stored.insert matchId m.snapshot)
      (fun _ hall' => hall.floor.Ignores queue hall'.floor) := by
  unfold Hall.createMatch ofService FloorStep.ofService
  rw [Action.yields_on, Action.yields_on]
  rcases Service.createMatch_cases hall.floor.archive points with
    ⟨_, _, done⟩ | ⟨_, _, done⟩ | ⟨m, made, done⟩
  · exact (Action.yields_iff_of_error done).mpr ⟨⟨rfl, rfl⟩, rfl⟩
  · exact (Action.yields_iff_of_error done).mpr ⟨⟨rfl, rfl⟩, rfl⟩
  · exact (Action.yields_iff_of_ok done).mpr ⟨rfl, m, made, rfl⟩

section Told

variable (tidy : hall.Tidy given)

include tidy

/-- What comes of a message to the table of a match that a player names. -/
theorem Tidy.yields_atTable (text : String) {α : Type} {message : Message (Except Refusal α)}
    {step : TableStep α} {answered : α → Hall → Prop}
    (handled : ∀ place, AtTable.handle message place = step.apply place)
    (yields : ∀ mid t, hall.Finds mid → mid.floor.lobby.Mirrored → t.isClosed = false →
      Request.matchId text = .ok t.matchId → Request.matchId t.matchId = .ok t.matchId →
      AtTable.Attended ⟨t, mid.floor⟩ given →
      step.Yields ⟨t, mid.floor⟩
        (fun answer place' => ∀ hall' : Hall, hall'.floor = place'.floor → answered answer hall')
        (fun _ place' => mid.floor.Ignores queue place'.floor)) :
    Action.Yields (do requestOrRetire (← Hall.handle text) message) hall answered
      (fun _ hall' => hall.floor.Ignores queue hall'.floor) := by
  rw [Action.yields_bind]
  refine ((tidy.handle text).and (hall.handle_finds text)).mono ?_ ?_
  · rintro handle mid ⟨⟨prepared, _⟩, named, finds⟩
    refine (prepared.yields_requestOrRetire handled ?_).mono (fun _ _ => id)
      (fun _ _ ignores => (finds.ignores queue).trans ignores)
    intro t open' name valid seats
    exact yields mid t finds prepared.attended.mirrored open' (name ▸ named) valid seats
  · rintro _ mid ⟨_, finds⟩
    exact finds.ignores queue

/-- A state that is viewed in a hall is the one of a match that is stored, and no queue gets anything by
it. -/
theorem Tidy.viewState_told (text : String) : (Hall.viewState text).Yields hall
    (fun view hall' => hall.floor.Ignores queue hall'.floor ∧ ∃ matchId m,
      hall.floor.archive.named text = .ok (matchId, m) ∧ view = m.view matchId)
    (fun _ hall' => hall.floor.Ignores queue hall'.floor) := by
  unfold Hall.viewState
  rw [Action.yields_bind]
  cases read : Request.matchId text with
  | error refusal => exact (Action.yields_iff_of_error rfl).mpr (.refl hall.floor queue)
  | ok matchId =>
    have viewed := FloorStep.viewState_told hall.floor queue matchId
    rw [Archive.named_of_read read] at viewed
    refine (Action.yields_iff_of_ok rfl).mpr ?_
    simp only [Action.yields_bind, Action.yields_look]
    cases running : hall.running? matchId with
    | some handle =>
      obtain ⟨rfl, _⟩ := running?_eq_some.mp running
      have handled : ∀ place : AtTable, AtTable.handle .getState place = AtTable.getState.apply place :=
        fun _ => rfl
      refine (tidy.prepared running).yields_request handled ?_
      intro t _ name _ _
      unfold AtTable.getState
      simp only [Action.yields_bind, Action.yields_look, AtTable.onFloor, Action.yields_on, name]
      refine viewed.mono ?_ (fun _ _ => id)
      intro view floor' told hall' same
      rwa [same]
    | none =>
      simp only [ofService, Action.yields_on]
      exact viewed

variable (roomy : given.IsRoomy hall.floor 3) (had : given connection = some queue)

include roomy had

/-- Who joins in a hall is told the room of the match that was named. A refusal tells nothing. -/
theorem Tidy.join_told (known : queue < hall.floor.opened) (text token : String) :
    (Hall.join text connection token queue).Yields hall
      (fun session hall' => Request.matchId text = .ok session.matchId ∧
        hall'.floor.lobby.session connection = some session ∧
        hall.floor.Gets queue hall'.floor
          (· = [.ofRoom (hall'.floor.lobby.roomView session.matchId)]))
      (fun _ hall' => hall.floor.Ignores queue hall'.floor) := by
  refine tidy.yields_atTable text (fun _ => rfl) ?_
  intro mid t finds mirrored open' named _ seats
  have opened : mid.floor.opened = hall.floor.opened := congrArg Ground.opened finds.ground
  have joined := seats.join_told mirrored (finds.isRoomy roomy) had open' (known.trans_eq opened.symm) token
  refine joined.mono ?_ (fun _ _ => id)
  rintro session place' ⟨here, found, gets⟩ hall' same
  rw [same]
  exact ⟨here ▸ named, found, (finds.ignores queue).gets gets⟩

/-- Who becomes ready in a hall is told the room of the match of the seat. A refusal tells nothing. -/
theorem Tidy.setReady_told (ready : Bool) : (Hall.setReady connection ready).Yields hall
    (fun _ hall' => ∃ session, hall'.floor.lobby.session connection = some session ∧
      hall.floor.Gets queue hall'.floor
        (· = [.ofRoom (hall'.floor.lobby.roomView session.matchId)]))
    (fun _ hall' => hall.floor.Ignores queue hall'.floor) := by
  unfold Hall.setReady
  rw [Action.yields_bind]
  refine (tidy.joinedHandle connection).mono ?_ ?_
  · rintro handle _ ⟨rfl, running, session, found, here⟩
    rename_i hall
    refine (tidy.prepared running).yields_request (fun _ => rfl) ?_
    intro t open' name _ seats
    have room := tidy.needed handle.matchId (Option.isSome_of_eq_some running)
    have even : AtTable.IsEven ⟨t, hall.floor⟩ := by simp [AtTable.IsEven, open', name, room]
    have readied := seats.setReady_told tidy.attended.mirrored roomy had even found
      (here.trans name.symm) ready
    refine readied.mono ?_ (fun _ _ => id)
    intro view place' told hall' same
    rw [same]
    exact ⟨session, told⟩
  · rintro _ _ ⟨rfl, _⟩
    exact .refl _ queue

/-- Who starts a hand in a hall is told of the match that was named. A refusal tells nothing, since no
call of the archive fails. -/
theorem Tidy.startHand_told (faultless : ∀ number kind, hall.floor.archive.fault number kind = none)
    (text : String) (vira : Option Rank) : (Hall.startHand connection text vira).Yields hall
      (fun _ hall' => ∃ matchId m h, hall'.floor.archive.named text = .ok (matchId, m) ∧
        m.hand = some h ∧ hall.floor.Gets queue hall'.floor (· = [.handStarted matchId h.vira,
          .ofMatch (m.view matchId), .ofRoom (hall'.floor.lobby.roomView matchId)]))
      (fun _ hall' => hall.floor.Ignores queue hall'.floor) := by
  refine tidy.yields_atTable text (fun _ => rfl) ?_
  intro mid t finds mirrored open' named valid seats
  have fault : mid.floor.archive.fault = hall.floor.archive.fault := congrArg Ground.fault finds.ground
  rw [← fault] at faultless
  have started := seats.startHand_told mirrored (finds.isRoomy roomy) had open' valid faultless vira
  refine started.mono ?_ (fun _ _ => id)
  rintro _ place' ⟨m, h, found, hand, gets⟩ hall' same
  rw [same]
  exact ⟨t.matchId, m, h, Archive.named_eq_ok.mpr ⟨named, found⟩, hand, (finds.ignores queue).gets gets⟩

/-- Who plays a card in a hall is told of the match of the seat, which is the one that was named. A
refusal tells nothing. -/
theorem Tidy.playCard_told (text : String) (card : Card) :
    (Hall.playCard connection text card).Yields hall
      (fun _ hall' => ∃ m session, hall'.floor.archive.named text = .ok (session.matchId, m) ∧
        hall.floor.lobby.session connection = some session ∧
        hall.floor.Gets queue hall'.floor (· = [
          .cardPlayed session.matchId session.seat session.seat.team card,
          .ofMatch (m.view session.matchId), .ofRoom (hall'.floor.lobby.roomView session.matchId)]))
      (fun _ hall' => hall.floor.Ignores queue hall'.floor) := by
  refine tidy.yields_atTable text (fun _ => rfl) ?_
  intro mid t finds mirrored open' named valid seats
  have played := seats.playCard_told mirrored (finds.isRoomy roomy) had open' valid card
  refine played.mono ?_ (fun _ _ => id)
  rintro _ place' ⟨m, session, stored, found, here, gets⟩ hall' same
  rw [same]
  rw [finds.records.lobby] at found
  exact ⟨m, session, Archive.named_eq_ok.mpr ⟨here ▸ named, here ▸ stored⟩, found,
    (finds.ignores queue).gets (here ▸ gets)⟩

end Told

end Calls

end Hall

end TrucoPaulista
