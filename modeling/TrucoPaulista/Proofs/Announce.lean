import TrucoPaulista.Proofs.Handled
import TrucoPaulista.Proofs.Refused

namespace TrucoPaulista

/-- What a message comes to before anybody is told of it: the reply, the place, and the news that
those at the table are told before the state of the room, if they are told anything. -/
structure Upshot (ρ : Type) where
  reply : ρ
  place : AtTable
  news : Option (List Event)

namespace AtTable

/-- Everyone at the table is told some news, and then the state of the room. -/
def announce (news : List Event) (place : AtTable) : AtTable :=
  (news.foldl broadcast place).broadcastRoom

theorem change_change (first second : AtTable → AtTable) {α : Type} (next : TableStep α) :
    (do change first; change second; next) = (do change (second ∘ first); next) := rfl

section Steps

-- The steps of a table, up to the moment at which somebody is told.

variable (connection : ConnectionId)

def sitDown (token : String) (queue : QueueId) : TableStep Session := do
  let matchId ← Action.look (fun place : AtTable => place.table.matchId)
  if !(← onFloor (FloorStep.ofService (Service.doesExist matchId))) then throw (.matchNotFound matchId)
  let session ← onFloor (FloorStep.ofLobby (fun lobby => lobby.join matchId connection token))
  change (subscribe connection queue)
  return session

def becomeReady (ready : Bool) : TableStep RoomView := do
  let _ ← seated connection
  onFloor (FloorStep.ofLobby (fun lobby => lobby.setReady connection ready))

def callHand (vira : Option Rank) : TableStep (HandStart × MatchView) := do
  let matchId ← Action.look (fun place : AtTable => place.table.matchId)
  let _ ← seated connection
  if !(← Action.look (fun place : AtTable => place.floor.lobby.canStart matchId)) then
    throw (.room .notAllReady)
  let vira ← pickVira vira
  let start ← onFloor (FloorStep.ofService (Service.startHand matchId vira))
  let _ ← onFloor (FloorStep.ofLobby (fun lobby =>
    if start.started then lobby.beginHand matchId else lobby.resumeHand matchId start.awaiting))
  let state ← onFloor (FloorStep.ofService (Service.viewState matchId))
  return (start, state)

def layCard (card : Card) : TableStep CardPlayed := do
  let matchId ← Action.look (fun place : AtTable => place.table.matchId)
  let session ← seated connection
  if !(← Action.look (fun place : AtTable =>
      place.floor.lobby.isPlayersTurn connection matchId)) then
    throw (.room .notYourTurn)
  let result ← onFloor (FloorStep.ofService (Service.playCard matchId session.seat.side card))
  change (passTurn session.seat.side result.outcome)
  return ⟨session.seat, card, result⟩

def getUp (place : AtTable) : AtTable where
  table := { place.table with subscribers := place.table.subscribers.erase connection }
  floor := { place.floor with lobby := (place.floor.lobby.leave connection).2 }

/-- To join is to sit down, and then everybody is told the state of the room. -/
theorem join_eq (token : String) (queue : QueueId) : join connection token queue = (do
    let session ← sitDown connection token queue
    change (announce [])
    return session) := by
  unfold join sitDown
  simp only [bind_assoc]
  refine bind_congr (fun matchId => bind_congr (fun exists' => ?_))
  cases exists' with
  | false => rfl
  | true =>
    simp only [Bool.not_true, Bool.false_eq_true, if_false, bind_assoc, pure_bind]
    rfl

/-- To become ready is to be marked so, and then everybody is told the view that is answered. -/
theorem setReady_eq (ready : Bool) : setReady connection ready = (do
    let view ← becomeReady connection ready
    change (fun place => place.broadcast (.ofRoom view))
    return view) := by
  unfold setReady becomeReady
  simp only [bind_assoc]

/-- To start a hand is to call it, and then everybody is told of it, of the match and of the room. -/
theorem startHand_eq (vira : Option Rank) : startHand connection vira = (do
    let (start, state) ← callHand connection vira
    change (announce [.ofStart start, .ofMatch state])
    return start) := by
  unfold startHand callHand
  simp only [bind_assoc]
  refine bind_congr (fun matchId => bind_congr (fun session => bind_congr (fun full => ?_)))
  cases full with
  | false => rfl
  | true =>
    simp only [Bool.not_true, Bool.false_eq_true, if_false, bind_assoc, pure_bind]
    refine bind_congr (fun vira => bind_congr (fun start => bind_congr (fun _ => ?_)))
    refine bind_congr (fun state => ?_)
    rw [change_change, change_change]
    rfl

/-- To play a card is to lay it, and then everybody is told of it, of the match and of the room. -/
theorem playCard_eq (card : Card) : playCard connection card = (do
    let played ← layCard connection card
    change (announce [.ofCard played, .ofMatch played.result.state])
    return played) := by
  unfold playCard layCard
  simp only [bind_assoc]
  refine bind_congr (fun matchId => bind_congr (fun session => bind_congr (fun mine => ?_)))
  cases mine with
  | false => rfl
  | true =>
    simp only [Bool.not_true, Bool.false_eq_true, if_false, bind_assoc, pure_bind]
    refine bind_congr (fun result => bind_congr (fun _ => ?_))
    rw [change_change, change_change]
    rfl

/-- To leave is to get up, and then those that stay are told the state of the room. A connection without
a seat is not missed. -/
theorem leave_eq (place : AtTable) : place.leave connection =
    match (place.floor.lobby.leave connection).1 with
    | some matchId => (some matchId, (place.getUp connection).announce [])
    | none => (none, place.getUp connection) := by
  unfold leave getUp
  rcases place.floor.lobby.leave connection with ⟨left | _, lobby⟩ <;> rfl

end Steps

end AtTable

/-- The upshot of a step that everybody is told of when it is answered. -/
def Upshot.of {α β : Type} (step : TableStep β) (reply : β → α) (news : β → List Event)
    (place : AtTable) : Upshot (Except Refusal α) :=
  match step.apply place with
  | (.ok answer, place) => ⟨.ok (reply answer), place, some (news answer)⟩
  | (.error refusal, place) => ⟨.error refusal, place, none⟩

/-- The place once everybody was told. -/
def Upshot.told {ρ : Type} (upshot : Upshot ρ) : AtTable :=
  upshot.news.elim upshot.place upshot.place.announce

def Message.upshot {ρ : Type} (place : AtTable) : Message ρ → Upshot ρ
  | .join connection token queue =>
    .of (AtTable.sitDown connection token queue) id (fun _ => []) place
  | .setReady connection ready => .of (AtTable.becomeReady connection ready) id (fun _ => []) place
  | .startHand connection vira =>
    .of (AtTable.callHand connection vira) Prod.fst
      (fun opened => [.ofStart opened.1, .ofMatch opened.2]) place
  | .playCard connection card =>
    .of (AtTable.layCard connection card) id
      (fun played => [.ofCard played, .ofMatch played.result.state]) place
  | .getState => ⟨(AtTable.getState.apply place).1, (AtTable.getState.apply place).2, none⟩
  | .leave connection =>
    ⟨(place.floor.lobby.leave connection).1, place.getUp connection,
      (place.floor.lobby.leave connection).1.map (fun _ => [])⟩
  | .close => ⟨(), place.close, none⟩

section Upshots

variable {α β : Type} {step : TableStep β} {reply : β → α} {news : β → List Event}
  {place : AtTable}

/-- A step comes to an answer with its news, or to a refusal without any. -/
theorem Upshot.of_cases {answered : β → AtTable → Prop} {refused : Refusal → AtTable → Prop}
    (yields : step.Yields place answered refused) :
    (∃ answer mid, Upshot.of step reply news place = ⟨.ok (reply answer), mid, some (news answer)⟩ ∧
      answered answer mid) ∨
    (∃ refusal mid, Upshot.of step reply news place = ⟨.error refusal, mid, none⟩ ∧
      refused refusal mid) := by
  unfold Upshot.of
  rcases applied : step.apply place with ⟨refusal | answer, mid⟩
  · exact Or.inr ⟨refusal, mid, rfl, yields.refusal refusal mid applied⟩
  · exact Or.inl ⟨answer, mid, rfl, yields.answer answer mid applied⟩

/-- A step whose answer is announced comes to its upshot, of which everybody is told. -/
theorem Upshot.of_announced : (do
    let answer ← step
    AtTable.change (AtTable.announce (news answer))
    return reply answer : TableStep α).apply place =
      ((Upshot.of step reply news place).reply, (Upshot.of step reply news place).told) := by
  rw [Action.apply_bind]
  unfold Upshot.of
  rcases step.apply place with ⟨refusal | answer, mid⟩ <;> rfl

end Upshots

namespace Lobby

/-- The view with which a player is answered shows the room as it has become. -/
theorem setReady_answered {lobby lobby' : Lobby} {connection : ConnectionId} {ready : Bool}
    {view : RoomView} {session : Session} (seated : lobby.session connection = some session)
    (answered : lobby.setReady connection ready = (.ok view, lobby')) :
    view = lobby'.roomView session.matchId := by
  unfold setReady at answered
  rw [(bound_of_session seated).1] at answered
  dsimp only at answered
  split at answered
  next => cases answered
  next =>
    split at answered
    next => cases answered
    next => cases answered; rfl

theorem room_change {lobby : Lobby} {matchId : MatchId} {room : Room}
    (found : lobby.rooms.get? matchId = some room) (step : Room → Room) :
    (lobby.change matchId step).2.room matchId = step room := by
  unfold change
  rw [found]
  exact room_of_get? _ _ (by simp)

end Lobby

namespace Action

variable {σ ε α : Type} {action : Action σ ε α} {s : σ} {answered answered' : α → σ → Prop}
  {refused refused' : ε → σ → Prop}

theorem Yields.and (first : action.Yields s answered refused)
    (second : action.Yields s answered' refused') :
    action.Yields s (fun answer s' => answered answer s' ∧ answered' answer s')
      (fun refusal s' => refused refusal s' ∧ refused' refusal s') where
  answer answer s' applied := ⟨first.answer answer s' applied, second.answer answer s' applied⟩
  refusal refusal s' applied := ⟨first.refusal refusal s' applied, second.refusal refusal s' applied⟩

end Action

/-- Whether two archives hold the same under every name but the one of a match. -/
def Archive.SameBut (text : String) (archive archive' : Archive) : Prop :=
  ∀ other, other ≠ Text.trim text → archive'.stored.get? other = archive.stored.get? other

section Elsewhere

variable {archive archive' archive'' : Archive} {text : String} {matchId : MatchId} {m m' : Match}

theorem Archive.SameBut.of_stored (same : archive'.stored = archive.stored) :
    archive.SameBut text archive' := fun _ _ => by rw [same]

theorem Archive.SameBut.trans (first : archive.SameBut text archive')
    (second : archive'.SameBut text archive'') : archive.SameBut text archive'' :=
  fun other away => (second other away).trans (first other away)

theorem Archive.sameBut_put (named : archive.named text = .ok (matchId, m)) :
    archive.SameBut text ((archive.after 2).put matchId m') := by
  intro other away
  obtain ⟨rfl, _⟩ := Request.matchId_eq_ok.mp (Archive.named_eq_ok.mp named).1
  simp [away]

theorem Service.startHand_sameBut (vira : Rank) : (startHand text vira).Yields archive
    (fun _ => archive.SameBut text) (fun _ => archive.SameBut text) := by
  rcases startHand_cases archive text vira with
    ⟨_, _, _, done⟩ | ⟨_, _, _, done⟩ | ⟨_, _, _, _, _, _, done⟩ | ⟨_, _, _, _, named, _, done⟩
  · exact (Action.yields_iff_of_error done).mpr (.of_stored rfl)
  · exact (Action.yields_iff_of_error done).mpr (.of_stored rfl)
  · exact (Action.yields_iff_of_error done).mpr (.of_stored rfl)
  · refine (Action.yields_iff_of_ok done).mpr ?_
    split
    next => exact Archive.sameBut_put named
    next => exact .of_stored rfl

theorem Service.playCard_sameBut (side : Side) (card : Card) : (playCard text side card).Yields archive
    (fun _ => archive.SameBut text) (fun _ => archive.SameBut text) := by
  rcases playCard_cases archive text side card with
    ⟨_, _, _, done⟩ | ⟨_, _, _, done⟩ | ⟨_, _, _, _, _, _, done⟩ | ⟨_, _, _, _, named, _, done⟩
  · exact (Action.yields_iff_of_error done).mpr (.of_stored rfl)
  · exact (Action.yields_iff_of_error done).mpr (.of_stored rfl)
  · exact (Action.yields_iff_of_error done).mpr (.of_stored rfl)
  · exact (Action.yields_iff_of_ok done).mpr (Archive.sameBut_put named)

end Elsewhere

theorem Service.startHand_begins (archive : Archive) (text : String) (vira : Rank) :
    (startHand text vira).Yields archive
      (fun start _ => start.started → archive.hand text = none) (fun _ _ => True) := by
  rcases startHand_cases archive text vira with
    ⟨_, _, _, done⟩ | ⟨_, _, _, done⟩ | ⟨_, _, _, _, _, _, done⟩ |
    ⟨matchId, m, m', outcome, named, begun, done⟩
  · exact (Action.yields_iff_of_error done).mpr trivial
  · exact (Action.yields_iff_of_error done).mpr trivial
  · exact (Action.yields_iff_of_error done).mpr trivial
  · refine (Action.yields_iff_of_ok done).mpr ?_
    intro fresh
    have outcome_eq : outcome = .started := by simpa [Match.handStart] using fresh
    have sound := Archive.sound_of_named named
    -- a match in progress would have gone on with its hand
    have waits : m.state ≠ .inProgress := by
      intro going
      rcases m.start_cases vira with ⟨_, ended⟩ | ⟨_, again⟩ | ⟨waits, _⟩
      · simp [ended] at begun
      · simp [again, outcome_eq] at begun
      · simp [going] at waits
    rw [Archive.hand_of_named named]
    by_contra hand
    exact waits (sound.inProgress.mpr (Option.isSome_iff_ne_none.mpr hand))

namespace AtTable

def room (place : AtTable) : Room := place.floor.lobby.room place.table.matchId

def hand (place : AtTable) : Option Hand := place.floor.archive.hand place.table.matchId

/-- Whether a step has left those at the table where they were, and has told nobody anything. No
other match is stored otherwise. -/
structure Quiet (place mid : AtTable) : Prop where
  table : mid.table = place.table
  queues : mid.floor.queues = place.floor.queues
  stored : place.floor.archive.SameBut place.table.matchId mid.floor.archive

/-- Whether a step has changed neither what is stored nor any room. -/
structure Idle (place mid : AtTable) : Prop where
  table : mid.table = place.table
  queues : mid.floor.queues = place.floor.queues
  stored : mid.floor.archive.stored = place.floor.archive.stored
  lobby : mid.floor.lobby = place.floor.lobby

/-- Whether a hand was begun in a full room, or was taken up again there. -/
structure Opens (place mid : AtTable) : Prop where
  full : place.floor.lobby.canStart place.table.matchId
  kind : (place.hand = none ∧ mid.hand ≠ none ∧
      mid.floor.lobby = (place.floor.lobby.beginHand place.table.matchId).2) ∨
    (place.hand ≠ none ∧ ∃ awaiting,
      mid.floor.lobby = (place.floor.lobby.resumeHand place.table.matchId awaiting).2)

section Steps

variable (place : AtTable) (connection : ConnectionId)

theorem Idle.refl : place.Idle place := ⟨rfl, rfl, rfl, rfl⟩

variable {place} in
theorem Idle.quiet {mid : AtTable} (idle : place.Idle mid) : place.Quiet mid :=
  ⟨idle.table, idle.queues, .of_stored idle.stored⟩

variable {place} in
theorem Idle.hand {mid : AtTable} (idle : place.Idle mid) : mid.hand = place.hand := by
  unfold AtTable.hand
  rw [idle.table]
  exact Archive.hand_congr (by rw [idle.stored])

variable {place} in
theorem Idle.room {mid : AtTable} (idle : place.Idle mid) : mid.room = place.room := by
  rw [AtTable.room, AtTable.room, idle.table, idle.lobby]

theorem yields_idle {α : Type} {step : Service.Step α}
    (keeps : step.Yields place.floor.archive
      (fun _ archive' => archive'.stored = place.floor.archive.stored)
      (fun _ archive' => archive'.stored = place.floor.archive.stored)) :
    (onFloor (FloorStep.ofService step)).Yields place (fun _ mid => place.Idle mid) (fun _ mid => place.Idle mid) := by
  simp only [onFloor, FloorStep.ofService, Action.yields_on]
  exact keeps.mono (fun _ _ same => ⟨rfl, rfl, same, rfl⟩) (fun _ _ same => ⟨rfl, rfl, same, rfl⟩)

/-- Whoever sits down was given the seat by the lobby and takes events from the queue. A refusal changes
nothing. -/
theorem sitDown_yields (token : String) (queue : QueueId) :
    (sitDown connection token queue).Yields place
      (fun session mid => ∃ before lobby, place.Quiet before ∧
        place.floor.lobby.join place.table.matchId connection token = (.ok session, lobby) ∧
        mid = subscribe connection queue { before with floor := { before.floor with lobby } })
      (fun _ mid => place.Idle mid) := by
  unfold sitDown
  simp only [Action.yields_bind, Action.yields_look]
  refine (place.yields_idle Service.doesExist_keeps).mono ?_ (fun _ _ => id)
  intro found before idle
  cases found with
  | false => exact Action.yields_throw.mpr idle
  | true =>
    simp only [Bool.not_true, Bool.false_eq_true, if_false, Action.yields_bind, yields_change,
      Action.yields_pure, onFloor, FloorStep.ofLobby, Action.yields_on, Action.yields_mapRefusal]
    constructor
    · intro session lobby answered
      rw [Action.apply_ofStep, idle.lobby] at answered
      exact ⟨before, lobby, idle.quiet, answered, rfl⟩
    · intro refusal lobby refused
      rw [Action.apply_ofStep] at refused
      exact ⟨idle.table, idle.queues, idle.stored, (Lobby.join_refused refused).trans idle.lobby⟩

/-- Only a player of the match becomes ready, and the view is the one of the room then. -/
theorem becomeReady_yields (ready : Bool) :
    (becomeReady connection ready).Yields place
      (fun view mid => place.Quiet mid ∧ view = mid.roomView ∧
        (∃ session, place.floor.lobby.session connection = some session ∧
          session.matchId = place.table.matchId) ∧
        mid.floor.lobby = (place.floor.lobby.setReady connection ready).2)
      (fun _ mid => place.Idle mid) := by
  unfold becomeReady
  simp only [Action.yields_bind]
  refine (seated_yields place connection).mono ?_ ?_
  · rintro session _ ⟨rfl, found, here⟩
    rename_i place
    simp only [onFloor, FloorStep.ofLobby, Action.yields_on, Action.yields_mapRefusal]
    constructor
    · intro view lobby answered
      have told := Lobby.setReady_answered found answered
      rw [here] at told
      exact ⟨⟨rfl, rfl, .of_stored rfl⟩, told, ⟨session, found, here⟩, (congrArg Prod.snd answered).symm⟩
    · intro refusal lobby refused
      exact ⟨rfl, rfl, rfl, Lobby.setReady_refused refused⟩
  · rintro _ _ ⟨rfl, _⟩
    exact .refl _

/-- A hand that is called is begun or taken up again. So it may be after a refusal, where the state
could not be read. -/
theorem callHand_yields (vira : Option Rank) :
    (callHand connection vira).Yields place
      (fun _ mid => place.Quiet mid ∧ place.Opens mid)
      (fun _ mid => place.Quiet mid ∧ place.Opens mid ∨ place.Idle mid) := by
  unfold callHand
  simp only [Action.yields_bind, Action.yields_look]
  refine (seated_yields place connection).mono ?_ ?_
  · rintro session _ ⟨rfl, found, here⟩
    rename_i place
    cases full : place.floor.lobby.canStart place.table.matchId with
    | false => exact Action.yields_throw.mpr (Or.inr (.refl _))
    | true =>
      simp only [Bool.not_true, Bool.false_eq_true, if_false, Action.yields_bind,
        Action.yields_pure]
      obtain ⟨dealer, drawn⟩ := place.pickVira_apply vira
      refine (Action.yields_iff_of_ok drawn).mpr ?_
      simp only [onFloor, FloorStep.ofService, FloorStep.ofLobby, Action.yields_on,
        Action.yields_mapRefusal]
      have starts := ((Service.startHand_yields place.floor.archive place.table.matchId
        (vira.getD place.floor.dealer.draw.1)).and (Service.startHand_begins _ _ _)).and
        ((Service.startHand_sameBut _).and (Service.startHand_refused _))
      refine starts.mono ?_ ?_
      · rintro start archive ⟨⟨⟨h, later, _, before⟩, begins⟩, stored, _⟩
        obtain ⟨view, lobby, turned, _⟩ := Lobby.start_apply full start.started start.awaiting
        have turned' : (Action.ofStep (fun lobby : Lobby =>
            if start.started then lobby.beginHand place.table.matchId
            else lobby.resumeHand place.table.matchId start.awaiting)).apply place.floor.lobby =
              (.ok view, lobby) := turned
        refine (Action.yields_iff_of_ok turned').mpr ?_
        have opens : ∀ archive' : Archive,
            archive'.hand place.table.matchId = archive.hand place.table.matchId →
            archive'.stored = archive.stored →
            place.Quiet ⟨place.table, { place.floor with dealer, archive := archive', lobby }⟩ ∧
            place.Opens ⟨place.table, { place.floor with dealer, archive := archive', lobby }⟩ := by
          intro archive' same kept
          refine ⟨⟨rfl, rfl, stored.trans (.of_stored kept)⟩, full, ?_⟩
          cases fresh : start.started with
          | true =>
            rw [fresh, if_pos rfl] at turned
            refine Or.inl ⟨begins fresh, ?_, (congrArg Prod.snd turned).symm⟩
            simp [hand, same, later]
          | false =>
            rw [fresh, if_neg Bool.false_ne_true] at turned before
            refine Or.inr ⟨?_, start.awaiting, (congrArg Prod.snd turned).symm⟩
            simp [hand, before]
        have read := (Service.viewState_yields archive place.table.matchId).and Service.viewState_keeps
        refine read.mono ?_ ?_
        · intro state archive' same
          exact opens archive' same.1 same.2
        · intro refusal archive' same
          exact Or.inl (opens archive' same.1 same.2)
      · rintro refusal archive ⟨_, _, same⟩
        exact Or.inr ⟨rfl, rfl, same, rfl⟩
  · rintro _ _ ⟨rfl, _⟩
    exact Or.inr (.refl _)

/-- A card is accepted only from the player who has the turn, which is then passed on. -/
theorem layCard_yields (card : Card) :
    (layCard connection card).Yields place
      (fun played mid => place.Quiet mid ∧
        (∃ session, place.floor.lobby.session connection = some session ∧
          session.matchId = place.table.matchId ∧ played.seat = session.seat) ∧
        place.floor.lobby.isPlayersTurn connection place.table.matchId ∧
        mid.floor.lobby = (passTurn played.seat.side played.result.outcome place).floor.lobby)
      (fun _ mid => place.Idle mid) := by
  unfold layCard
  simp only [Action.yields_bind, Action.yields_look]
  refine (seated_yields place connection).mono ?_ ?_
  · rintro session _ ⟨rfl, found, here⟩
    rename_i place
    cases turn : place.floor.lobby.isPlayersTurn connection place.table.matchId with
    | false => exact Action.yields_throw.mpr (.refl _)
    | true =>
      simp only [Bool.not_true, Bool.false_eq_true, if_false, Action.yields_bind,
        yields_change, Action.yields_pure, onFloor, FloorStep.ofService, Action.yields_on]
      refine ((Service.playCard_sameBut _ _).and (Service.playCard_refused _ _)).mono ?_ ?_
      · rintro result archive ⟨stored, _⟩
        exact ⟨⟨rfl, rfl, stored⟩, ⟨session, found, here, rfl⟩, trivial, rfl⟩
      · rintro refusal archive ⟨_, same⟩
        exact ⟨rfl, rfl, same, rfl⟩
  · rintro _ _ ⟨rfl, _⟩
    exact .refl _

theorem getState_idle : place.Idle (getState.apply place).2 := by
  have read : getState.Yields place (fun _ mid => place.Idle mid) (fun _ mid => place.Idle mid) := by
    unfold getState
    simp only [Action.yields_bind, Action.yields_look]
    exact place.yields_idle Service.viewState_keeps
  exact read.apply

end Steps

/-- All that a message can come to before anybody is told of it. -/
inductive Comes (place : AtTable) : {ρ : Type} → Message ρ → Upshot ρ → Prop where
  | join {connection : ConnectionId} {token : String} {queue : QueueId} {session : Session}
      {before : AtTable} {lobby : Lobby} (quiet : place.Quiet before)
      (joined : place.floor.lobby.join place.table.matchId connection token = (.ok session, lobby)) :
      Comes place (.join connection token queue) ⟨.ok session,
        subscribe connection queue { before with floor := { before.floor with lobby } }, some []⟩
  | setReady {connection : ConnectionId} {ready : Bool} {mid : AtTable} (quiet : place.Quiet mid)
      (seated : ∃ session, place.floor.lobby.session connection = some session ∧
        session.matchId = place.table.matchId)
      (readied : mid.floor.lobby = (place.floor.lobby.setReady connection ready).2) :
      Comes place (.setReady connection ready) ⟨.ok mid.roomView, mid, some []⟩
  | startHand {connection : ConnectionId} {vira : Option Rank} {reply : Except Refusal HandStart}
      {mid : AtTable} {news : Option (List Event)} (quiet : place.Quiet mid) (opens : place.Opens mid) :
      Comes place (.startHand connection vira) ⟨reply, mid, news⟩
  | playCard {connection : ConnectionId} {card : Card} {played : CardPlayed} {mid : AtTable}
      {news : List Event} (quiet : place.Quiet mid)
      (seated : ∃ session, place.floor.lobby.session connection = some session ∧
        session.matchId = place.table.matchId ∧ played.seat = session.seat)
      (turn : place.floor.lobby.isPlayersTurn connection place.table.matchId)
      (passed : mid.floor.lobby =
        (passTurn played.seat.side played.result.outcome place).floor.lobby) :
      Comes place (.playCard connection card) ⟨.ok played, mid, some news⟩
  | getState {reply : Except Refusal MatchView} {mid : AtTable} (idle : place.Idle mid) :
      Comes place .getState ⟨reply, mid, none⟩
  | leave {connection : ConnectionId} : Comes place (.leave connection)
      ⟨(place.floor.lobby.leave connection).1, getUp connection place,
        (place.floor.lobby.leave connection).1.map (fun _ => [])⟩
  | close : Comes place .close ⟨(), place.close, none⟩
  | refused {ρ : Type} {message : Message ρ} {reply : ρ} {mid : AtTable} (idle : place.Idle mid)
      (refused : message.isRefusal reply) : Comes place message ⟨reply, mid, none⟩

theorem comes_upshot (place : AtTable) {ρ : Type} (message : Message ρ) :
    place.Comes message (message.upshot place) := by
  cases message with
  | join connection token queue =>
    rw [Message.upshot]
    rcases Upshot.of_cases (place.sitDown_yields connection token queue) with
      ⟨session, _, stands, before, lobby, quiet, joined, rfl⟩ | ⟨refusal, mid, stands, idle⟩ <;> rw [stands]
    · exact .join quiet joined
    · exact .refused idle rfl
  | setReady connection ready =>
    rw [Message.upshot]
    rcases Upshot.of_cases (place.becomeReady_yields connection ready) with
      ⟨_, mid, stands, quiet, rfl, seated, readied⟩ | ⟨refusal, mid, stands, idle⟩ <;> rw [stands]
    · exact .setReady quiet seated readied
    · exact .refused idle rfl
  | startHand connection vira =>
    rw [Message.upshot]
    rcases Upshot.of_cases (place.callHand_yields connection vira) with
      ⟨answer, mid, stands, quiet, opens⟩ | ⟨refusal, mid, stands, ⟨quiet, opens⟩ | idle⟩ <;> rw [stands]
    · exact .startHand quiet opens
    · exact .startHand quiet opens
    · exact .refused idle rfl
  | playCard connection card =>
    rw [Message.upshot]
    rcases Upshot.of_cases (place.layCard_yields connection card) with
      ⟨played, mid, stands, quiet, seated, turn, passed⟩ | ⟨refusal, mid, stands, idle⟩ <;> rw [stands]
    · exact .playCard quiet seated turn passed
    · exact .refused idle rfl
  | getState => exact .getState place.getState_idle
  | leave connection => exact .leave
  | close => exact .close

/-- A message is handled in silence first, and then those at the table are told. -/
theorem handle_eq {ρ : Type} (message : Message ρ) (place : AtTable) :
    handle message place = ((message.upshot place).reply, (message.upshot place).told) := by
  cases message with
  | join connection token queue =>
    change (join connection token queue).apply place = _
    rw [join_eq]
    exact Upshot.of_announced
  | setReady connection ready =>
    rw [Message.upshot, Upshot.told, Upshot.of]
    change (setReady connection ready).apply place = _
    rw [setReady_eq, Action.apply_bind]
    have yields := place.becomeReady_yields connection ready
    rcases stands : (becomeReady connection ready).apply place with ⟨refusal | view, mid⟩
    · rfl
    · obtain ⟨_, rfl, _⟩ := yields.answer view mid stands
      rfl
  | startHand connection vira =>
    change (startHand connection vira).apply place = _
    rw [startHand_eq]
    exact Upshot.of_announced
  | playCard connection card =>
    change (playCard connection card).apply place = _
    rw [playCard_eq]
    exact Upshot.of_announced
  | getState =>
    rw [Message.upshot, Upshot.told]
    change getState.apply place = _
    rcases getState.apply place with ⟨reply, mid⟩
    rfl
  | leave connection =>
    rw [Message.upshot, Upshot.told]
    change place.leave connection = _
    rw [leave_eq]
    rcases place.floor.lobby.leave connection with ⟨left | _, lobby⟩ <;> rfl
  | close => rfl

section Announcements

variable {place : AtTable} {holds : Lobby → Prop}
  (leaves : ∀ lobby connection, holds lobby → holds (lobby.leave connection).2)

include leaves

theorem lobby_broadcast (now : holds place.floor.lobby) (event : Event) :
    holds (place.broadcast event).floor.lobby := by
  obtain ⟨gone, told⟩ := place.told_broadcast event
  -- who has a full queue leaves, one after the other, and nothing else happens to the rooms
  rw [told.lobby]
  unfold Floor.unseat
  exact List.foldlRecOn gone _ now (fun lobby still connection _ => leaves lobby connection still)

theorem lobby_announce (now : holds place.floor.lobby) (news : List Event) :
    holds (place.announce news).floor.lobby := by
  unfold announce broadcastRoom
  refine lobby_broadcast leaves ?_ _
  induction news generalizing place with
  | nil => exact now
  | cons event rest ih => exact ih (lobby_broadcast leaves now event)

theorem lobby_told {ρ : Type} {upshot : Upshot ρ} (now : holds upshot.place.floor.lobby) :
    holds upshot.told.floor.lobby := by
  unfold Upshot.told
  cases upshot.news with
  | none => exact now
  | some news => exact lobby_announce leaves now news

end Announcements

theorem broadcast_keeps (place : AtTable) (event : Event) :
    (place.broadcast event).table.matchId = place.table.matchId ∧
      (place.broadcast event).floor.archive = place.floor.archive :=
  ⟨rfl, (place.floor.sendAll_keeps event place.table.subscribers.entries).2⟩

theorem announce_keeps (place : AtTable) (news : List Event) :
    (place.announce news).table.matchId = place.table.matchId ∧
      (place.announce news).floor.archive = place.floor.archive := by
  unfold announce broadcastRoom
  induction news generalizing place with
  | nil => exact place.broadcast_keeps _
  | cons event rest ih =>
    obtain ⟨name, archive⟩ := ih (place.broadcast event)
    obtain ⟨name', archive'⟩ := place.broadcast_keeps event
    exact ⟨name.trans name', archive.trans archive'⟩

theorem told_keeps {ρ : Type} (upshot : Upshot ρ) :
    upshot.told.table.matchId = upshot.place.table.matchId ∧
      upshot.told.floor.archive = upshot.place.floor.archive := by
  unfold Upshot.told
  cases upshot.news with
  | none => exact ⟨rfl, rfl⟩
  | some news => exact announce_keeps _ news

theorem stirs_news {mid : AtTable} (mirrored : mid.floor.lobby.Mirrored) (news : List Event) :
    mid.Stirs (news.foldl broadcast mid) :=
  List.foldlRecOn news _ (.refl mirrored) (fun _ stirs event _ => stirs.broadcast event)

theorem stirs_told {ρ : Type} {upshot : Upshot ρ} (mirrored : upshot.place.floor.lobby.Mirrored) :
    upshot.place.Stirs upshot.told := by
  unfold Upshot.told
  cases upshot.news with
  | none => exact .refl mirrored
  | some news => exact (stirs_news mirrored news).broadcastRoom

/-- The table of a match from the first one on, as long as nobody but those at it changes what is
stored of the match or its room. Between two messages players may be struck off, and the rooms of
other matches may change. -/
inductive Sitting (matchId : MatchId) : AtTable → Prop where
  | opened {place : AtTable} (name : place.table.matchId = matchId)
      (unoccupied : place.floor.lobby.rooms.get? matchId = none)
      (nobody : ∀ connection, place.table.subscribers.get? connection = none)
      (mirrored : place.floor.lobby.Mirrored) : Sitting matchId place
  | handled {place : AtTable} {ρ : Type} (before : Sitting matchId place) (message : Message ρ) :
      Sitting matchId (AtTable.handle message place).2
  | aside {place place' : AtTable} (before : Sitting matchId place)
      (other : Aside matchId place place')
      (fewer : ∀ connection queue, place'.table.subscribers.get? connection = some queue →
        place.table.subscribers.get? connection = some queue)
      (mirrored : place'.floor.lobby.Mirrored) : Sitting matchId place'

/-- A hand begins in a full room if there was none, and one that was going on is taken up again. -/
theorem Opens.room_cases {place mid : AtTable} (quiet : place.Quiet mid) (opens : place.Opens mid) :
    (∀ seat, place.room.isTaken seat) ∧
      ((place.hand = none ∧ mid.hand ≠ none ∧ mid.room = place.room.beginHand) ∨
        (place.hand ≠ none ∧ ∃ awaiting, mid.room = place.room.resumeHand awaiting)) := by
  obtain ⟨full, kind⟩ := opens
  obtain ⟨room, found, taken⟩ := Lobby.room_of_canStart full
  have before : place.room = room := Lobby.room_of_get? _ _ found
  rw [before]
  refine ⟨taken, ?_⟩
  rcases kind with ⟨none', some', begun⟩ | ⟨some', awaiting, resumed⟩
  · refine Or.inl ⟨none', some', ?_⟩
    rw [AtTable.room, quiet.table, begun]
    exact Lobby.room_change found _
  · refine Or.inr ⟨some', awaiting, ?_⟩
    rw [AtTable.room, quiet.table, resumed]
    exact Lobby.room_change found _

theorem Opens.sameSeats {place mid : AtTable} (opens : place.Opens mid) :
    Lobby.SameSeats place.floor.lobby mid.floor.lobby := by
  obtain ⟨_, ⟨_, _, begun⟩ | ⟨_, awaiting, resumed⟩⟩ := opens
  · exact begun ▸ Lobby.sameSeats_change _ _ fun _ => rfl
  · exact resumed ▸ Lobby.sameSeats_change _ _ fun room => room.chairs_resumeHand _

theorem sameSeats_passTurn (place : AtTable) (side : Side) (outcome : PlayOutcome) :
    Lobby.SameSeats place.floor.lobby (passTurn side outcome place).floor.lobby := by
  unfold passTurn
  dsimp only
  split
  next => exact Lobby.sameSeats_change _ _ fun _ => rfl
  next => exact Lobby.sameSeats_change _ _ fun room => room.chairs_advanceTurn _

theorem Comes.mirrored {place : AtTable} {ρ : Type} {message : Message ρ} {upshot : Upshot ρ}
    (comes : place.Comes message upshot) (mirrored : place.floor.lobby.Mirrored) :
    upshot.place.floor.lobby.Mirrored := by
  cases comes with
  | @join connection token queue session before lobby quiet joined =>
    have after := mirrored.join place.table.matchId connection token
    rw [joined] at after
    exact after
  | @setReady connection ready mid quiet seated readied =>
    exact readied ▸ mirrored.of_same (Lobby.sameSeats_setReady _ connection ready)
  | startHand quiet opens => exact mirrored.of_same opens.sameSeats
  | playCard quiet seated turn passed => exact passed ▸ mirrored.of_same (place.sameSeats_passTurn _ _)
  | getState idle => exact idle.lobby ▸ mirrored
  | @leave connection => exact mirrored.leave connection
  | close => exact mirrored
  | refused idle => exact idle.lobby ▸ mirrored

theorem Comes.queues {place : AtTable} {ρ : Type} {message : Message ρ} {upshot : Upshot ρ}
    (comes : place.Comes message upshot) : upshot.place.floor.queues = place.floor.queues := by
  cases comes with
  | join quiet => exact quiet.queues
  | setReady quiet => exact quiet.queues
  | startHand quiet => exact quiet.queues
  | playCard quiet => exact quiet.queues
  | getState idle => exact idle.queues
  | leave => rfl
  | close => rfl
  | refused idle => exact idle.queues

theorem Comes.frame {place : AtTable} {ρ : Type} {message : Message ρ} {upshot : Upshot ρ}
    (comes : place.Comes message upshot) : upshot.place.table.matchId = place.table.matchId ∧
      place.floor.archive.SameBut place.table.matchId upshot.place.floor.archive := by
  have quietly : ∀ {mid : AtTable}, place.Quiet mid → mid.table.matchId = place.table.matchId ∧
      place.floor.archive.SameBut place.table.matchId mid.floor.archive :=
    fun quiet => ⟨congrArg Table.matchId quiet.table, quiet.stored⟩
  cases comes with
  | join quiet =>
    obtain ⟨name, stored⟩ := quietly quiet
    exact ⟨name, stored⟩
  | setReady quiet => exact quietly quiet
  | startHand quiet => exact quietly quiet
  | playCard quiet => exact quietly quiet
  | getState idle => exact quietly idle.quiet
  | leave => exact ⟨rfl, .of_stored rfl⟩
  | close => exact ⟨rfl, .of_stored rfl⟩
  | refused idle => exact quietly idle.quiet

theorem mirrored_handle {place : AtTable} (mirrored : place.floor.lobby.Mirrored) {ρ : Type}
    (message : Message ρ) : (handle message place).2.floor.lobby.Mirrored := by
  rw [handle_eq]
  exact lobby_told (fun _ connection still => still.leave connection)
    ((place.comes_upshot message).mirrored mirrored)

theorem matchId_handle {ρ : Type} (message : Message ρ) (place : AtTable) :
    (handle message place).2.table.matchId = place.table.matchId := by
  rw [handle_eq]
  exact (told_keeps _).1.trans (place.comes_upshot message).frame.1

section Sittings

variable {matchId : MatchId} {place : AtTable}

theorem Sitting.mirrored (sitting : Sitting matchId place) : place.floor.lobby.Mirrored := by
  induction sitting with
  | opened _ _ _ mirrored => exact mirrored
  | handled _ message mirrored => exact mirrored_handle mirrored message
  | aside _ _ _ mirrored => exact mirrored

theorem Sitting.run (sitting : Sitting matchId place) : Run matchId place := by
  induction sitting with
  | opened name unoccupied _ _ => exact .opened name unoccupied
  | handled _ message run => exact run.handled message
  | aside _ other _ _ run => exact run.aside other

/-- The place after several messages, one after the other. -/
def handleAll (messages : List (Sigma Message)) (place : AtTable) : AtTable :=
  messages.foldl (fun place message => (handle message.2 place).2) place

theorem Sitting.handledAll (sitting : Sitting matchId place) (messages : List (Sigma Message)) :
    Sitting matchId (handleAll messages place) := by
  induction messages generalizing place with
  | nil => exact sitting
  | cons message rest ih => exact ih (sitting.handled message.2)

end Sittings

/-- Four players have sat down and are ready, and a hand has begun. -/
def openingMessages : List (Sigma Message) := [
  ⟨_, .join "a" "ana" 0⟩, ⟨_, .join "b" "bia" 1⟩, ⟨_, .join "c" "cai" 2⟩, ⟨_, .join "d" "duda" 3⟩,
  ⟨_, .setReady "a" true⟩, ⟨_, .setReady "b" true⟩, ⟨_, .setReady "c" true⟩, ⟨_, .setReady "d" true⟩,
  ⟨_, .startHand "b" (some .four)⟩]

theorem sitting_newTable : Sitting "match_1" newTable :=
  .opened rfl rfl (fun _ => rfl) Lobby.mirrored_empty

end AtTable

end TrucoPaulista
