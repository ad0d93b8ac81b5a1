import TrucoPaulista.Proofs.Calls
import TrucoPaulista.Proofs.News

namespace TrucoPaulista

namespace Action

/-- Whether a step leaves something in the state as it is, with an answer as with a refusal. -/
def Keeps {σ ε α β : Type} (view : σ → β) (action : Action σ ε α) : Prop :=
  ∀ s, view (action.apply s).2 = view s

section Keeps

variable {σ τ ε α β γ ι : Type} {view : σ → β} {view' : τ → γ}

theorem keeps_pure (answer : α) : (pure answer : Action σ ε α).Keeps view := fun _ => rfl

theorem keeps_throw (refusal : ε) : (throw refusal : Action σ ε α).Keeps view := fun _ => rfl

theorem keeps_look (look' : σ → α) : (look look' : Action σ ε α).Keeps view := fun _ => rfl

theorem keeps_ofExcept (answer : Except ε α) : (ofExcept answer : Action σ ε α).Keeps view :=
  fun _ => rfl

theorem Keeps.bind {action : Action σ ε α} {next : α → Action σ ε ι} (first : action.Keeps view)
    (later : ∀ answer, (next answer).Keeps view) : (action >>= next).Keeps view := by
  intro s
  have kept := first s
  rw [apply_bind]
  rcases applied : action.apply s with ⟨refusal | answer, s'⟩
  · rw [applied] at kept
    exact kept
  · rw [applied] at kept
    exact (later answer s').trans kept

theorem Keeps.on {action : Action σ ε α} {part : τ → σ} {replace : τ → σ → τ}
    (kept : action.Keeps view)
    (same : ∀ t s, view s = view (part t) → view' (replace t s) = view' t) :
    (action.on part replace).Keeps view' := fun t => same t _ (kept (part t))

end Keeps

end Action

/-- Whether something about an archive stays as it is when the archive is called to no avail, and when
a match is stored again under its name. -/
structure Archive.Steady {β : Type} (view : Archive → β) : Prop where
  after : ∀ (archive : Archive) (count : Nat), view (archive.after count) = view archive
  put : ∀ (archive : Archive) (matchId : MatchId) (m : Match), archive.stored.contains matchId →
    view (archive.put matchId m) = view archive

theorem Archive.steady_fault : Steady Archive.fault := ⟨fun _ _ => rfl, fun _ _ _ _ => rfl⟩

namespace Service

variable {β : Type} {view : Archive → β} (steady : Archive.Steady view) (text : String)

include steady

theorem keeps_put {matchId : MatchId} {m m' : Match} {archive : Archive} (count : Nat)
    (named : archive.named text = .ok (matchId, m)) :
    view ((archive.after count).put matchId m') = view archive := by
  have present : (archive.after count).stored.contains matchId :=
    Archive.contains_of_lookup (Archive.named_eq_ok.mp named).2
  exact (steady.put _ matchId m' present).trans (steady.after archive count)

theorem keeps_doesExist : (doesExist text).Keeps view := by
  intro archive
  rcases doesExist_cases archive text with
    ⟨_, _, done⟩ | ⟨_, _, done⟩ | ⟨_, _, _, _, done⟩ | ⟨_, _, done⟩ <;> rw [done]
  · exact steady.after archive 1
  · exact steady.after archive 1
  · exact steady.after archive 1

theorem keeps_viewState : (viewState text).Keeps view := by
  intro archive
  rcases viewState_cases archive text with ⟨_, _, done⟩ | ⟨_, count, _, done⟩ | ⟨_, _, _, done⟩ <;>
    rw [done]
  · exact steady.after archive 1
  · exact steady.after archive count
  · exact steady.after archive 1

theorem keeps_startHand (vira : Rank) : (startHand text vira).Keeps view := by
  intro archive
  rcases startHand_cases archive text vira with ⟨_, count, _, done⟩ | ⟨_, count, _, done⟩ |
    ⟨_, _, _, count, _, _, done⟩ | ⟨_, _, _, _, named, _, done⟩ <;> rw [done]
  · exact steady.after archive count
  · exact steady.after archive count
  · exact steady.after archive count
  · dsimp only
    split
    next => exact keeps_put steady text 2 named
    next => exact steady.after archive 1

theorem keeps_playCard (side : Side) (card : Card) : (playCard text side card).Keeps view := by
  intro archive
  rcases playCard_cases archive text side card with ⟨_, count, _, done⟩ | ⟨_, count, _, done⟩ |
    ⟨_, _, _, count, _, _, done⟩ | ⟨_, _, _, _, named, _, done⟩ <;> rw [done]
  · exact steady.after archive count
  · exact steady.after archive count
  · exact steady.after archive count
  · exact keeps_put steady text 2 named

omit steady in
/-- Creating a match does not change which calls of the archive fail. -/
theorem fault_createMatch (points : Option Int64) : (createMatch points).Keeps Archive.fault := by
  intro archive
  rcases createMatch_cases archive points with ⟨_, _, done⟩ | ⟨_, _, done⟩ | ⟨_, _, done⟩ <;>
    rw [done] <;> rfl

end Service

/-- Whether something about a floor stays as it is whatever becomes of the lobby, the dealer and the roll
call, when events are sent, and when no match is created. -/
structure Floor.Steady {β : Type} (view : Floor → β) : Prop where
  archive : ∀ floor : Floor, Archive.Steady (fun archive => view { floor with archive })
  lobby : ∀ (floor : Floor) (lobby : Lobby), view { floor with lobby } = view floor
  dealer : ∀ (floor : Floor) (dealer : Dealer), view { floor with dealer } = view floor
  rollCall : ∀ (floor : Floor) (rollCall : RollCall), view { floor with rollCall } = view floor
  send : ∀ (floor : Floor) (queue : QueueId) (event : Event),
    view (floor.send queue event).2 = view floor

section SendAll

variable {β : Type} {view : Floor → β} (steady : Floor.Steady view) (floor : Floor) (event : Event)
  (entries : List (ConnectionId × QueueId))

include steady

theorem Floor.Steady.sendEach : view (floor.sendEach event entries).2 = view floor := by
  induction entries generalizing floor with
  | nil => rfl
  | cons entry rest ih =>
    exact (ih (floor.send entry.2 event).2).trans (steady.send floor entry.2 event)

theorem Floor.Steady.sendAll : view (floor.sendAll event entries).2 = view floor :=
  (steady.sendEach _ event _).trans (steady.rollCall floor _)

end SendAll

namespace AtTable

variable {β : Type} {view : Floor → β} (connection : ConnectionId)

theorem keeps_onFloor {α : Type} {step : FloorStep α} (kept : step.Keeps view) :
    (onFloor step).Keeps (fun place => view place.floor) := fun place => kept place.floor

theorem keeps_ofService {α : Type} {step : Service.Step α}
    (kept : ∀ floor : Floor, step.Keeps (fun archive => view { floor with archive })) :
    (onFloor (FloorStep.ofService step)).Keeps (fun place => view place.floor) :=
  keeps_onFloor fun floor => kept floor floor.archive

theorem keeps_seated {γ : Type} {view : AtTable → γ} : (seated connection).Keeps view := by
  refine (Action.keeps_look _).bind fun found => ?_
  cases found with
  | some session => exact Action.keeps_pure session
  | none => exact Action.keeps_throw _

section Steady

variable (steady : Floor.Steady view)

include steady

theorem keeps_ofLobby {α : Type} (step : Lobby → Except RoomError α × Lobby) :
    (onFloor (FloorStep.ofLobby step)).Keeps (fun place => view place.floor) :=
  keeps_onFloor fun floor => steady.lobby floor _

theorem steady_broadcast (place : AtTable) (event : Event) :
    view (place.broadcast event).floor = view place.floor :=
  (steady.lobby _ _).trans (steady.sendAll place.floor event place.table.subscribers.entries)

theorem keeps_broadcast (event : AtTable → Event) :
    (change (fun place => place.broadcast (event place))).Keeps (fun place => view place.floor) :=
  fun place => steady_broadcast steady place (event place)

theorem keeps_pickVira (vira : Option Rank) :
    (pickVira vira).Keeps (fun place => view place.floor) := by
  cases vira with
  | some vira => exact Action.keeps_pure vira
  | none => exact keeps_onFloor fun floor => steady.dealer floor _

theorem keeps_join (token : String) (queue : QueueId) :
    (join connection token queue).Keeps (fun place => view place.floor) := by
  refine (Action.keeps_look _).bind fun matchId => ?_
  refine (keeps_ofService fun floor => Service.keeps_doesExist (steady.archive floor) matchId).bind
    fun found => ?_
  split
  next => exact Action.keeps_throw _
  next =>
    refine (keeps_ofLobby steady _).bind fun session => Action.Keeps.bind (fun _ => rfl) fun _ => ?_
    exact (keeps_broadcast steady fun place => .ofRoom place.roomView).bind fun _ =>
      Action.keeps_pure session

theorem keeps_setReady (ready : Bool) :
    (setReady connection ready).Keeps (fun place => view place.floor) :=
  (keeps_seated connection).bind fun _ => (keeps_ofLobby steady _).bind fun room =>
    (keeps_broadcast steady fun _ => .ofRoom room).bind fun _ => Action.keeps_pure room

theorem keeps_startHand (vira : Option Rank) :
    (startHand connection vira).Keeps (fun place => view place.floor) := by
  refine (Action.keeps_look _).bind fun matchId => (keeps_seated connection).bind fun _ => ?_
  refine (Action.keeps_look _).bind fun full => ?_
  split
  next => exact Action.keeps_throw _
  next =>
    refine (keeps_pickVira steady vira).bind fun vira => ?_
    refine (keeps_ofService fun floor =>
      Service.keeps_startHand (steady.archive floor) matchId vira).bind fun start => ?_
    refine (keeps_ofLobby steady _).bind fun _ => ?_
    refine (keeps_ofService fun floor => Service.keeps_viewState (steady.archive floor) matchId).bind
      fun state => ?_
    refine (keeps_broadcast steady fun _ => .ofStart start).bind fun _ => ?_
    refine (keeps_broadcast steady fun _ => .ofMatch state).bind fun _ => ?_
    exact (keeps_broadcast steady fun place => .ofRoom place.roomView).bind fun _ =>
      Action.keeps_pure start

theorem keeps_playCard (card : Card) :
    (playCard connection card).Keeps (fun place => view place.floor) := by
  refine (Action.keeps_look _).bind fun matchId => (keeps_seated connection).bind fun session => ?_
  refine (Action.keeps_look _).bind fun turn => ?_
  split
  next => exact Action.keeps_throw _
  next =>
    refine (keeps_ofService fun floor =>
      Service.keeps_playCard (steady.archive floor) matchId _ card).bind fun result => ?_
    refine Action.Keeps.bind (fun place => steady.lobby place.floor _) fun _ => ?_
    refine (keeps_broadcast steady fun _ => .ofCard ⟨session.seat, card, result⟩).bind fun _ => ?_
    refine (keeps_broadcast steady fun _ => .ofMatch result.state).bind fun _ => ?_
    exact (keeps_broadcast steady fun place => .ofRoom place.roomView).bind fun _ =>
      Action.keeps_pure _

theorem keeps_getState : getState.Keeps (fun place => view place.floor) :=
  (Action.keeps_look _).bind fun matchId =>
    keeps_ofService fun floor => Service.keeps_viewState (steady.archive floor) matchId

theorem steady_leave (place : AtTable) : view (place.leave connection).2.floor = view place.floor := by
  have left := steady.lobby place.floor (place.floor.lobby.leave connection).2
  rw [leave_eq]
  cases (place.floor.lobby.leave connection).1 with
  | none => exact left
  | some matchId => exact (steady_broadcast steady _ _).trans left

theorem steady_handle {ρ : Type} (message : Message ρ) (place : AtTable) :
    view (handle message place).2.floor = view place.floor := by
  cases message with
  | join connection token queue =>
    rw [handle]
    exact keeps_join connection steady token queue place
  | setReady connection ready =>
    rw [handle]
    exact keeps_setReady connection steady ready place
  | startHand connection vira =>
    rw [handle]
    exact keeps_startHand connection steady vira place
  | playCard connection card =>
    rw [handle]
    exact keeps_playCard connection steady card place
  | getState =>
    rw [handle]
    exact keeps_getState steady place
  | leave connection => exact steady_leave connection steady place
  | close => rfl

end Steady

end AtTable

/-- Whether a call creates a match. -/
def Call.creates {α : Type} : Call α → Bool
  | .createMatch _ => true
  | _ => false

namespace Hall

variable {β : Type} {view : Floor → β} (connection : ConnectionId)

theorem keeps_ofService {α : Type} {step : Service.Step α}
    (kept : ∀ floor : Floor, step.Keeps (fun archive => view { floor with archive })) :
    (ofService step).Keeps (fun hall => view hall.floor) :=
  fun hall => kept hall.floor hall.floor.archive

section Steady

variable (steady : Floor.Steady view)

include steady

theorem steady_ask {ρ : Type} (hall : Hall) (table : TableId) (message : Message ρ) :
    view (hall.ask table message).2.floor = view hall.floor := by
  unfold ask
  split
  next => rfl
  next t _ => exact AtTable.steady_handle steady message ⟨t, hall.floor⟩

theorem steady_retireIfIdle (hall : Hall) (matchId : MatchId) :
    view (hall.retireIfIdle matchId).floor = view hall.floor := by
  unfold retireIfIdle
  split
  next => rfl
  next =>
    split
    next => rfl
    next table _ => exact steady_ask steady _ table Message.close

theorem keeps_request {α : Type} (handle : Handle) (message : Message (Except Refusal α)) :
    (request handle message).Keeps (fun hall => view hall.floor) := by
  intro hall
  have kept := steady_ask steady hall handle.table message
  unfold request
  rw [Action.apply_ofStep]
  rcases asked : hall.ask handle.table message with ⟨_ | reply, hall'⟩ <;> rw [asked] at kept <;>
    exact kept

theorem keeps_requestOrRetire {α : Type} (handle : Handle) (message : Message (Except Refusal α)) :
    (requestOrRetire handle message).Keeps (fun hall => view hall.floor) := by
  intro hall
  have kept := keeps_request steady handle message hall
  unfold requestOrRetire
  rw [Action.apply_ofStep]
  rcases requested : (request handle message).apply hall with ⟨refusal | answer, hall'⟩ <;>
    rw [requested] at kept
  · exact (steady_retireIfIdle steady hall' handle.matchId).trans kept
  · exact kept

theorem keeps_handle (text : String) : (Hall.handle text).Keeps (fun hall => view hall.floor) := by
  refine (Action.keeps_ofExcept _).bind fun matchId => (Action.keeps_look _).bind fun running => ?_
  cases running with
  | some handle => exact Action.keeps_pure handle
  | none =>
    refine (keeps_ofService fun floor => Service.keeps_doesExist (steady.archive floor) matchId).bind
      fun found => ?_
    split
    next => exact Action.keeps_throw _
    next =>
      intro hall
      change view (hall.runningOrOpen matchId).2.floor = view hall.floor
      unfold runningOrOpen
      split <;> rfl

theorem keeps_joinedHandle : (joinedHandle connection).Keeps (fun hall => view hall.floor) := by
  refine (Action.keeps_look _).bind fun found => ?_
  cases found with
  | some session => exact keeps_handle steady session.matchId
  | none => exact Action.keeps_throw _

theorem keeps_viewState (text : String) : (viewState text).Keeps (fun hall => view hall.floor) := by
  refine (Action.keeps_ofExcept _).bind fun matchId => (Action.keeps_look _).bind fun running => ?_
  cases running with
  | some handle => exact keeps_request steady handle .getState
  | none => exact keeps_ofService fun floor => Service.keeps_viewState (steady.archive floor) matchId

theorem keeps_join (text token : String) (queue : QueueId) :
    (join text connection token queue).Keeps (fun hall => view hall.floor) :=
  (keeps_handle steady text).bind fun handle => keeps_requestOrRetire steady handle _

theorem keeps_setReady (ready : Bool) :
    (setReady connection ready).Keeps (fun hall => view hall.floor) :=
  (keeps_joinedHandle connection steady).bind fun handle => keeps_request steady handle _

theorem keeps_startHand (text : String) (vira : Option Rank) :
    (startHand connection text vira).Keeps (fun hall => view hall.floor) :=
  (keeps_handle steady text).bind fun handle => keeps_requestOrRetire steady handle _

theorem keeps_playCard (text : String) (card : Card) :
    (playCard connection text card).Keeps (fun hall => view hall.floor) :=
  (keeps_handle steady text).bind fun handle => keeps_requestOrRetire steady handle _

theorem steady_leave (hall : Hall) : view (hall.leave connection).2.floor = view hall.floor := by
  have kept := keeps_joinedHandle connection steady hall
  unfold leave
  rcases joined : (joinedHandle connection).apply hall with ⟨refusal | handle, hall'⟩ <;>
    rw [joined] at kept
  · exact kept
  · have kept' := steady_ask steady hall' handle.table (.leave connection)
    dsimp only
    rcases asked : hall'.ask handle.table (.leave connection) with ⟨_ | _ | matchId, hall''⟩ <;>
      rw [asked] at kept'
    · exact kept'.trans kept
    · exact kept'.trans kept
    · exact ((steady_retireIfIdle steady hall'' matchId).trans kept').trans kept

theorem steady_perform {α : Type} (call : Call α) (other : call.creates = false) (hall : Hall) :
    view (hall.perform call).2.floor = view hall.floor := by
  cases call with
  | createMatch points => cases other
  | join text connection token queue =>
    rw [perform]
    exact keeps_join connection steady text token queue hall
  | setReady connection ready =>
    rw [perform]
    exact keeps_setReady connection steady ready hall
  | startHand connection text vira =>
    rw [perform]
    exact keeps_startHand connection steady text vira hall
  | playCard connection text card =>
    rw [perform]
    exact keeps_playCard connection steady text card hall
  | viewState text =>
    rw [perform]
    exact keeps_viewState steady text hall
  | leave connection => exact steady_leave connection steady hall
  | activeMatches => rfl

end Steady

end Hall

/-- What nobody at a table changes: how many queues were opened, who still takes events, and which
calls of the archive fail. -/
structure Ground where
  opened : Nat
  isOpen : QueueId → Bool
  fault : Nat → ArchiveCall → Option ArchiveError

def Floor.ground (floor : Floor) : Ground := ⟨floor.opened, floor.isOpen, floor.archive.fault⟩

def Hall.ground (hall : Hall) : Ground := hall.floor.ground

theorem Floor.steady_ground : Floor.Steady Floor.ground where
  archive _ := ⟨fun _ _ => rfl, fun _ _ _ _ => rfl⟩
  lobby _ _ := rfl
  dealer _ _ := rfl
  rollCall _ _ := rfl
  send floor queue event := by
    have opens : (floor.send queue event).2.isOpen = floor.isOpen := funext fun _ => floor.isOpen_send
    unfold ground
    rw [opens]
    unfold send
    split <;> rfl

theorem Hall.ground_perform {α : Type} (call : Call α) (hall : Hall) :
    (hall.perform call).2.ground = hall.ground := by
  cases creating : call.creates with
  | false => exact steady_perform Floor.steady_ground call creating hall
  | true =>
    cases call with
    | createMatch points =>
      have fault := Service.fault_createMatch points hall.floor.archive
      exact congrArg (Ground.mk hall.floor.opened hall.floor.isOpen) fault
    | _ => cases creating

end TrucoPaulista
