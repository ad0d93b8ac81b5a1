import TrucoPaulista.Hall
import TrucoPaulista.Proofs.Likeness

namespace TrucoPaulista

open HasRepository

instance : HasRepository @Floor where
  archive floor := floor.archive
  upon floor archive := { floor with archive }
  archive_upon _ _ := rfl
  upon_archive _ := rfl

instance : HasRepository @AtTable where
  archive place := archive place.floor
  upon place archive := { place with floor := upon place.floor archive }
  archive_upon _ _ := rfl
  upon_archive _ := rfl

instance : HasRepository @Hall where
  archive hall := archive hall.floor
  upon hall archive := { hall with floor := upon hall.floor archive }
  archive_upon _ _ := rfl
  upon_archive _ := rfl

namespace Floor

theorem blind_send (queue : QueueId) (event : Event) :
    Blind (fun ρ [Repository ρ] (floor : Floor ρ) => floor.send queue event) := by
  intro ρ ρ' _ _ floor archive
  simp only [send, upon]
  split <;> rfl

theorem blind_sendEach (event : Event) (entries : List (ConnectionId × QueueId)) :
    Blind (fun ρ [Repository ρ] (floor : Floor ρ) => floor.sendEach event entries) := by
  intro ρ ρ' _ _ floor archive
  induction entries generalizing floor with
  | nil => rfl
  | cons entry rest ih =>
    simp only [sendEach, blind_send entry.2 event ρ ρ' floor archive, ih]

theorem blind_sendAll (event : Event) (entries : List (ConnectionId × QueueId)) :
    Blind (fun ρ [Repository ρ] (floor : Floor ρ) => floor.sendAll event entries) := by
  intro ρ ρ' _ _ floor archive
  exact blind_sendEach event (floor.rollCall.call entries).1 ρ ρ'
    { floor with rollCall := (floor.rollCall.call entries).2 } archive

end Floor

namespace AtTable

variable {ρ ρ' : Type} [Repository ρ] [Repository ρ']

theorem broadcast_upon (place : AtTable ρ) (archive : ρ') (event : Event) :
    (upon place archive).broadcast event = upon (place.broadcast event) archive := by
  have sent := Floor.blind_sendAll event place.table.subscribers.entries ρ ρ' place.floor archive
  simp only [broadcast, upon, Floor.unseat] at sent ⊢
  rw [sent]

theorem blind_leave (connection : ConnectionId) :
    Blind (fun ρ [Repository ρ] (place : AtTable ρ) => place.leave connection) := by
  intro ρ ρ' _ _ place archive
  have told := fun (place : AtTable ρ) => broadcast_upon place archive (.ofRoom place.roomView)
  simp only [leave, upon]
  split
  next => exact congrArg (Prod.mk _) (told ⟨_, { place.floor with lobby := _ }⟩)
  next => rfl

end AtTable

namespace Likeness

variable {ρ ρ' : Type} {like : Likeness ρ ρ'} {α : Type} {F G : Type → Type} [HasRepository F]
  [HasRepository G]

/-- Steps come to the same on parts that have the repositories of the wholes. -/
theorem Steps.on {part : G ρ → F ρ} {part' : G ρ' → F ρ'} {replace : G ρ → F ρ → G ρ}
    {replace' : G ρ' → F ρ' → G ρ'} {action : Action (F ρ) Refusal α} {action' : Action (F ρ') Refusal α}
    (steps : like.Steps like.States action action')
    (part_upon : ∀ t (a : ρ'), part' (upon t a) = upon (part t) a)
    (archive_part : ∀ t, archive (part t) = archive t)
    (replace_upon : ∀ t s (a b : ρ'), replace' (upon t a) (upon s b) = upon (replace t s) b)
    (archive_replace : ∀ t s, archive (replace t s) = archive s) :
    like.Steps like.States (action.on part replace) (action'.on part' replace') := by
  rintro t _ ⟨archive', alike, rfl⟩
  have states : like.States (part t) (part' (upon t archive')) := by
    refine ⟨archive', ?_, part_upon t archive'⟩
    rwa [archive_part]
  refine (steps _ _ states).within (replace t) (replace' (upon t archive')) ?_
  rintro s _ ⟨archive'', alike, rfl⟩
  refine ⟨archive'', ?_, replace_upon t s archive' archive''⟩
  rwa [archive_replace]

variable {step : Action ρ Refusal α} {step' : Action ρ' Refusal α}

theorem Steps.onFloor (steps : like.Steps like.alike step step') :
    like.Steps like.States (FloorStep.ofService step) (FloorStep.ofService step') := by
  rintro floor _ ⟨archive', alike, rfl⟩
  have places : ∀ r r', like.alike r r' → like.States (upon floor r) (upon floor r') :=
    fun _ r' alike => ⟨r', alike, rfl⟩
  exact (steps floor.archive archive' alike).within (upon floor) (upon floor) places

theorem Steps.atTable (steps : like.Steps like.alike step step') :
    like.Steps like.States (AtTable.onFloor (FloorStep.ofService step))
      (AtTable.onFloor (FloorStep.ofService step')) :=
  steps.onFloor.on (fun _ _ => rfl) (fun _ => rfl) (fun _ _ _ _ => rfl) fun _ _ => rfl

theorem Steps.inHall (steps : like.Steps like.alike step step') :
    like.Steps like.States (Hall.ofService step) (Hall.ofService step') :=
  steps.onFloor.on (fun _ _ => rfl) (fun _ => rfl) (fun _ _ _ _ => rfl) fun _ _ => rfl

end Likeness

namespace AtTable

open Likeness

variable {ρ ρ' : Type} {like : Likeness ρ ρ'} {α : Type} (connection : ConnectionId)

theorem steps_seated : like.Steps like.States (seated connection) (seated connection) := by
  refine (steps_look fun _ _ => rfl).bind fun found => ?_
  cases found with
  | some session => exact steps_pure session
  | none => exact steps_throw _

variable [Repository ρ] [Repository ρ']

theorem steps_ofLobby (step : Lobby → Except RoomError α × Lobby) :
    like.Steps like.States (onFloor (FloorStep.ofLobby step)) (onFloor (FloorStep.ofLobby step)) :=
  steps_of_blind (fun _ _ => onFloor (FloorStep.ofLobby step)) fun _ _ _ _ _ _ => rfl

theorem steps_change (update : ∀ (ρ : Type) [Repository ρ], AtTable ρ → AtTable ρ)
    (blind : ∀ (ρ ρ' : Type) [Repository ρ] [Repository ρ'] (place : AtTable ρ) (a : ρ'),
      update ρ' (upon place a) = upon (update ρ place) a) :
    like.Steps like.States (change (update ρ)) (change (update ρ')) := by
  intro place place' states
  exact .answered () (states_update update blind states)

theorem steps_broadcast (event : ∀ ρ : Type, AtTable ρ → Event)
    (blind : ∀ (ρ ρ' : Type) (place : AtTable ρ) (a : ρ'), event ρ' (upon place a) = event ρ place) :
    like.Steps like.States (change (fun place => place.broadcast (event ρ place)))
      (change (fun place => place.broadcast (event ρ' place))) := by
  refine steps_change (fun ρ _ place => place.broadcast (event ρ place)) ?_
  intro ρ ρ' _ _ place archive
  rw [blind, broadcast_upon]

theorem steps_broadcastRoom : like.Steps like.States (change broadcastRoom) (change broadcastRoom) :=
  steps_broadcast (fun _ place => .ofRoom place.roomView) fun _ _ _ _ => rfl

theorem steps_tell (event : Event) :
    like.Steps like.States (change (fun place => place.broadcast event))
      (change (fun place => place.broadcast event)) :=
  steps_broadcast (fun _ _ => event) fun _ _ _ _ => rfl

theorem steps_pickVira (vira : Option Rank) :
    like.Steps like.States (pickVira vira) (pickVira vira) := by
  cases vira with
  | some vira => exact steps_pure vira
  | none => exact steps_of_blind (fun _ _ => pickVira none) fun _ _ _ _ _ _ => rfl

theorem steps_setReady (ready : Bool) :
    like.Steps like.States (setReady connection ready) (setReady connection ready) :=
  (steps_seated connection).bind fun _ => (steps_ofLobby _).bind fun room =>
    (steps_tell _).bind fun _ => steps_pure room

variable (discreet : like.Discreet)

include discreet

theorem steps_join (token : String) (queue : QueueId) :
    like.Steps like.States (join connection token queue) (join connection token queue) := by
  refine (steps_look fun _ _ => rfl).bind fun matchId => ?_
  refine (Service.steps_doesExist discreet matchId).atTable.bind fun found => ?_
  split
  next => exact steps_throw _
  next =>
    refine (steps_ofLobby _).bind fun session => ?_
    refine (steps_change (fun _ _ place => place.subscribe connection queue)
      fun _ _ _ _ _ _ => rfl).bind fun _ => ?_
    exact steps_broadcastRoom.bind fun _ => steps_pure session

theorem steps_startHand (vira : Option Rank) :
    like.Steps like.States (startHand connection vira) (startHand connection vira) := by
  refine (steps_look fun _ _ => rfl).bind fun matchId => (steps_seated connection).bind fun _ => ?_
  refine (steps_look fun _ _ => rfl).bind fun full => ?_
  split
  next => exact steps_throw _
  next =>
    refine (steps_pickVira vira).bind fun vira => ?_
    refine (Service.steps_startHand discreet matchId vira).atTable.bind fun start => ?_
    refine (steps_ofLobby _).bind fun _ => ?_
    refine (Service.steps_viewState discreet matchId).atTable.bind fun state => ?_
    refine (steps_tell _).bind fun _ => (steps_tell _).bind fun _ => ?_
    exact steps_broadcastRoom.bind fun _ => steps_pure start

theorem steps_playCard (card : Card) :
    like.Steps like.States (playCard connection card) (playCard connection card) := by
  refine (steps_look fun _ _ => rfl).bind fun matchId => (steps_seated connection).bind fun session => ?_
  refine (steps_look fun _ _ => rfl).bind fun turn => ?_
  split
  next => exact steps_throw _
  next =>
    refine (Service.steps_playCard discreet matchId _ card).atTable.bind fun result => ?_
    refine (steps_change (fun _ _ place => place.passTurn session.seat.side result.outcome)
      fun _ _ _ _ _ _ => rfl).bind fun _ => ?_
    refine (steps_tell _).bind fun _ => (steps_tell _).bind fun _ => ?_
    exact steps_broadcastRoom.bind fun _ => steps_pure _

theorem steps_getState : like.Steps like.States getState getState :=
  (steps_look fun _ _ => rfl).bind fun matchId => (Service.steps_viewState discreet matchId).atTable

end AtTable

namespace Hall

open Likeness

theorem blind_ask {β : Type} {message : Message β}
    (blind : Blind (fun ρ [Repository ρ] (place : AtTable ρ) => AtTable.handle message place))
    (table : TableId) : Blind (fun ρ [Repository ρ] (hall : Hall ρ) => hall.ask table message) := by
  intro ρ ρ' _ _ hall archive
  simp only [ask, upon]
  split
  next => rfl
  next t _ =>
    have handled := blind ρ ρ' ⟨t, hall.floor⟩ archive
    simp only [upon] at handled
    rw [handled]

theorem retireIfIdle_upon {ρ ρ' : Type} [Repository ρ] [Repository ρ'] (matchId : MatchId)
    (hall : Hall ρ) (archive : ρ') :
    (upon hall archive).retireIfIdle matchId = upon (hall.retireIfIdle matchId) archive := by
  have closed : Blind (fun ρ [Repository ρ] (place : AtTable ρ) => AtTable.handle .close place) :=
    fun _ _ _ _ _ _ => rfl
  simp only [retireIfIdle, upon]
  split
  next => rfl
  next =>
    split
    next => rfl
    next table _ =>
      exact congrArg Prod.snd (blind_ask closed table ρ ρ'
        { hall with registry := hall.registry.erase matchId } archive)

theorem blind_runningOrOpen (matchId : MatchId) :
    Blind (fun ρ [Repository ρ] (hall : Hall ρ) => hall.runningOrOpen matchId) := by
  intro ρ ρ' _ _ hall archive
  have running : (upon hall archive).running? matchId = hall.running? matchId := rfl
  simp only [runningOrOpen, running]
  split <;> rfl

theorem blind_activeMatches : Blind (fun ρ [Repository ρ] (hall : Hall ρ) => hall.activeMatches) :=
  fun _ _ _ _ _ _ => rfl

variable {ρ ρ' : Type} [Repository ρ] [Repository ρ'] {like : Likeness ρ ρ'} {α : Type}
  (connection : ConnectionId)

section Requests

variable {message : Message (Except Refusal α)} {step : Action (AtTable ρ) Refusal α}
  {step' : Action (AtTable ρ') Refusal α} (steps : like.Steps like.States step step')
  (replies : ∀ place, AtTable.handle message place = step.apply place)
  (replies' : ∀ place, AtTable.handle message place = step'.apply place)

include steps replies replies'

theorem steps_request (handle : Handle) :
    like.Steps like.States (request handle message) (request handle message) := by
  rintro hall _ ⟨archive', alike, rfl⟩
  have tables : (upon hall archive').tables = hall.tables := rfl
  simp only [request, ask, Action.apply_ofStep, tables]
  cases (hall.tables.get? handle.table).filter (fun t => !t.isClosed) with
  | none => exact .refused (.same _) ⟨archive', alike, rfl⟩
  | some t =>
    have outcomes := steps ⟨t, hall.floor⟩ ⟨t, (upon hall archive').floor⟩ ⟨archive', alike, rfl⟩
    rw [← replies, ← replies'] at outcomes
    revert outcomes
    dsimp only
    generalize AtTable.handle message ⟨t, hall.floor⟩ = outcome,
      AtTable.handle message ⟨t, (upon hall archive').floor⟩ = outcome'
    rintro (⟨answer, archive'', alike, rfl⟩ | ⟨told, archive'', alike, rfl⟩ | ends)
    · exact .answered answer ⟨archive'', alike, rfl⟩
    · exact .refused told ⟨archive'', alike, rfl⟩
    · exact .ended ends

theorem steps_requestOrRetire (handle : Handle) :
    like.Steps like.States (requestOrRetire handle message) (requestOrRetire handle message) := by
  intro hall hall' states
  have outcomes := steps_request steps replies replies' handle hall hall' states
  simp only [requestOrRetire, Action.apply_ofStep]
  revert outcomes
  generalize (request handle message).apply hall = outcome,
    (request handle message).apply hall' = outcome'
  rintro (⟨answer, after⟩ | ⟨told, after⟩ | ends)
  · exact .answered answer after
  · exact .refused told (states_update (fun _ _ hall => hall.retireIfIdle handle.matchId)
      (fun _ _ _ _ => retireIfIdle_upon handle.matchId) after)
  · exact .ended ends

end Requests

variable (discreet : like.Discreet)

include discreet

theorem steps_createMatch (points : Option Int64) :
    like.Steps like.States (createMatch points) (createMatch points) :=
  (Service.steps_createMatch discreet points).inHall

theorem steps_handle (text : String) :
    like.Steps like.States (Hall.handle text) (Hall.handle text) := by
  refine (steps_ofExcept _).bind fun matchId => (steps_look fun _ _ => rfl).bind fun running => ?_
  cases running with
  | some handle => exact steps_pure handle
  | none =>
    refine (Service.steps_doesExist discreet matchId).inHall.bind fun found => ?_
    split
    next => exact steps_throw _
    next =>
      refine steps_of_blind
        (fun ρ _ => Action.ofUpdate (fun hall : Hall ρ => hall.runningOrOpen matchId)) ?_
      intro ρ ρ' _ _ hall archive
      have opened := blind_runningOrOpen matchId ρ ρ' hall archive
      simp only [Action.ofUpdate, Action.apply_ofStep] at opened ⊢
      rw [opened]

theorem steps_joinedHandle :
    like.Steps like.States (joinedHandle connection) (joinedHandle connection) := by
  refine (steps_look fun _ _ => rfl).bind fun found => ?_
  cases found with
  | some session => exact steps_handle discreet session.matchId
  | none => exact steps_throw _

theorem steps_join (text token : String) (queue : QueueId) :
    like.Steps like.States (join text connection token queue) (join text connection token queue) :=
  (steps_handle discreet text).bind fun handle =>
    steps_requestOrRetire (AtTable.steps_join connection discreet token queue) (fun _ => by rfl)
      (fun _ => by rfl) handle

theorem steps_setReady (ready : Bool) :
    like.Steps like.States (setReady connection ready) (setReady connection ready) :=
  (steps_joinedHandle connection discreet).bind fun handle =>
    steps_request (AtTable.steps_setReady connection ready) (fun _ => by rfl) (fun _ => by rfl) handle

theorem steps_startHand (text : String) (vira : Option Rank) :
    like.Steps like.States (startHand connection text vira) (startHand connection text vira) :=
  (steps_handle discreet text).bind fun handle =>
    steps_requestOrRetire (AtTable.steps_startHand connection discreet vira) (fun _ => by rfl)
      (fun _ => by rfl) handle

theorem steps_playCard (text : String) (card : Card) :
    like.Steps like.States (playCard connection text card) (playCard connection text card) :=
  (steps_handle discreet text).bind fun handle =>
    steps_requestOrRetire (AtTable.steps_playCard connection discreet card) (fun _ => by rfl)
      (fun _ => by rfl) handle

theorem steps_viewState (text : String) :
    like.Steps like.States (viewState text) (viewState text) := by
  refine (steps_ofExcept _).bind fun matchId => (steps_look fun _ _ => rfl).bind fun running => ?_
  cases running with
  | some handle =>
    exact steps_request (AtTable.steps_getState discreet) (fun _ => by rfl) (fun _ => by rfl) handle
  | none => exact (Service.steps_viewState discreet matchId).inHall

/-- A connection goes alike from two halls, unless a failure ends the comparison. -/
theorem states_leave (never : ∀ failure, ¬ like.ends failure) {hall : Hall ρ} {hall' : Hall ρ'}
    (states : like.States hall hall') : (hall.leave connection).1 = (hall'.leave connection).1 ∧
      like.States (hall.leave connection).2 (hall'.leave connection).2 := by
  have left : Blind (fun ρ [Repository ρ] (place : AtTable ρ) =>
      AtTable.handle (.leave connection) place) := AtTable.blind_leave connection
  have outcomes := steps_joinedHandle connection discreet hall hall' states
  unfold leave
  revert outcomes
  generalize (joinedHandle connection).apply hall = outcome,
    (joinedHandle connection).apply hall' = outcome'
  intro outcomes
  cases outcomes with
  | @answered mid mid' handle after =>
    obtain ⟨same, after'⟩ := states_blind (blind_ask left handle.table) after
    dsimp only at same after' ⊢
    revert same after'
    rcases mid.ask handle.table (.leave connection) with ⟨reply, next⟩
    rcases mid'.ask handle.table (.leave connection) with ⟨reply', next'⟩
    rintro rfl after'
    rcases reply with _ | _ | matchId
    · exact ⟨rfl, after'⟩
    · exact ⟨rfl, after'⟩
    · exact ⟨rfl, states_update (fun _ _ hall => hall.retireIfIdle matchId)
        (fun _ _ _ _ => retireIfIdle_upon matchId) after'⟩
  | refused _ after => exact ⟨rfl, after⟩
  | ended ends => exact absurd ends (never _)

end Hall

end TrucoPaulista
