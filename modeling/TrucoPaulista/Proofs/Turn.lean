import TrucoPaulista.Proofs.Room
import TrucoPaulista.Proofs.StoredHand
import TrucoPaulista.Table

namespace TrucoPaulista

namespace Floor

theorem send_keeps (floor : Floor) (queue : QueueId) (event : Event) :
    (floor.send queue event).2.lobby = floor.lobby ∧
      (floor.send queue event).2.archive = floor.archive := by
  unfold send
  split <;> exact ⟨rfl, rfl⟩

theorem sendEach_keeps (floor : Floor) (event : Event) (queues : List (ConnectionId × QueueId)) :
    (floor.sendEach event queues).2.lobby = floor.lobby ∧
      (floor.sendEach event queues).2.archive = floor.archive := by
  induction queues generalizing floor with
  | nil => exact ⟨rfl, rfl⟩
  | cons entry rest ih =>
    obtain ⟨lobby, archive⟩ := floor.send_keeps entry.2 event
    obtain ⟨lobby', archive'⟩ := ih (floor.send entry.2 event).2
    exact ⟨lobby'.trans lobby, archive'.trans archive⟩

theorem sendAll_keeps (floor : Floor) (event : Event) (queues : List (ConnectionId × QueueId)) :
    (floor.sendAll event queues).2.lobby = floor.lobby ∧
      (floor.sendAll event queues).2.archive = floor.archive :=
  sendEach_keeps _ event _

end Floor

namespace AtTable

/-- Whether the turn at the table of a match, if anybody has it, is one in the hand of the match. -/
structure Follows (place : AtTable) (matchId : MatchId) (hand : Option Hand) : Prop where
  name : place.table.matchId = matchId
  stored : place.floor.archive.hand matchId = hand
  turn : place.floor.lobby.Follows matchId hand

section Steps

variable {place : AtTable} {matchId : MatchId} {hand : Option Hand}

theorem Follows.broadcast (follows : place.Follows matchId hand) (event : Event) :
    (place.broadcast event).Follows matchId hand := by
  obtain ⟨lobby, archive⟩ := place.floor.sendAll_keeps event place.table.subscribers.entries
  refine ⟨follows.name, ?_, ?_⟩
  · have stored := follows.stored
    rw [← archive] at stored
    exact stored
  · have turn := follows.turn
    rw [← lobby] at turn
    exact turn.unseat _

theorem Follows.broadcastRoom (follows : place.Follows matchId hand) :
    place.broadcastRoom.Follows matchId hand :=
  follows.broadcast _

@[simp] theorem yields_change {update : AtTable → AtTable} {answered : Unit → AtTable → Prop}
    {refused : Refusal → AtTable → Prop} :
    (change update).Yields place answered refused ↔ answered () (update place) :=
  Action.yields_ofUpdate

/-- A step of the archive that leaves the hand leaves the turn. -/
theorem Follows.yields_onService (follows : place.Follows matchId hand) {α : Type}
    {step : Service.Step α}
    (keeps : Action.Yields step place.floor.archive
      (fun _ archive' => archive'.hand matchId = place.floor.archive.hand matchId)
      (fun _ archive' => archive'.hand matchId = place.floor.archive.hand matchId)) :
    (onFloor (FloorStep.ofService step)).Yields place (fun _ place' => place'.Follows matchId hand)
      (fun _ place' => place'.Follows matchId hand) := by
  simp only [onFloor, FloorStep.ofService, Action.yields_on]
  refine keeps.mono ?_ ?_
  · intro _ archive' same
    exact ⟨follows.name, same.trans follows.stored, follows.turn⟩
  · intro _ archive' same
    exact ⟨follows.name, same.trans follows.stored, follows.turn⟩

theorem yields_onLobby {α : Type} (step : Lobby → Except RoomError α × Lobby)
    (name : place.table.matchId = matchId) (stored : place.floor.archive.hand matchId = hand)
    (keeps : (step place.floor.lobby).2.Follows matchId hand) :
    (onFloor (FloorStep.ofLobby step)).Yields place (fun _ place' => place'.Follows matchId hand)
      (fun _ place' => place'.Follows matchId hand) := by
  simp only [onFloor, FloorStep.ofLobby, Action.yields_on, Action.yields_mapRefusal]
  refine (Action.yields_of_apply (fun lobby => lobby.Follows matchId hand) keeps).mono ?_ ?_
  · intro _ lobby turn
    exact ⟨name, stored, turn⟩
  · intro _ lobby turn
    exact ⟨name, stored, turn⟩

/-- To ask for a seat at the table changes nothing, and is answered with a seat of this match. -/
theorem seated_yields (place : AtTable) (connection : ConnectionId) :
    (seated connection).Yields place
      (fun session place' => place' = place ∧
        place.floor.lobby.session connection = some session ∧
        session.matchId = place.table.matchId)
      (fun _ place' => place' = place ∧
        (place.floor.lobby.session connection).all (fun s => s.matchId ≠ place.table.matchId)) := by
  unfold seated
  simp only [Action.yields_bind, Action.yields_look]
  cases found : place.floor.lobby.session connection with
  | none => simp
  | some session =>
    by_cases here : session.matchId = place.table.matchId <;> simp [Option.filter, here]

/-- The turn is one in the hand after somebody has joined. -/
theorem Follows.join (follows : place.Follows matchId hand) (connection : ConnectionId)
    (token : String) (queue : QueueId) :
    (AtTable.join connection token queue).Yields place
      (fun _ place' => place'.Follows matchId hand)
      (fun _ place' => place'.Follows matchId hand) := by
  unfold AtTable.join
  simp only [Action.yields_bind, Action.yields_look, follows.name]
  refine (follows.yields_onService (Service.doesExist_yields _ matchId)).mono ?_ (fun _ _ => id)
  intro found place follows
  cases found with
  | false =>
    simp only [Bool.not_false, if_true, Action.yields_bind, Action.yields_throw]
    exact follows
  | true =>
    simp only [Bool.not_true, Bool.false_eq_true, if_false, Action.yields_bind, yields_change,
      Action.yields_pure]
    have kept := yields_onLobby (fun lobby => lobby.join matchId connection token)
      follows.name follows.stored (follows.turn.join connection token)
    refine kept.mono ?_ (fun _ _ => id)
    intro session place follows
    exact Follows.broadcastRoom ⟨follows.name, follows.stored, follows.turn⟩

/-- The turn is one in the hand after somebody has become ready. -/
theorem Follows.setReady (follows : place.Follows matchId hand) (connection : ConnectionId)
    (ready : Bool) :
    (AtTable.setReady connection ready).Yields place
      (fun _ place' => place'.Follows matchId hand)
      (fun _ place' => place'.Follows matchId hand) := by
  unfold AtTable.setReady
  simp only [Action.yields_bind, yields_change, Action.yields_pure]
  refine (seated_yields place connection).mono ?_ ?_
  · rintro session _ ⟨rfl, _⟩
    have kept := yields_onLobby (fun lobby => lobby.setReady connection ready)
      follows.name follows.stored (follows.turn.setReady connection ready)
    refine kept.mono ?_ (fun _ _ => id)
    intro view place follows
    exact follows.broadcast _
  · rintro _ _ ⟨rfl, _⟩
    exact follows

theorem Follows.yields_pickVira (follows : place.Follows matchId hand) (vira : Option Rank) :
    (pickVira vira).Yields place
      (fun _ place' => place'.Follows matchId hand ∧ place'.floor.lobby = place.floor.lobby)
      (fun _ _ => False) := by
  unfold pickVira
  split
  next => exact Action.yields_pure.mpr ⟨follows, rfl⟩
  next =>
    simp only [onFloor, Action.yields_on, Action.yields_ofUpdate]
    exact ⟨⟨follows.name, follows.stored, follows.turn⟩, trivial⟩

-- Between the call of the archive and that of the lobby the room still has the turn of the hand
-- before, so what is kept is that the step of the lobby will make it follow.
/-- When a hand is started, the turn that the room is then given is one in it. -/
theorem Follows.yields_start (follows : place.Follows matchId hand) (vira : Rank)
    (full : place.floor.lobby.canStart matchId) :
    (onFloor (FloorStep.ofService (Service.startHand matchId vira))).Yields place
      (fun start place' => ∃ h, place'.table.matchId = matchId ∧
        place'.floor.archive.hand matchId = some h ∧
        (if start.started then place'.floor.lobby.beginHand matchId
          else place'.floor.lobby.resumeHand matchId start.awaiting).2.Follows matchId (some h))
      (fun _ place' => place'.Follows matchId hand) := by
  simp only [onFloor, FloorStep.ofService, Action.yields_on]
  refine (Service.startHand_yields _ matchId vira).mono ?_ ?_
  · rintro start archive' ⟨h, stored, awaiting, kind⟩
    refine ⟨h, follows.name, stored, ?_⟩
    cases begun : start.started with
    | true =>
      rw [begun, if_pos rfl] at kind
      refine Lobby.follows_change ?_
      intro room found
      simp only [Lobby.canStart, found, Option.any_some] at full
      exact Room.follows_beginHand full kind
    | false =>
      rw [begun, if_neg Bool.false_ne_true] at kind
      rw [if_neg Bool.false_ne_true, awaiting]
      refine Lobby.follows_change ?_
      intro room found
      have same : hand = some h := follows.stored.symm.trans kind
      exact (same ▸ follows.turn room found).resumeHand
  · intro _ archive' same
    exact ⟨follows.name, same.trans follows.stored, follows.turn⟩

/-- A hand that begins finds everybody seated, and one that goes on keeps its turn or gets it back
where its round stands. -/
theorem Follows.startHand (follows : place.Follows matchId hand) (connection : ConnectionId)
    (vira : Option Rank) :
    (AtTable.startHand connection vira).Yields place
      (fun _ place' => ∃ hand', place'.Follows matchId hand')
      (fun _ place' => ∃ hand', place'.Follows matchId hand') := by
  unfold AtTable.startHand
  simp only [Action.yields_bind, Action.yields_look, follows.name]
  refine (seated_yields place connection).mono ?_ ?_
  · rintro session _ ⟨same, _⟩
    rw [same]
    cases full : place.floor.lobby.canStart matchId with
    | false =>
      simp only [Bool.not_false, if_true, Action.yields_bind, Action.yields_throw]
      exact ⟨hand, follows⟩
    | true =>
      simp only [Bool.not_true, Bool.false_eq_true, if_false, Action.yields_bind,
        yields_change, Action.yields_pure]
      refine (follows.yields_pickVira vira).mono ?_ (fun _ _ => False.elim)
      rintro rank place ⟨follows, same⟩
      rw [← same] at full
      refine (follows.yields_start rank full).mono ?_ (fun _ _ follows => ⟨hand, follows⟩)
      rintro start place ⟨h, name, stored, keeps⟩
      have begun := yields_onLobby (fun lobby => if start.started then lobby.beginHand matchId
        else lobby.resumeHand matchId start.awaiting) name stored keeps
      refine begun.mono ?_ (fun _ _ follows => ⟨some h, follows⟩)
      intro _ place follows
      have looked := follows.yields_onService (Service.viewState_yields _ matchId)
      refine looked.mono ?_ (fun _ _ follows => ⟨some h, follows⟩)
      intro state place follows
      exact ⟨some h, ((follows.broadcast _).broadcast _).broadcastRoom⟩
  · rintro _ _ ⟨rfl, _⟩
    exact ⟨hand, follows⟩

/-- The turn is passed on to a seat that may play in what is left of the hand. -/
theorem Follows.passTurn (follows : place.Follows matchId hand) {side : Side} {outcome : PlayOutcome}
    {archive : Archive} {room : Room} (found : place.floor.lobby.rooms.get? matchId = some room)
    (turn : room.turn ≠ none)
    (left : outcome.handCompleted = false → ∃ h, archive.hand matchId = some h ∧
      h.awaiting = if outcome.round.isNone then some side.other else none) :
    ∃ hand', (AtTable.passTurn side outcome
      { place with floor := { place.floor with archive } }).Follows matchId hand' := by
  have name := follows.name
  refine ⟨archive.hand matchId, name, rfl, ?_⟩
  unfold AtTable.passTurn
  dsimp only
  rw [name]
  cases ended : outcome.handCompleted with
  | true => exact Lobby.follows_change (fun room _ => room.follows_endHand _)
  | false =>
    obtain ⟨h, stored, awaiting⟩ := left ended
    rw [if_neg Bool.false_ne_true, ← awaiting, stored]
    refine Lobby.follows_change ?_
    intro room' there
    rw [found] at there
    exact Option.some.inj there ▸ Room.follows_advanceTurn turn

/-- A card of a player that has the turn is not refused by the rules, and the turn passes on as the
hand goes on. -/
theorem Follows.playCard (follows : place.Follows matchId hand) (connection : ConnectionId)
    (card : Card) :
    (AtTable.playCard connection card).Yields place
      (fun _ place' => ∃ hand', place'.Follows matchId hand')
      (fun refusal place' => (∃ hand', place'.Follows matchId hand') ∧
        (place.floor.lobby.isPlayersTurn connection matchId →
          ∃ failure, place.floor.archive.Fails failure ∧ refusal = .archive failure)) := by
  unfold AtTable.playCard
  simp only [Action.yields_bind, Action.yields_look, follows.name]
  refine (seated_yields place connection).mono ?_ ?_
  · rintro session _ ⟨same, seat, _⟩
    rw [same]
    cases turn : place.floor.lobby.isPlayersTurn connection matchId with
    | false =>
      simp only [Bool.not_false, if_true, Action.yields_bind, Action.yields_throw]
      exact ⟨⟨hand, follows⟩, fun there => Bool.noConfusion there⟩
    | true =>
      simp only [Bool.not_true, Bool.false_eq_true, if_false, Action.yields_bind,
        yields_change, Action.yields_pure]
      -- the seat of the session is the one that has the turn
      obtain ⟨room, session', found, current, seat', _⟩ := follows.turn.session_of_turn turn
      obtain rfl : session = session' := Option.some.inj (seat.symm.trans seat')
      simp only [onFloor, FloorStep.ofService, Action.yields_on]
      refine (Service.playCard_yields _ matchId session.seat.side card).mono ?_ ?_
      · intro result archive' left
        obtain ⟨hand', passed⟩ := follows.passTurn found (by simp [current]) left
        exact ⟨hand', ((passed.broadcast _).broadcast _).broadcastRoom⟩
      · rintro refusal archive' ⟨stored, accepted⟩
        refine ⟨⟨hand, follows.name, stored.trans follows.stored, follows.turn⟩, fun _ => ?_⟩
        obtain ⟨h, being, _, awaiting, allowed⟩ := follows.turn room found _ current
        refine accepted h (follows.stored.trans being) ?_
        rw [← awaiting]
        exact Room.mayPlay_iff.mp allowed
  · rintro _ _ ⟨same, seatless⟩
    rw [same]
    refine ⟨⟨hand, follows⟩, ?_⟩
    intro turn
    obtain ⟨_, session, _, _, seat, name⟩ := follows.turn.session_of_turn turn
    simp [seat, name, follows.name] at seatless

theorem Follows.getState (follows : place.Follows matchId hand) :
    AtTable.getState.Yields place (fun _ place' => place'.Follows matchId hand)
      (fun _ place' => place'.Follows matchId hand) := by
  unfold AtTable.getState
  simp only [Action.yields_bind, Action.yields_look, follows.name]
  exact follows.yields_onService (Service.viewState_yields _ matchId)

theorem Follows.leave (follows : place.Follows matchId hand) (connection : ConnectionId) :
    (place.leave connection).2.Follows matchId hand := by
  have left := follows.turn.leave connection
  unfold AtTable.leave
  dsimp only
  split
  next => exact Follows.broadcastRoom ⟨follows.name, follows.stored, left⟩
  next => exact ⟨follows.name, follows.stored, left⟩

theorem Follows.handle (follows : place.Follows matchId hand) {ρ : Type} (message : Message ρ) :
    ∃ hand', (AtTable.handle message place).2.Follows matchId hand' := by
  cases message with
  | join connection token queue => exact ⟨hand, (follows.join connection token queue).apply⟩
  | setReady connection ready => exact ⟨hand, (follows.setReady connection ready).apply⟩
  | startHand connection vira => exact (follows.startHand connection vira).apply
  | playCard connection card =>
    have played := follows.playCard connection card
    exact (played.mono (fun _ _ kept => kept) (fun _ _ kept => kept.1)).apply
  | getState => exact ⟨hand, follows.getState.apply⟩
  | leave connection => exact ⟨hand, follows.leave connection⟩
  | close => exact ⟨hand, follows.name, follows.stored, follows.turn⟩

end Steps

/-- What may happen between two messages to the table of a match: everything but a change of what
is stored of the match or of its room. A table that was closed may be followed by another. -/
structure Aside (matchId : MatchId) (place place' : AtTable) : Prop where
  name : place'.table.matchId = matchId
  stored : place'.floor.archive.stored.get? (Text.trim matchId) =
    place.floor.archive.stored.get? (Text.trim matchId)
  room : place'.floor.lobby.rooms.get? matchId = place.floor.lobby.rooms.get? matchId

/-- The table of a match from the first one on, over any archive and whichever of its calls fail. -/
inductive Run (matchId : MatchId) : AtTable → Prop where
  | opened {place : AtTable} (name : place.table.matchId = matchId)
      (unoccupied : place.floor.lobby.rooms.get? matchId = none) : Run matchId place
  | handled {place : AtTable} {ρ : Type} (before : Run matchId place) (message : Message ρ) :
      Run matchId (AtTable.handle message place).2
  | aside {place place' : AtTable} (before : Run matchId place)
      (other : Aside matchId place place') : Run matchId place'

section Runs

variable {matchId : MatchId} {place : AtTable}

theorem Run.follows (run : Run matchId place) : ∃ hand, place.Follows matchId hand := by
  induction run with
  | opened name unoccupied =>
    refine ⟨_, name, rfl, ?_⟩
    intro room found
    simp [unoccupied] at found
  | handled _ message follows =>
    obtain ⟨hand, follows⟩ := follows
    exact follows.handle message
  | aside _ other follows =>
    obtain ⟨hand, follows⟩ := follows
    have same := Archive.hand_congr other.stored
    exact ⟨hand, other.name, same.trans follows.stored, follows.turn.of_rooms other.room⟩

/-- Whenever a seat has the turn, the stored match has a hand that is being played, the seat is
taken, the room waits for the same side as the hand, and the seat is one of that side. A card of
a player that has the turn is refused only when a call of the archive fails. -/
theorem Run.turn_follows_hand (run : Run matchId place) :
    (∀ room seat, place.floor.lobby.rooms.get? matchId = some room → room.turn = some seat →
      ∃ stored m h, place.floor.archive.stored.get? (Text.trim matchId) = some stored ∧
        stored.restore = .ok m ∧ m.state = .inProgress ∧ m.hand = some h ∧
        room.isTaken seat ∧ room.awaiting = h.awaiting ∧
        ∀ side, h.awaiting = some side → seat.side = side) ∧
    (∀ connection card, place.floor.lobby.isPlayersTurn connection matchId →
      ∀ refusal, (AtTable.handle (.playCard connection card) place).1 = .error refusal →
        ∃ failure, place.floor.archive.Fails failure ∧ refusal = .archive failure) := by
  obtain ⟨hand, follows⟩ := run.follows
  constructor
  · intro room seat found turn
    obtain ⟨h, rfl, taken, awaiting, allowed⟩ := follows.turn room found seat turn
    obtain ⟨stored, m, there, restored, state, being⟩ := Archive.hand_eq_some follows.stored
    have sides := Room.mayPlay_iff.mp allowed
    rw [awaiting] at sides
    exact ⟨stored, m, h, there, restored, state, being, taken, awaiting, sides⟩
  · intro connection card turn refusal refused
    have played := follows.playCard connection card
    exact (played.refusal refusal _ (Prod.ext refused rfl)).2 turn

/-- The table of a match that was just created. -/
def newTable : AtTable where
  table := .empty "match_1"
  floor := {
    archive := { Archive.empty with stored := Dict.empty.insert "match_1" Match.standard.snapshot }
    lobby := .empty
    queues := .empty
    opened := 0
    dealer := ⟨fun _ => .four, 0⟩
    rollCall := .byName }

/-- After a player has left with the turn, the connected partner has it, for whose side the stored hand
waits. -/
theorem Run.turn_follows_hand_after_leave :
    ∃ place, Run "match_1" place ∧ place.floor.lobby.currentTurn "match_1" = some .t2b ∧
      (∃ stored m h, place.floor.archive.stored.get? (Text.trim "match_1") = some stored ∧
        stored.restore = .ok m ∧ m.hand = some h ∧ ∀ side, h.awaiting = some side → .b = side) ∧
      ∀ refusal, (AtTable.handle (.playCard "d" ⟨.six, .diamonds⟩) place).1 ≠
        .error (.game refusal) := by
  have opened : Run "match_1" newTable := .opened rfl rfl
  have left := opened
    |>.handled (.join "a" "ana" 0)
    |>.handled (.join "b" "bia" 1)
    |>.handled (.join "c" "cai" 2)
    |>.handled (.join "d" "duda" 3)
    |>.handled (.setReady "a" true)
    |>.handled (.setReady "b" true)
    |>.handled (.setReady "c" true)
    |>.handled (.setReady "d" true)
    |>.handled (.startHand "b" (some .four))
    |>.handled (.playCard "a" ⟨.three, .clubs⟩)
    |>.handled (.leave "c")
  obtain ⟨place, run, current, mine⟩ : ∃ place, Run "match_1" place ∧
      place.floor.lobby.currentTurn "match_1" = some .t2b ∧
      place.floor.lobby.isPlayersTurn "d" "match_1" :=
    ⟨_, left, by decide +kernel, by decide +kernel⟩
  obtain ⟨agrees, accepted⟩ := run.turn_follows_hand
  refine ⟨place, run, current, ?_, ?_⟩
  · obtain ⟨room, found, turn⟩ := Option.bind_eq_some_iff.mp current
    obtain ⟨stored, m, h, there, restored, _, being, _, _, side⟩ := agrees room .t2b found turn
    exact ⟨stored, m, h, there, restored, being, side⟩
  · intro refusal refused
    obtain ⟨_, _, same⟩ := accepted "d" ⟨.six, .diamonds⟩ mine _ refused
    simp at same

end Runs

end AtTable

end TrucoPaulista
