import TrucoPaulista.Proofs.Seating
import TrucoPaulista.Proofs.Turn

namespace TrucoPaulista

/-- What holds after every refusal of a step holds after a step that was refused. -/
theorem Action.Yields.refused {σ ε α : Type} {action : Action σ ε α} {s : σ} {holds : σ → Prop}
    (yields : action.Yields s (fun _ _ => True) (fun _ => holds))
    (refused : !(action.apply s).1.isOk) : holds (action.apply s).2 := by
  rcases applied : action.apply s with ⟨refusal | answer, s'⟩
  · exact yields.refusal refusal s' applied
  · simp [applied, Except.isOk, Except.toBool] at refused

namespace Archive

variable {archive : Archive} {text : String} {matchId : MatchId} {m m' : Match}

theorem named_put (named : archive.named text = .ok (matchId, m)) (sound : m'.Sound) :
    (archive.put matchId m').named text = .ok (matchId, m') := by
  refine named_eq_ok.mpr ⟨(named_eq_ok.mp named).1, ?_⟩
  exact lookup_eq_ok.mpr ⟨m'.snapshot, by simp, sound.restore_snapshot⟩

end Archive

namespace Service

section Reads

variable {archive archive' : Archive} {text : String}

/-- A match that is there is read unless the call for it fails. -/
theorem viewState_refused_iff {matchId : MatchId} {m : Match}
    (named : archive.named text = .ok (matchId, m)) :
    (∃ refusal, ((viewState text).apply archive).1 = .error refusal) ↔
      ∃ failure, archive.fault archive.calls .find = some failure := by
  obtain ⟨name, loaded⟩ := Archive.named_eq_ok.mp named
  obtain ⟨stored, found, restored⟩ := Archive.lookup_eq_ok.mp loaded
  unfold viewState load onArchive
  simp only [Archive.repository_find]
  unfold Archive.find Archive.call
  cases fails : archive.fault archive.calls .find with
  | none => simp [Action.apply_bind, name, fails, found, restored]
  | some failure => simp [Action.apply_bind, name, fails]

theorem startHand_refused (vira : Rank) : (startHand text vira).Yields archive (fun _ _ => True)
    (fun _ archive' => archive'.stored = archive.stored) := by
  rcases startHand_cases archive text vira with
    ⟨_, _, _, done⟩ | ⟨_, _, _, done⟩ | ⟨_, _, _, _, _, _, done⟩ | ⟨_, _, _, _, _, _, done⟩
  · exact (Action.yields_iff_of_error done).mpr rfl
  · exact (Action.yields_iff_of_error done).mpr rfl
  · exact (Action.yields_iff_of_error done).mpr rfl
  · exact (Action.yields_iff_of_ok done).mpr trivial

theorem playCard_refused (side : Side) (card : Card) : (playCard text side card).Yields archive
    (fun _ _ => True) (fun _ archive' => archive'.stored = archive.stored) := by
  rcases playCard_cases archive text side card with
    ⟨_, _, _, done⟩ | ⟨_, _, _, done⟩ | ⟨_, _, _, _, _, _, done⟩ | ⟨_, _, _, _, _, _, done⟩
  · exact (Action.yields_iff_of_error done).mpr rfl
  · exact (Action.yields_iff_of_error done).mpr rfl
  · exact (Action.yields_iff_of_error done).mpr rfl
  · exact (Action.yields_iff_of_ok done).mpr trivial

theorem viewState_keeps : (viewState text).Yields archive
    (fun _ archive' => archive'.stored = archive.stored)
    (fun _ archive' => archive'.stored = archive.stored) := by
  rcases viewState_cases archive text with ⟨_, _, done⟩ | ⟨_, _, _, done⟩ | ⟨_, _, _, done⟩
  · exact (Action.yields_iff_of_error done).mpr rfl
  · exact (Action.yields_iff_of_error done).mpr rfl
  · exact (Action.yields_iff_of_ok done).mpr rfl

theorem doesExist_keeps : (doesExist text).Yields archive
    (fun _ archive' => archive'.stored = archive.stored)
    (fun _ archive' => archive'.stored = archive.stored) := by
  rcases doesExist_cases archive text with
    ⟨_, _, done⟩ | ⟨_, _, done⟩ | ⟨_, _, _, _, done⟩ | ⟨_, _, done⟩
  · exact (Action.yields_iff_of_error done).mpr rfl
  · exact (Action.yields_iff_of_error done).mpr rfl
  · exact (Action.yields_iff_of_error done).mpr rfl
  · exact (Action.yields_iff_of_ok done).mpr rfl

/-- A call for a hand that is answered leaves a match that can be read, and has stored another one
exactly when it began the hand. -/
theorem startHand_answered {vira : Rank} {start : HandStart}
    (answered : (startHand text vira).apply archive = (.ok start, archive')) :
    (∃ matchId m, archive'.named text = .ok (matchId, m)) ∧
      (archive'.stored = archive.stored ↔ start.started = false) := by
  rcases startHand_cases archive text vira with
    ⟨_, _, _, done⟩ | ⟨_, _, _, done⟩ | ⟨_, _, _, _, _, _, done⟩ |
    ⟨matchId, m, m', outcome, named, begun, done⟩
  · cases answered.symm.trans done
  · cases answered.symm.trans done
  · cases answered.symm.trans done
  · obtain ⟨same, rfl⟩ := Prod.mk.inj (answered.symm.trans done)
    obtain rfl := Except.ok.inj same
    have sound := Archive.sound_of_named named
    by_cases fresh : outcome = .started
    · subst fresh
      have sound' := sound.start vira
      rw [begun] at sound'
      have later : (archive.after 2).named text = .ok (matchId, m) := named
      have read := Archive.named_put later sound'
      refine ⟨⟨matchId, m', read⟩, ?_⟩
      have begins : (m'.handStart matchId vira .started).started = true := rfl
      rw [if_pos rfl, begins]
      refine iff_of_false ?_ (by simp)
      intro kept
      -- what is stored now cannot be read as the match that was stored before
      have same : ((archive.after 2).put matchId m').lookup matchId = archive.lookup matchId := by
        unfold Archive.lookup
        rw [kept]
      rw [(Archive.named_eq_ok.mp read).2, (Archive.named_eq_ok.mp named).2] at same
      obtain rfl := Except.ok.inj same
      rcases m'.start_cases vira with ⟨_, ended⟩ | ⟨_, going⟩ | ⟨waits, started⟩
      · simp [ended] at begun
      · simp [going] at begun
      · rw [started] at begun
        have state := congrArg Match.state (Prod.mk.inj begun).2
        simp [waits] at state
    · have going : (m'.handStart matchId vira outcome).started = false := decide_eq_false fresh
      rw [if_neg fresh, going]
      exact ⟨⟨matchId, m, named⟩, iff_of_true rfl rfl⟩

end Reads

end Service

namespace Room

variable {room : Room}

/-- In a full room somebody gets the turn, whichever side is awaited. -/
theorem nextLiveTurn_ne_none (full : ∀ seat, room.isTaken seat) (seat : Seat) :
    room.nextLiveTurn seat ≠ none := by
  have somebody : ∃ next ∈ seat.successors, room.mayPlay next := by
    rcases awaits : room.awaiting with _ | side
    · exact ⟨seat, by cases seat <;> simp [Seat.successors], mayPlay_iff.mpr (by simp [awaits])⟩
    · have member : ∃ next ∈ seat.successors, next.side = side := by
        cases seat <;> cases side <;> decide
      obtain ⟨next, there, mine⟩ := member
      refine ⟨next, there, mayPlay_iff.mpr ?_⟩
      intro other same
      exact mine.trans (Option.some.inj (awaits.symm.trans same))
  obtain ⟨next, there, may⟩ := somebody
  have candidate : next ∈ room.candidates seat := List.mem_filter.mpr ⟨there, by simp [full next, may]⟩
  unfold nextLiveTurn nextTurn
  intro nobody
  have empty := List.head?_eq_none_iff.mp (Option.or_eq_none_iff.mp nobody).2
  simp [empty] at candidate

theorem turn_resumeHand_ne_none (full : ∀ seat, room.isTaken seat) (awaiting : Option Side) :
    (room.resumeHand awaiting).turn ≠ none := by
  unfold resumeHand
  split
  next turn => simp [turn]
  next =>
    have taken : ∀ seat, ({ room with awaiting } : Room).isTaken seat := full
    exact nextLiveTurn_ne_none taken .t2b

theorem resumeHand_eq_self_iff (full : ∀ seat, room.isTaken seat) (awaiting : Option Side) :
    room.resumeHand awaiting = room ↔ room.turn ≠ none := by
  constructor
  · intro same none'
    exact turn_resumeHand_ne_none full awaiting ((congrArg Room.turn same).trans none')
  · intro given
    unfold resumeHand
    split
    next => rfl
    next none' => exact absurd none' given

end Room

namespace Lobby

variable {lobby : Lobby} {matchId : MatchId}

theorem room_of_canStart (full : lobby.canStart matchId) :
    ∃ room, lobby.rooms.get? matchId = some room ∧ ∀ seat, room.isTaken seat := by
  unfold canStart at full
  cases found : lobby.rooms.get? matchId with
  | none => simp [found] at full
  | some room =>
    rw [found, Option.any_some] at full
    exact ⟨room, rfl, Room.isTaken_of_canStart full⟩

/-- A step of a room that there is leaves the lobby exactly when it leaves the room. -/
theorem change_apply {room : Room} (found : lobby.rooms.get? matchId = some room) (step : Room → Room) :
    (∃ view, (lobby.change matchId step).1 = .ok view) ∧
      ((lobby.change matchId step).2 = lobby ↔ step room = room) := by
  unfold change
  rw [found]
  refine ⟨⟨_, rfl⟩, ?_⟩
  constructor
  · intro same
    have rooms := congrArg (fun lobby => lobby.rooms.get? matchId) same
    simpa [found] using rooms
  · intro same
    dsimp only
    rw [same, Dict.insert_self found]

/-- A hand that goes on leaves a room that has not lost its turn. -/
theorem start_apply (full : lobby.canStart matchId) (started : Bool) (awaiting : Option Side) :
    ∃ view lobby', (if started then lobby.beginHand matchId else lobby.resumeHand matchId awaiting) =
        (.ok view, lobby') ∧
      (started = false → (lobby' = lobby ↔ lobby.currentTurn matchId ≠ none)) := by
  obtain ⟨room, found, taken⟩ := lobby.room_of_canStart full
  cases started with
  | true =>
    obtain ⟨⟨view, begun⟩, _⟩ := change_apply found Room.beginHand
    exact ⟨view, _, Prod.ext begun rfl, nofun⟩
  | false =>
    obtain ⟨⟨view, resumed⟩, same⟩ := change_apply found (fun room => room.resumeHand awaiting)
    refine ⟨view, _, Prod.ext resumed rfl, fun _ => same.trans ?_⟩
    rw [Room.resumeHand_eq_self_iff taken, currentTurn, found, Option.bind_some]

theorem join_refused {connection : ConnectionId} {token : String} {refusal : RoomError} {lobby' : Lobby}
    (refused : lobby.join matchId connection token = (.error refusal, lobby')) : lobby' = lobby := by
  rcases lobby.join_cases matchId connection token with
    ⟨_, done⟩ | ⟨_, _, _, done⟩ | ⟨_, _, _, _, done⟩
  · exact congrArg Prod.snd (refused.symm.trans done)
  · cases refused.symm.trans done
  · cases refused.symm.trans done

theorem setReady_refused {connection : ConnectionId} {ready : Bool} {refusal : RoomError}
    {lobby' : Lobby} (refused : lobby.setReady connection ready = (.error refusal, lobby')) :
    lobby' = lobby := by
  unfold setReady at refused
  split at refused
  next => exact (Prod.mk.inj refused).2.symm
  next =>
    split at refused
    next => exact (Prod.mk.inj refused).2.symm
    next =>
      split at refused
      next => exact (Prod.mk.inj refused).2.symm
      next => cases refused

end Lobby

/-- Whether a reply to a message is a refusal. -/
def Message.isRefusal {ρ : Type} : Message ρ → ρ → Bool
  | .join _ _ _, reply => !reply.isOk
  | .setReady _ _, reply => !reply.isOk
  | .startHand _ _, reply => !reply.isOk
  | .playCard _ _, reply => !reply.isOk
  | .getState, reply => !reply.isOk
  | .leave _, _ => false
  | .close, _ => false

namespace AtTable

/-- Whether the same matches are stored, and the rooms are the same. -/
structure SameRecords (place place' : AtTable) : Prop where
  stored : place'.floor.archive.stored = place.floor.archive.stored
  lobby : place'.floor.lobby = place.floor.lobby

/-- Whether a call for a hand begins one, or takes one up in a room that had lost its turn, and the
archive then fails to give the match back. -/
structure StartsUnread (place : AtTable) (connection : ConnectionId) (vira : Option Rank) : Prop where
  seated : ∃ session, place.floor.lobby.session connection = some session ∧
    session.matchId = place.table.matchId
  full : place.floor.lobby.canStart place.table.matchId
  unread : ∃ start archive failure,
    (Service.startHand place.table.matchId (vira.getD place.floor.dealer.draw.1)).apply
      place.floor.archive = (.ok start, archive) ∧
    archive.fault archive.calls .find = some failure ∧
    (start.started ∨ place.floor.lobby.currentTurn place.table.matchId = none)

end AtTable

/-- Whether a message is a call for a hand that is begun or taken up and then not given back. -/
def Message.StartsUnread {ρ : Type} (place : AtTable) : Message ρ → Prop
  | .startHand connection vira => place.StartsUnread connection vira
  | _ => False

namespace AtTable

section Handlers

variable (place : AtTable)

theorem SameRecords.refl : place.SameRecords place := ⟨rfl, rfl⟩

theorem yields_onLobby_refused {α : Type} {step : Lobby → Except RoomError α × Lobby}
    {place mid : AtTable} (same : place.SameRecords mid)
    (keeps : ∀ refusal lobby', step mid.floor.lobby = (.error refusal, lobby') →
      lobby' = mid.floor.lobby) :
    (onFloor (FloorStep.ofLobby step)).Yields mid (fun _ _ => True)
      (fun _ place' => place.SameRecords place') := by
  simp only [onFloor, FloorStep.ofLobby, Action.yields_on, Action.yields_mapRefusal]
  refine ⟨fun _ _ _ => trivial, ?_⟩
  intro refusal lobby' refused
  exact ⟨same.stored, (keeps refusal lobby' refused).trans same.lobby⟩

theorem join_refused (connection : ConnectionId) (token : String) (queue : QueueId) :
    (AtTable.join connection token queue).Yields place (fun _ _ => True)
      (fun _ place' => place.SameRecords place') := by
  unfold AtTable.join
  simp only [Action.yields_bind, Action.yields_look]
  have looked : (onFloor (FloorStep.ofService (Service.doesExist place.table.matchId))).Yields place
      (fun _ place' => place.SameRecords place') (fun _ place' => place.SameRecords place') := by
    simp only [onFloor, FloorStep.ofService, Action.yields_on]
    exact Service.doesExist_keeps.mono (fun _ _ stored => ⟨stored, rfl⟩) (fun _ _ stored => ⟨stored, rfl⟩)
  refine looked.mono ?_ (fun _ _ => id)
  intro found mid same
  cases found with
  | false => exact Action.yields_throw.mpr same
  | true =>
    simp only [Bool.not_true, Bool.false_eq_true, if_false, Action.yields_bind, yields_change,
      Action.yields_pure]
    exact yields_onLobby_refused same (fun _ _ => Lobby.join_refused)

theorem setReady_refused (connection : ConnectionId) (ready : Bool) :
    (AtTable.setReady connection ready).Yields place (fun _ _ => True)
      (fun _ place' => place.SameRecords place') := by
  unfold AtTable.setReady
  simp only [Action.yields_bind, yields_change, Action.yields_pure]
  refine (seated_yields place connection).mono ?_ ?_
  · rintro session _ ⟨rfl, _⟩
    exact yields_onLobby_refused (.refl _) (fun _ _ => Lobby.setReady_refused)
  · rintro _ _ ⟨rfl, _⟩
    exact .refl _

/-- The vira of a hand is drawn without anything else being changed. -/
theorem pickVira_apply (vira : Option Rank) : ∃ dealer, (pickVira vira).apply place =
    (.ok (vira.getD place.floor.dealer.draw.1),
      { place with floor := { place.floor with dealer } }) := by
  cases vira with
  | none => exact ⟨_, rfl⟩
  | some rank => exact ⟨place.floor.dealer, rfl⟩

theorem startHand_refused (connection : ConnectionId) (vira : Option Rank) :
    (AtTable.startHand connection vira).Yields place (fun _ _ => True)
      (fun _ place' => place.SameRecords place' ↔ ¬place.StartsUnread connection vira) := by
  unfold AtTable.startHand
  simp only [Action.yields_bind, Action.yields_look]
  refine (seated_yields place connection).mono ?_ ?_
  · rintro session _ ⟨rfl, found, here⟩
    rename_i place
    cases full : place.floor.lobby.canStart place.table.matchId with
    | false =>
      refine Action.yields_throw.mpr (iff_of_true (.refl _) ?_)
      intro unread
      simpa [full] using unread.full
    | true =>
      simp only [Bool.not_true, Bool.false_eq_true, if_false, Action.yields_bind, yields_change,
        Action.yields_pure]
      obtain ⟨dealer, drawn⟩ := place.pickVira_apply vira
      refine (Action.yields_iff_of_ok drawn).mpr ?_
      simp only [onFloor, FloorStep.ofService, FloorStep.ofLobby, Action.yields_on,
        Action.yields_mapRefusal]
      rcases begun : (Service.startHand place.table.matchId (vira.getD place.floor.dealer.draw.1)).apply
        place.floor.archive with ⟨refusal | start, archive⟩
      · refine (Action.yields_iff_of_error begun).mpr (iff_of_true ?_ ?_)
        · exact ⟨(Service.startHand_refused _).refusal _ _ begun, rfl⟩
        · rintro ⟨_, _, start, archive', _, begun', _⟩
          cases begun.symm.trans begun'
      · refine (Action.yields_iff_of_ok begun).mpr ?_
        obtain ⟨⟨name, m, named⟩, stored⟩ := Service.startHand_answered begun
        obtain ⟨view, lobby, turned, kept⟩ :=
          Lobby.start_apply full start.started start.awaiting
        have turned' : (Action.ofStep (fun lobby : Lobby =>
            if start.started then lobby.beginHand place.table.matchId
            else lobby.resumeHand place.table.matchId start.awaiting)).apply place.floor.lobby =
              (.ok view, lobby) := turned
        refine (Action.yields_iff_of_ok turned').mpr ⟨fun _ _ _ => trivial, ?_⟩
        intro refusal archive' unread
        obtain ⟨failure, fails⟩ := (Service.viewState_refused_iff named).mp ⟨refusal, by rw [unread]⟩
        have stored' := Service.viewState_keeps.refusal refusal archive' unread
        have starts : place.StartsUnread connection vira ↔
            start.started ∨ place.floor.lobby.currentTurn place.table.matchId = none := by
          constructor
          · rintro ⟨_, _, start', _, _, begun', _, lost⟩
            obtain rfl := Except.ok.inj (Prod.mk.inj (begun.symm.trans begun')).1
            exact lost
          · intro lost
            exact ⟨⟨session, found, here⟩, full, start, archive, failure, begun, fails, lost⟩
        rw [starts]
        cases fresh : start.started with
        | true =>
          refine iff_of_false ?_ (by simp)
          intro same
          simpa [fresh] using stored.mp (stored'.symm.trans same.stored)
        | false =>
          simp only [Bool.false_eq_true, false_or]
          have kept' := kept fresh
          constructor
          · intro same
            exact kept'.mp same.lobby
          · intro turn
            exact ⟨stored'.trans (stored.mpr fresh), kept'.mpr turn⟩
  · rintro _ _ ⟨rfl, away⟩
    refine iff_of_true (.refl _) ?_
    rintro ⟨⟨session, found, here⟩, _⟩
    simp [found, here] at away

theorem playCard_refused (connection : ConnectionId) (card : Card) :
    (AtTable.playCard connection card).Yields place (fun _ _ => True)
      (fun _ place' => place.SameRecords place') := by
  unfold AtTable.playCard
  simp only [Action.yields_bind, Action.yields_look]
  refine (seated_yields place connection).mono ?_ ?_
  · rintro session _ ⟨rfl, _⟩
    split
    next => exact Action.yields_throw.mpr (.refl _)
    next =>
      simp only [Action.yields_bind, onFloor, FloorStep.ofService, Action.yields_on, yields_change,
        Action.yields_pure]
      refine (Service.playCard_refused _ _).mono (fun _ _ => id) ?_
      intro refusal archive' stored
      exact ⟨stored, rfl⟩
  · rintro _ _ ⟨rfl, _⟩
    exact .refl _

theorem getState_refused : AtTable.getState.Yields place (fun _ _ => True)
    (fun _ place' => place.SameRecords place') := by
  unfold AtTable.getState
  simp only [Action.yields_bind, Action.yields_look, onFloor, FloorStep.ofService, Action.yields_on]
  exact Service.viewState_keeps.mono (fun _ _ _ => trivial) (fun _ _ stored => ⟨stored, rfl⟩)

/-- A message that is refused leaves what is stored and the rooms as they were, unless it is the
call for a hand after which the match could not be read again. -/
theorem handle_refused_keeps_records_iff {ρ : Type} (message : Message ρ)
    (refused : message.isRefusal (AtTable.handle message place).1) :
    place.SameRecords (AtTable.handle message place).2 ↔ ¬message.StartsUnread place := by
  cases message with
  | join connection token queue =>
    exact iff_of_true ((place.join_refused connection token queue).refused refused) not_false
  | setReady connection ready =>
    exact iff_of_true ((place.setReady_refused connection ready).refused refused) not_false
  | startHand connection vira => exact (place.startHand_refused connection vira).refused refused
  | playCard connection card =>
    exact iff_of_true ((place.playCard_refused connection card).refused refused) not_false
  | getState => exact iff_of_true (place.getState_refused.refused refused) not_false
  | leave connection => cases refused
  | close => cases refused

end Handlers

/-- The table of a new match over an archive of which one call fails. -/
def newTableFailingAt (number : Nat) (kind : ArchiveCall) : AtTable :=
  let fault (at' : Nat) (call : ArchiveCall) : Option ArchiveError :=
    if at' = number ∧ call = kind then some (.timeout 5) else none
  { newTable with floor := { newTable.floor with
      archive := { newTable.floor.archive with fault } } }

/-- Four players have sat down and are ready. -/
theorem Run.ready {place : AtTable} (run : Run "match_1" place) :
    Run "match_1" (AtTable.handle (.setReady "d" true) (AtTable.handle (.setReady "c" true)
      (AtTable.handle (.setReady "b" true) (AtTable.handle (.setReady "a" true)
      (AtTable.handle (.join "d" "duda" 3) (AtTable.handle (.join "c" "cai" 2)
      (AtTable.handle (.join "b" "bia" 1) (AtTable.handle (.join "a" "ana" 0)
        place).2).2).2).2).2).2).2).2 :=
  run
    |>.handled (.join "a" "ana" 0)
    |>.handled (.join "b" "bia" 1)
    |>.handled (.join "c" "cai" 2)
    |>.handled (.join "d" "duda" 3)
    |>.handled (.setReady "a" true)
    |>.handled (.setReady "b" true)
    |>.handled (.setReady "c" true)
    |>.handled (.setReady "d" true)

/-- The hand cannot be stored, so that nothing has changed. -/
theorem handle_refused_keeps_records_iff_failed_save : ∃ place, Run "match_1" place ∧
    (Message.startHand "a" (some .four)).isRefusal
      (AtTable.handle (.startHand "a" (some .four)) place).1 ∧
    place.SameRecords (AtTable.handle (.startHand "a" (some .four)) place).2 := by
  have opened : Run "match_1" (newTableFailingAt 5 .save) := .opened rfl rfl
  obtain ⟨place, run, refused, name, failed⟩ : ∃ place, Run "match_1" place ∧
      (Message.startHand "a" (some .four)).isRefusal
        (AtTable.handle (.startHand "a" (some .four)) place).1 ∧
      place.table.matchId = "match_1" ∧
      ((Service.startHand "match_1" .four).apply place.floor.archive).1.isOk = false :=
    ⟨_, opened.ready, by decide +kernel, by decide +kernel, by decide +kernel⟩
  refine ⟨place, run, refused, (place.handle_refused_keeps_records_iff _ refused).mpr ?_⟩
  rintro ⟨_, _, start, archive, failure, begun, _⟩
  rw [name, Option.getD_some] at begun
  simp [begun, Except.isOk, Except.toBool] at failed

/-- The hand is stored, but the match cannot be read again: the player is told that the call failed,
while the hand has begun and the first seat has the turn. -/
theorem start_refused_after_save : ∃ place, Run "match_1" place ∧
    (Message.startHand "a" (some .four)).isRefusal
      (AtTable.handle (.startHand "a" (some .four)) place).1 ∧
    (AtTable.handle (.startHand "a" (some .four)) place).2.floor.archive.stored ≠
      place.floor.archive.stored ∧
    (AtTable.handle (.startHand "a" (some .four)) place).2.floor.lobby ≠ place.floor.lobby := by
  have opened : Run "match_1" (newTableFailingAt 6 .find) := .opened rfl rfl
  obtain ⟨place, run, refused, stored, stored', turn, turn'⟩ : ∃ place, Run "match_1" place ∧
      (Message.startHand "a" (some .four)).isRefusal
        (AtTable.handle (.startHand "a" (some .four)) place).1 ∧
      place.floor.archive.stored.get? "match_1" = some Match.standard.snapshot ∧
      (AtTable.handle (.startHand "a" (some .four)) place).2.floor.archive.stored.get? "match_1" =
        some (Match.standard.start .four).2.snapshot ∧
      place.floor.lobby.currentTurn "match_1" = none ∧
      (AtTable.handle (.startHand "a" (some .four)) place).2.floor.lobby.currentTurn "match_1" =
        some .t1a :=
    ⟨_, opened.ready, by decide +kernel, by decide +kernel, by decide +kernel, by decide +kernel,
      by decide +kernel⟩
  refine ⟨place, run, refused, ?_, ?_⟩
  · intro same
    rw [same, stored] at stored'
    exact absurd stored' (by decide +kernel)
  · intro same
    rw [same, turn] at turn'
    cases turn'

end AtTable

end TrucoPaulista
