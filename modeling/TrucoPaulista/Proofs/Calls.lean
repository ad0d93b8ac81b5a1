import TrucoPaulista.Proofs.LifeCycle

namespace TrucoPaulista

/-- A call of the hall, by the kind of its answer. -/
inductive Call : Type → Type where
  | createMatch (points : Option Int64) : Call (Except Refusal MatchId)
  | join (text : String) (connection : ConnectionId) (token : String) (queue : QueueId) :
      Call (Except Refusal Session)
  | setReady (connection : ConnectionId) (ready : Bool) : Call (Except Refusal RoomView)
  | startHand (connection : ConnectionId) (text : String) (vira : Option Rank) :
      Call (Except Refusal HandStart)
  | playCard (connection : ConnectionId) (text : String) (card : Card) :
      Call (Except Refusal CardPlayed)
  | viewState (text : String) : Call (Except Refusal MatchView)
  | leave (connection : ConnectionId) : Call (Option MatchId)
  | activeMatches : Call Nat

namespace Call

/-- The queue that comes with a call. -/
def queue? {α : Type} : Call α → Option QueueId
  | .join _ _ _ queue => some queue
  | _ => none

/-- The queues that connections were given, after a call with its answer. -/
def given {α : Type} : Call α → α → Given → Given
  | .join _ connection _ queue, .ok _, given => given.put connection queue
  | _, _, given => given

end Call

namespace Hall

/-- The answer to a call. -/
def perform {α ρ : Type} [Repository ρ] (call : Call α) (hall : Hall ρ) : α × Hall ρ :=
  match call with
  | .createMatch points => (createMatch points).apply hall
  | .join text connection token queue => (join text connection token queue).apply hall
  | .setReady connection ready => (setReady connection ready).apply hall
  | .startHand connection text vira => (startHand connection text vira).apply hall
  | .playCard connection text card => (playCard connection text card).apply hall
  | .viewState text => (viewState text).apply hall
  | .leave connection => hall.leave connection
  | .activeMatches => hall.activeMatches

/-- What a hall becomes by calls that come one after the other, while players open queues, take
their events and hang up. Nobody comes with a queue that was not opened. -/
inductive Run : Hall → Given → Prop where
  | opened (archive : Archive) (dealer : Dealer) (rollCall : RollCall) :
      Run (.empty (.empty archive dealer rollCall)) (fun _ => none)
  | called {hall : Hall} {given : Given} (before : Run hall given) {α : Type} (call : Call α)
      (known : ∀ queue ∈ call.queue?, queue < hall.floor.opened) :
      Run (hall.perform call).2 (call.given (hall.perform call).1 given)
  | openQueue {hall : Hall} {given : Given} (before : Run hall given) (capacity : Nat) :
      Run { hall with floor := (hall.floor.openQueue capacity).2 } given
  | drain {hall : Hall} {given : Given} (before : Run hall given) (queue : QueueId) :
      Run { hall with floor := (hall.floor.drain queue).2 } given
  | hangUp {hall : Hall} {given : Given} (before : Run hall given) (queue : QueueId) :
      Run { hall with floor := hall.floor.hangUp queue } given

section Runs

variable {hall : Hall} {given : Given}

theorem tidy_empty (archive : Archive) (dealer : Dealer) (rollCall : RollCall) :
    (Hall.empty (.empty archive dealer rollCall)).Tidy (fun _ => none) := by
  have mirrored := Lobby.mirrored_empty
  refine ⟨⟨mirrored, ?_, ?_, ?_⟩, ?_⟩
  · intro matchId id registered
    cases registered
  · intro matchId room
    cases room
  · intro id t found
    cases found
  · intro matchId running
    cases running

theorem Tidy.openQueue (tidy : hall.Tidy given) (capacity : Nat) :
    Tidy { hall with floor := (hall.floor.openQueue capacity).2 } given := by
  refine tidy.onFloor rfl (Nat.le_succ _) ?_
  intro queue known opens
  simpa [Floor.isOpen_openQueue, known.ne] using opens

theorem Tidy.drain (tidy : hall.Tidy given) (queue : QueueId) :
    Tidy { hall with floor := (hall.floor.drain queue).2 } given := by
  obtain ⟨lobby, opened⟩ : (hall.floor.drain queue).2.lobby = hall.floor.lobby ∧
      (hall.floor.drain queue).2.opened = hall.floor.opened := by
    unfold Floor.drain
    split <;> exact ⟨rfl, rfl⟩
  refine tidy.onFloor lobby opened.ge ?_
  intro query _ opens
  rwa [Floor.isOpen_drain] at opens

theorem Tidy.hangUp (tidy : hall.Tidy given) (queue : QueueId) :
    Tidy { hall with floor := hall.floor.hangUp queue } given := by
  refine tidy.onFloor rfl le_rfl ?_
  intro query _ opens
  rw [Floor.isOpen_hangUp, Bool.and_eq_true] at opens
  exact opens.2

theorem Tidy.perform (tidy : hall.Tidy given) {α : Type} (call : Call α)
    (known : ∀ queue ∈ call.queue?, queue < hall.floor.opened) :
    (hall.perform call).2.Tidy (call.given (hall.perform call).1 given) := by
  cases call with
  | createMatch points => exact (tidy.createMatch points).apply
  | join text connection token queue =>
    have joined := tidy.join text connection token (known queue rfl)
    unfold Hall.perform
    dsimp only
    rcases applied : (Hall.join text connection token queue).apply hall with ⟨refusal | session, hall'⟩
    · exact joined.refusal refusal hall' applied
    · exact joined.answer session hall' applied
  | setReady connection ready => exact (tidy.setReady connection ready).apply
  | startHand connection text vira => exact (tidy.startHand connection text vira).apply
  | playCard connection text card => exact (tidy.playCard connection text card).apply
  | viewState text => exact (tidy.viewState text).apply
  | leave connection => exact (tidy.leave connection).1
  | activeMatches => exact tidy.activeMatches.1

theorem Run.tidy (run : Run hall given) : hall.Tidy given := by
  induction run with
  | opened archive dealer rollCall => exact tidy_empty archive dealer rollCall
  | called _ call known tidy => exact tidy.perform call known
  | openQueue _ capacity tidy => exact tidy.openQueue capacity
  | drain _ queue tidy => exact tidy.drain queue
  | hangUp _ queue tidy => exact tidy.hangUp queue

/-- Between two calls a match has a running table exactly when it has a room, so there are as many
of them as there are rooms. Those that are told of a match at its table sit in it, and those that
sit in it are told, unless they have hung up. Who leaves sits nowhere. -/
theorem Run.tables_match_rooms (run : Run hall given) :
    (∀ matchId, (hall.running? matchId).isSome ↔ hall.floor.lobby.hasRoom matchId) ∧
    hall.activeMatches.1 = hall.floor.lobby.rooms.size ∧
    (∀ matchId handle, hall.running? matchId = some handle →
      ∃ t, hall.tables.get? handle.table = some t ∧ t.matchId = matchId ∧
        (∀ connection queue, t.subscribers.get? connection = some queue → ∃ session,
          hall.floor.lobby.session connection = some session ∧ session.matchId = matchId) ∧
        ∀ connection session, hall.floor.lobby.session connection = some session →
          session.matchId = matchId → ∃ queue, given connection = some queue ∧
            (hall.floor.isOpen queue → t.subscribers.get? connection = some queue)) ∧
    (∀ connection, (hall.leave connection).2.floor.lobby.session connection = none ∧
      ∀ matchId seat,
        (hall.leave connection).2.floor.lobby.connectionAt? matchId seat ≠ some connection) := by
  have tidy := run.tidy
  refine ⟨?_, tidy.activeMatches.2, ?_, ?_⟩
  · intro matchId
    refine ⟨tidy.needed matchId, ?_⟩
    intro room
    obtain ⟨handle, running⟩ := tidy.attended.running room
    exact Option.isSome_of_eq_some running
  · intro matchId handle running
    obtain ⟨rfl, registered, _⟩ := running?_eq_some.mp running
    obtain ⟨t, found, name, _, seats⟩ := tidy.attended.table handle.matchId handle.table registered
    rw [← name]
    refine ⟨t, found, rfl, ?_, ?_⟩
    · intro connection queue told
      exact (seats.seated connection queue told).2
    · intro connection session seated here
      obtain ⟨queue, had, _, told⟩ := seats.served connection session seated here
      exact ⟨queue, had, told⟩
  · intro connection
    obtain ⟨tidy', gone⟩ := tidy.leave connection
    refine ⟨gone, ?_⟩
    intro matchId seat held
    have bound := (tidy'.attended.mirrored.bound connection matchId seat).mpr held
    obtain ⟨session, found, _⟩ := tidy'.attended.mirrored.exists_session bound
    simp [gone] at found

/-- A player joins whose queue takes no event, so that it loses its seat at once. -/
theorem Run.tables_match_rooms_after_full_queue : ∃ hall given, Run hall given ∧
    (hall.running? "match_1").isSome ∧ hall.activeMatches.1 = 1 ∧
    given "a" = some 0 ∧ given "b" = some 1 ∧ hall.floor.lobby.session "b" = none ∧
    ∃ handle t, hall.running? "match_1" = some handle ∧ hall.tables.get? handle.table = some t ∧
      t.subscribers.get? "a" = some 0 ∧ t.subscribers.get? "b" = none := by
  have run := Run.opened .empty ⟨fun _ => .four, 0⟩ .byName
    |>.openQueue 8
    |>.openQueue 0
    |>.called (.createMatch none) nofun
    |>.called (.join "match_1" "a" "ana" 0) (by decide +kernel)
    |>.called (.join " match_1" "b" "bia" 1) (by decide +kernel)
    |>.called (.setReady "a" true) nofun
  obtain ⟨hall, given, run, room, one, first, second, unseated, session, open'⟩ :
      ∃ hall given, Run hall given ∧ hall.floor.lobby.hasRoom "match_1" ∧
        hall.floor.lobby.rooms.size = 1 ∧ given "a" = some 0 ∧ given "b" = some 1 ∧
        hall.floor.lobby.session "b" = none ∧
        hall.floor.lobby.session "a" = some ⟨"match_1", .t1a, "ana", "a"⟩ ∧ hall.floor.isOpen 0 :=
    ⟨_, _, run, by decide +kernel, by decide +kernel, by decide +kernel, by decide +kernel,
      by decide +kernel, by decide +kernel, by decide +kernel⟩
  obtain ⟨tables, count, seats, _⟩ := run.tables_match_rooms
  have running := (tables "match_1").mpr room
  obtain ⟨handle, running'⟩ := Option.isSome_iff_exists.mp running
  obtain ⟨t, found, _, seated, served⟩ := seats "match_1" handle running'
  refine ⟨hall, given, run, running, count.trans one, first, second, unseated, handle, t, running',
    found, ?_, ?_⟩
  · obtain ⟨queue, had, told⟩ := served "a" _ session rfl
    obtain rfl : 0 = queue := Option.some.inj (first.symm.trans had)
    exact told open'
  · cases told : t.subscribers.get? "b" with
    | none => rfl
    | some queue =>
      obtain ⟨session', there, _⟩ := seated "b" queue told
      simp [unseated] at there

end Runs

end Hall

end TrucoPaulista
