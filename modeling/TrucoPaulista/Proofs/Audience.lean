import Mathlib.Data.List.Nodup
import TrucoPaulista.Proofs.Action
import TrucoPaulista.Proofs.Session
import TrucoPaulista.Proofs.Turn

namespace TrucoPaulista

namespace Floor

/-- Whether the player of a queue still takes events from it. -/
def isOpen (floor : Floor) (queue : QueueId) : Bool := (floor.queues.get? queue).any EventQueue.isOpen

/-- Whether the player of a queue has not taken its events in time. -/
def isFull (floor : Floor) (queue : QueueId) : Bool :=
  (floor.queues.get? queue).any (fun waiting => waiting.isOpen && waiting.room = 0)

/-- What is known of a queue from what became of an event for it. -/
def Delivered (floor : Floor) (queue : QueueId) : Delivery → Prop
  | .accepted => floor.isOpen queue
  | .full => floor.isOpen queue ∧ floor.isFull queue
  | .hungUp => floor.isOpen queue = false

section Players

variable (floor : Floor) (queue query : QueueId)

theorem isOpen_openQueue (capacity : Nat) : (floor.openQueue capacity).2.isOpen query =
    (decide (query = floor.opened) || floor.isOpen query) := by
  unfold isOpen openQueue
  rw [Dict.get?_insert]
  by_cases same : query = floor.opened <;> simp [same, EventQueue.empty]

theorem isOpen_drain : (floor.drain queue).2.isOpen query = floor.isOpen query := by
  unfold drain
  split
  next => rfl
  next waiting found => by_cases same : query = queue <;> simp [isOpen, EventQueue.drain, same, found]

theorem isOpen_hangUp : (floor.hangUp queue).isOpen query =
    (decide (query ≠ queue) && floor.isOpen query) := by
  unfold isOpen hangUp
  rw [Dict.get?_modify]
  by_cases same : query = queue
  · subst same
    cases floor.queues.get? query <;> simp
  · simp [same]

end Players

theorem isOpen_of_isFull {floor : Floor} {queue : QueueId} (full : floor.isFull queue) :
    floor.isOpen queue := by
  unfold isFull at full
  unfold isOpen
  cases found : floor.queues.get? queue with
  | none => simp [found] at full
  | some waiting =>
    rw [found, Option.any_some, Bool.and_eq_true] at full
    exact full.1

section Send

variable {floor : Floor} {queue query : QueueId} {event : Event}

theorem isOpen_send : (floor.send queue event).2.isOpen query = floor.isOpen query := by
  unfold send
  split
  next => rfl
  next waiting found =>
    have kept : (waiting.offer event).2.isOpen = waiting.isOpen := by
      unfold EventQueue.offer
      split
      next => rfl
      next => split <;> rfl
    by_cases same : query = queue
    · simp [isOpen, same, found, kept]
    · simp [isOpen, same]

theorem isFull_send (full : floor.isFull query) : (floor.send queue event).2.isFull query := by
  unfold send
  split
  next => exact full
  next waiting found =>
    by_cases same : query = queue
    · subst same
      simp only [isFull, found, Option.any_some, Bool.and_eq_true, decide_eq_true_eq] at full
      have kept : (waiting.offer event).2 = waiting := by
        simp [EventQueue.offer, full.1, full.2]
      simp [isFull, kept, full.1, full.2]
    · simpa [isFull, same] using full

theorem delivered_send : (floor.send queue event).2.Delivered queue (floor.send queue event).1 := by
  have opens : (floor.send queue event).2.isOpen queue = floor.isOpen queue := isOpen_send
  cases found : floor.queues.get? queue with
  | none =>
    have done : floor.send queue event = (.hungUp, floor) := by simp [send, found]
    simp [done, Delivered, isOpen, found]
  | some waiting =>
    have done : floor.send queue event = ((waiting.offer event).1,
        { floor with queues := floor.queues.insert queue (waiting.offer event).2 }) := by
      simp [send, found]
    rw [done] at opens ⊢
    have before : floor.isOpen queue = waiting.isOpen := by simp [isOpen, found]
    cases open' : waiting.isOpen with
    | false =>
      have offered : waiting.offer event = (.hungUp, waiting) := by simp [EventQueue.offer, open']
      rw [before, open'] at opens
      rw [offered] at opens ⊢
      exact opens
    | true =>
      rw [before, open'] at opens
      by_cases room : waiting.room = 0
      · have offered : waiting.offer event = (.full, waiting) := by
          simp [EventQueue.offer, open', room]
        rw [offered] at opens ⊢
        exact ⟨opens, by simp [isFull, open', room]⟩
      · have offered : (waiting.offer event).1 = .accepted := by
          simp [EventQueue.offer, open', room]
        rw [offered]
        exact opens

theorem Delivered.send {delivery : Delivery} (delivered : floor.Delivered query delivery) :
    (floor.send queue event).2.Delivered query delivery := by
  cases delivery with
  | accepted => exact isOpen_send.trans delivered
  | full => exact ⟨isOpen_send.trans delivered.1, isFull_send delivered.2⟩
  | hungUp => exact isOpen_send.trans delivered

end Send

section SendAll

variable (floor : Floor) (event : Event) (entries : List (ConnectionId × QueueId))

theorem keys_sendEach : (floor.sendEach event entries).1.map Prod.fst = entries.map Prod.fst := by
  induction entries generalizing floor with
  | nil => rfl
  | cons entry rest ih => exact congrArg (entry.1 :: ·) (ih (floor.send entry.2 event).2)

/-- Everyone in a list is called, in whatever order. -/
theorem keys_sendAll : ((floor.sendAll event entries).1.map Prod.fst).Perm (entries.map Prod.fst) := by
  rw [sendAll_eq, keys_sendEach]
  exact (floor.rollCall.perm_call entries).map Prod.fst

theorem isOpen_sendEach (queue : QueueId) :
    (floor.sendEach event entries).2.isOpen queue = floor.isOpen queue := by
  induction entries generalizing floor with
  | nil => rfl
  | cons entry rest ih => exact (ih (floor.send entry.2 event).2).trans isOpen_send

theorem isOpen_sendAll (queue : QueueId) :
    (floor.sendAll event entries).2.isOpen queue = floor.isOpen queue :=
  isOpen_sendEach _ event _ queue

theorem opened_sendEach : (floor.sendEach event entries).2.opened = floor.opened := by
  induction entries generalizing floor with
  | nil => rfl
  | cons entry rest ih =>
    have same : (floor.send entry.2 event).2.opened = floor.opened := by
      unfold send
      split <;> rfl
    exact (ih (floor.send entry.2 event).2).trans same

theorem opened_sendAll : (floor.sendAll event entries).2.opened = floor.opened :=
  opened_sendEach _ event _

variable {floor}

theorem isFull_sendEach {queue : QueueId} (full : floor.isFull queue) :
    (floor.sendEach event entries).2.isFull queue := by
  induction entries generalizing floor with
  | nil => exact full
  | cons entry rest ih => exact ih (isFull_send full)

theorem isFull_sendAll {queue : QueueId} (full : floor.isFull queue) :
    (floor.sendAll event entries).2.isFull queue :=
  isFull_sendEach event _ full

theorem Delivered.sendEach {queue : QueueId} {delivery : Delivery}
    (delivered : floor.Delivered queue delivery) :
    (floor.sendEach event entries).2.Delivered queue delivery := by
  induction entries generalizing floor with
  | nil => exact delivered
  | cons entry rest ih => exact ih delivered.send

/-- What is reported of a connection is true of a queue that it was listed with. -/
theorem delivered_sendEach {connection : ConnectionId} {delivery : Delivery}
    (sent : (connection, delivery) ∈ (floor.sendEach event entries).1) :
    ∃ queue, (connection, queue) ∈ entries ∧
      (floor.sendEach event entries).2.Delivered queue delivery := by
  induction entries generalizing floor with
  | nil => cases sent
  | cons entry rest ih =>
    rcases List.mem_cons.mp sent with same | later
    · cases same
      exact ⟨entry.2, List.mem_cons_self, delivered_send.sendEach event rest⟩
    · obtain ⟨queue, member, delivered⟩ := ih later
      exact ⟨queue, List.mem_cons_of_mem _ member, delivered⟩

/-- What is reported of a connection is true of a queue that it was listed with, in whichever order
everybody is told. -/
theorem delivered_sendAll {connection : ConnectionId} {delivery : Delivery}
    (sent : (connection, delivery) ∈ (floor.sendAll event entries).1) :
    ∃ queue, (connection, queue) ∈ entries ∧
      (floor.sendAll event entries).2.Delivered queue delivery := by
  obtain ⟨queue, member, delivered⟩ := delivered_sendEach event _ sent
  exact ⟨queue, (floor.rollCall.perm_call entries).mem_iff.mp member, delivered⟩

/-- Where nobody is listed twice, one thing is reported of everybody, and it is true of the queue. -/
theorem reported_sendAll {connection : ConnectionId} {queue : QueueId}
    (once : (entries.map Prod.fst).Nodup) (listed : (connection, queue) ∈ entries) :
    ∃ delivery, (∀ other, (connection, other) ∈ (floor.sendAll event entries).1 ↔ other = delivery) ∧
      (floor.sendAll event entries).2.Delivered queue delivery := by
  have keys := floor.keys_sendAll event entries
  have named : connection ∈ (floor.sendAll event entries).1.map Prod.fst :=
    keys.mem_iff.mpr (List.mem_map_of_mem listed)
  obtain ⟨⟨_, delivery⟩, member, rfl⟩ := List.mem_map.mp named
  obtain ⟨queue', listed', delivered⟩ := delivered_sendAll event _ member
  obtain rfl : queue = queue' := congrArg Prod.snd (List.inj_on_of_nodup_map once listed listed' rfl)
  refine ⟨delivery, fun other => ⟨?_, ?_⟩, delivered⟩
  · intro also
    exact congrArg Prod.snd (List.inj_on_of_nodup_map (keys.nodup_iff.mpr once) also member rfl)
  · rintro rfl
    exact member

end SendAll

end Floor

namespace AtTable

/-- What a place is after everyone at the table was told something: who has hung up is told nothing
from now on, nor is who lagged behind, and these have lost their seats. -/
structure Told (place : AtTable) (lagging : List ConnectionId) (place' : AtTable) : Prop where
  name : place'.table.matchId = place.table.matchId
  opened : place'.floor.opened = place.floor.opened
  lobby : place'.floor.lobby = (place.floor.unseat lagging).lobby
  isOpen : ∀ queue, place'.floor.isOpen queue = place.floor.isOpen queue
  isFull : ∀ queue, place.floor.isFull queue → place'.floor.isFull queue
  slow : ∀ connection ∈ lagging, ∃ queue, place.table.subscribers.get? connection = some queue ∧
    place'.floor.isFull queue
  subscribers : ∀ connection queue, place'.table.subscribers.get? connection = some queue ↔
    place.table.subscribers.get? connection = some queue ∧ place.floor.isOpen queue ∧
      connection ∉ lagging
  isClosed : place'.table.isClosed = (place.table.isClosed ||
    (!lagging.isEmpty && !place'.floor.lobby.hasRoom place.table.matchId))

theorem told_broadcast (place : AtTable) (event : Event) :
    ∃ lagging, place.Told lagging (place.broadcast event) := by
  have opens := place.floor.isOpen_sendAll event place.table.subscribers.entries
  have fulls := @Floor.isFull_sendAll place.floor event place.table.subscribers.entries
  have delivered := @Floor.delivered_sendAll place.floor event place.table.subscribers.entries
  have reported := @Floor.reported_sendAll place.floor event place.table.subscribers.entries
  have opened := place.floor.opened_sendAll event place.table.subscribers.entries
  have lobby := (place.floor.sendAll_keeps event place.table.subscribers.entries).1
  rcases sent : place.floor.sendAll event place.table.subscribers.entries with ⟨deliveries, floor⟩
  rw [sent] at opens fulls delivered reported opened lobby
  dsimp only at opens fulls delivered reported opened lobby
  let lagging := (deliveries.filter (fun delivery => delivery.2 = .full)).map Prod.fst
  have mem_lagging : ∀ connection, connection ∈ lagging ↔ (connection, Delivery.full) ∈ deliveries := by
    intro connection
    simp [lagging]
  have told : place.broadcast event = ⟨{ place.table with
      subscribers := place.table.subscribers.filter (fun connection _ =>
        deliveries.any (fun delivery => delivery.1 = connection && delivery.2 = .accepted))
      isClosed := place.table.isClosed ||
        (!lagging.isEmpty && !(floor.unseat lagging).lobby.hasRoom place.table.matchId) },
      floor.unseat lagging⟩ := by
    simp only [broadcast, sent, lagging]
  refine ⟨lagging, ?_⟩
  rw [told]
  refine ⟨rfl, opened, ?_, opens, fun queue => fulls, ?_, ?_, rfl⟩
  · simp only [Floor.unseat, lobby]
  · intro connection slow
    obtain ⟨queue, listed, _, full⟩ := delivered ((mem_lagging connection).mp slow)
    exact ⟨queue, Dict.mem_entries.mp listed, full⟩
  · intro connection queue
    rw [Dict.get?_filter_eq_some, mem_lagging]
    refine and_congr_right (fun there => ?_)
    obtain ⟨delivery, only, done⟩ := reported place.table.subscribers.nodup_keys (Dict.mem_entries.mpr there)
    have accepted : deliveries.any (fun sent => sent.1 = connection && sent.2 = .accepted) ↔
        (connection, Delivery.accepted) ∈ deliveries := by
      simp
    rw [accepted, only, only, ← opens queue]
    cases delivery with
    | accepted =>
      have taken : floor.isOpen queue := done
      simp [taken]
    | full => simp
    | hungUp =>
      have closed : floor.isOpen queue = false := done
      simp [closed]

/-- What is left alone while those at a table are told things: nobody loses a seat but with a full
queue, those that still have theirs are told everything as long as they listen, and the table is
closed only when its room is. -/
structure Stirs (place place' : AtTable) : Prop where
  name : place'.table.matchId = place.table.matchId
  mirrored : place'.floor.lobby.Mirrored
  opened : place'.floor.opened = place.floor.opened
  isOpen : ∀ queue, place'.floor.isOpen queue = place.floor.isOpen queue
  isFull : ∀ queue, place.floor.isFull queue → place'.floor.isFull queue
  session : ∀ connection, place'.floor.lobby.session connection = place.floor.lobby.session connection ∨
    place'.floor.lobby.session connection = none ∧
      ∃ queue, place.table.subscribers.get? connection = some queue ∧ place'.floor.isFull queue
  kept : ∀ connection queue, place'.table.subscribers.get? connection = some queue →
    place.table.subscribers.get? connection = some queue ∧
      place'.floor.lobby.session connection = place.floor.lobby.session connection
  told : ∀ connection queue, place.table.subscribers.get? connection = some queue →
    place.floor.isOpen queue → (place'.floor.lobby.session connection).isSome →
    place'.table.subscribers.get? connection = some queue
  shut : place'.table.isClosed → place.table.isClosed ∨
    place'.floor.lobby.hasRoom place.table.matchId = false
  settled : place.table.isClosed = !place.floor.lobby.hasRoom place.table.matchId →
    place'.table.isClosed = !place'.floor.lobby.hasRoom place.table.matchId

section Stirs

variable {place mid place' : AtTable}

/-- A step that tells nobody anything. -/
theorem stirs_of_same (mirrored : place.floor.lobby.Mirrored) (table : place'.table = place.table)
    (queues : place'.floor.queues = place.floor.queues)
    (opened : place'.floor.opened = place.floor.opened)
    (same : Lobby.SameSeats place.floor.lobby place'.floor.lobby) : place.Stirs place' where
  name := by rw [table]
  mirrored := mirrored.of_same same
  opened := opened
  isOpen _ := by simp only [Floor.isOpen, queues]
  isFull _ full := by rwa [Floor.isFull, queues]
  session _ := Or.inl (Lobby.session_of_same same)
  kept _ _ found := ⟨table ▸ found, Lobby.session_of_same same⟩
  told _ _ found _ _ := table ▸ found
  shut closed := Or.inl (table ▸ closed)
  settled even := by rw [table, same.hasRoom, even]

theorem Stirs.hasRoom (stirs : place.Stirs place') (mirrored : place.floor.lobby.Mirrored)
    {matchId : MatchId} (open' : place'.floor.lobby.hasRoom matchId) :
    place.floor.lobby.hasRoom matchId := by
  refine Lobby.hasRoom_of_fewer mirrored stirs.mirrored ?_ open'
  exact fun connection => (stirs.session connection).imp_right And.left

theorem Stirs.trans (first : place.Stirs mid) (second : mid.Stirs place') : place.Stirs place' where
  name := second.name.trans first.name
  mirrored := second.mirrored
  opened := second.opened.trans first.opened
  isOpen queue := (second.isOpen queue).trans (first.isOpen queue)
  isFull queue full := second.isFull queue (first.isFull queue full)
  session connection := by
    rcases second.session connection with same | ⟨gone, queue, there, full⟩
    · rcases first.session connection with same' | ⟨gone, queue, there, full⟩
      · exact Or.inl (same.trans same')
      · exact Or.inr ⟨same.trans gone, queue, there, second.isFull queue full⟩
    · exact Or.inr ⟨gone, queue, (first.kept connection queue there).1, full⟩
  kept connection queue found := by
    obtain ⟨found', same'⟩ := second.kept connection queue found
    obtain ⟨found, same⟩ := first.kept connection queue found'
    exact ⟨found, same'.trans same⟩
  told connection queue found opens seated := by
    have seated' : (mid.floor.lobby.session connection).isSome := by
      rcases second.session connection with same | ⟨gone, _⟩
      · rwa [← same]
      · simp [gone] at seated
    have found' := first.told connection queue found opens seated'
    exact second.told connection queue found' ((first.isOpen queue).trans opens) seated
  shut closed := by
    rcases second.shut closed with closed' | empty
    · rcases first.shut closed' with closed | empty
      · exact Or.inl closed
      · refine Or.inr ?_
        by_contra open'
        rw [Bool.not_eq_false] at open'
        simp [second.hasRoom first.mirrored open'] at empty
    · exact Or.inr (first.name ▸ empty)
  settled even := by
    have even' := first.settled even
    rw [← first.name] at even'
    have even'' := second.settled even'
    rwa [first.name] at even''

theorem Told.stirs {lagging : List ConnectionId} (mirrored : place.floor.lobby.Mirrored)
    (told : place.Told lagging place') : place.Stirs place' := by
  obtain ⟨mirrored', sessions⟩ := mirrored.unseat lagging
  rw [← told.lobby] at mirrored' sessions
  have seats : ∀ connection, place'.floor.lobby.session connection =
      place.floor.lobby.session connection ∨ place'.floor.lobby.session connection = none ∧
        ∃ queue, place.table.subscribers.get? connection = some queue ∧ place'.floor.isFull queue := by
    intro connection
    rw [sessions]
    split
    next slow => exact Or.inr ⟨rfl, told.slow connection slow⟩
    next => exact Or.inl rfl
  refine ⟨told.name, mirrored', told.opened, told.isOpen, told.isFull, seats, ?_, ?_, ?_, ?_⟩
  · intro connection queue found
    obtain ⟨found', _, quick⟩ := (told.subscribers connection queue).mp found
    exact ⟨found', (sessions connection).trans (if_neg quick)⟩
  · intro connection queue found opens seated
    refine (told.subscribers connection queue).mpr ⟨found, opens, ?_⟩
    intro slow
    simp [sessions, slow] at seated
  · intro closed
    rw [told.isClosed, Bool.or_eq_true, Bool.and_eq_true] at closed
    exact closed.imp id (fun lost => by simpa using lost.2)
  · intro even
    rw [told.isClosed, even]
    cases lagging with
    | nil =>
      have same : place'.floor.lobby = place.floor.lobby := told.lobby
      simp [same]
    | cons first rest =>
      rcases open' : place'.floor.lobby.hasRoom place.table.matchId with _ | _
      · simp
      · have before := Lobby.hasRoom_of_fewer mirrored mirrored'
          (fun connection => (seats connection).imp_right And.left) open'
        simp [before]

theorem stirs_broadcast (mirrored : place.floor.lobby.Mirrored) (event : Event) :
    place.Stirs (place.broadcast event) := by
  obtain ⟨lagging, told⟩ := place.told_broadcast event
  exact told.stirs mirrored

end Stirs

end AtTable

end TrucoPaulista
