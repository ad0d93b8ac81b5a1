import TrucoPaulista.Proofs.Audience

namespace TrucoPaulista

namespace EventQueue

/-- The number of events that a queue still takes. -/
def takes (queue : EventQueue) : Nat := if queue.isOpen then queue.room else 0

section Offer

variable (queue : EventQueue) (event : Event)

theorem takes_offer : (queue.offer event).2.takes = queue.takes - 1 := by
  unfold offer takes
  cases open' : queue.isOpen with
  | false => simp [open']
  | true =>
    rw [Bool.not_true, if_neg Bool.false_ne_true, if_pos rfl]
    split
    next full => simp [full]
    next =>
      rw [if_pos rfl, room, room, List.length_append, List.length_singleton]
      exact Nat.sub_add_eq queue.capacity queue.waiting.length 1

theorem waiting_offer : (queue.offer event).2.waiting =
    queue.waiting ++ List.replicate (min 1 queue.takes) event := by
  unfold offer takes
  cases open' : queue.isOpen with
  | false => simp
  | true =>
    rw [Bool.not_true, if_neg Bool.false_ne_true, if_pos rfl]
    split
    next full => simp [full]
    next free => rw [Nat.min_eq_left (Nat.pos_of_ne_zero free), List.replicate_one]

end Offer

end EventQueue

namespace Floor

def waitingIn (floor : Floor) (queue : QueueId) : List Event :=
  (floor.queues.get? queue).elim [] EventQueue.waiting

/-- The number of events that a queue still takes. -/
def roomIn (floor : Floor) (queue : QueueId) : Nat :=
  (floor.queues.get? queue).elim 0 EventQueue.takes

/-- What becomes of an event that is put into a queue. -/
def fate (floor : Floor) (queue : QueueId) : Delivery :=
  if floor.roomIn queue ≠ 0 then .accepted else if floor.isFull queue then .full else .hungUp

section Send

variable (floor : Floor) (event : Event) (queue query : QueueId)

theorem send_delivery : (floor.send queue event).1 = floor.fate queue := by
  unfold send fate roomIn isFull
  cases floor.queues.get? queue with
  | none => rfl
  | some waiting =>
    unfold EventQueue.offer EventQueue.takes
    cases open' : waiting.isOpen with
    | false => simp [open']
    | true => by_cases full : waiting.room = 0 <;> simp [open', full]

theorem queues_send : (floor.send queue event).2.queues.get? query =
    if query = queue then (floor.queues.get? queue).map (fun waiting => (waiting.offer event).2)
    else floor.queues.get? query := by
  unfold send
  cases found : floor.queues.get? queue with
  | none => by_cases same : query = queue <;> simp [same, found]
  | some waiting => rw [Dict.get?_insert, Option.map_some]

theorem roomIn_send : (floor.send queue event).2.roomIn query =
    floor.roomIn query - if query = queue then 1 else 0 := by
  unfold roomIn
  rw [queues_send]
  split
  next same =>
    rw [same]
    cases floor.queues.get? queue with
    | none => rfl
    | some waiting => exact waiting.takes_offer event
  next => rfl

/-- A queue gets the event that is put into it if there is room. -/
theorem waitingIn_send : (floor.send queue event).2.waitingIn query =
    floor.waitingIn query ++
      List.replicate (if query = queue then min 1 (floor.roomIn query) else 0) event := by
  unfold waitingIn roomIn
  rw [queues_send]
  split
  next same =>
    rw [same]
    cases floor.queues.get? queue with
    | none => rfl
    | some waiting => exact waiting.waiting_offer event
  next => exact (List.append_nil _).symm

variable {floor queue} in
theorem roomIn_eq_zero (full : floor.isFull queue) : floor.roomIn queue = 0 := by
  unfold isFull at full
  unfold roomIn
  cases found : floor.queues.get? queue with
  | none => rfl
  | some waiting =>
    rw [found, Option.any_some, Bool.and_eq_true, decide_eq_true_eq] at full
    simp [EventQueue.takes, full.2]

theorem isFull_send_of_ne (apart : query ≠ queue) :
    (floor.send queue event).2.isFull query = floor.isFull query := by
  rw [isFull, isFull, queues_send, if_neg apart]

/-- An event changes what becomes of the next one only when it takes the last place. -/
theorem fate_send (places : query = queue → floor.roomIn query ≠ 1) :
    (floor.send queue event).2.fate query = floor.fate query := by
  unfold fate
  by_cases same : query = queue
  · subst same
    have left := floor.roomIn_send event query query
    rw [if_pos rfl] at left
    by_cases none' : floor.roomIn query = 0
    · rw [none'] at left
      have after : (floor.send query event).2.isFull query = floor.isFull query := by
        rw [Bool.eq_iff_iff]
        refine ⟨fun full => ?_, isFull_send⟩
        -- a queue that is full now is open, and it took nothing
        have opens : floor.isOpen query := isOpen_send.symm.trans (isOpen_of_isFull full)
        unfold isOpen at opens
        unfold roomIn at none'
        unfold isFull
        cases found : floor.queues.get? query with
        | none => simp [found] at opens
        | some waiting =>
          rw [found, Option.any_some] at opens
          simpa [found, opens, EventQueue.takes] using none'
      simp [left, none', after]
    · have more : floor.roomIn query ≠ 1 := places rfl
      have still : (floor.send query event).2.roomIn query ≠ 0 := by omega
      simp [still, none']
  · have left := floor.roomIn_send event queue query
    rw [if_neg same, Nat.sub_zero] at left
    rw [left, floor.isFull_send_of_ne event queue query same]

end Send

section SendAll

variable (floor : Floor) (event : Event) (entries : List (ConnectionId × QueueId)) (query : QueueId)

theorem roomIn_sendEach : (floor.sendEach event entries).2.roomIn query =
    floor.roomIn query - (entries.map Prod.snd).count query := by
  induction entries generalizing floor with
  | nil => rfl
  | cons entry rest ih =>
    have rest' := ih (floor.send entry.2 event).2
    have first := floor.roomIn_send event entry.2 query
    simp only [sendEach, List.map_cons, List.count_cons, beq_iff_eq, eq_comm (a := entry.2)]
    rw [rest', first]
    omega

theorem count_called : (((floor.rollCall.call entries).1).map Prod.snd).count query =
    (entries.map Prod.snd).count query :=
  ((floor.rollCall.perm_call entries).map Prod.snd).count_eq query

theorem roomIn_sendAll : (floor.sendAll event entries).2.roomIn query =
    floor.roomIn query - (entries.map Prod.snd).count query := by
  rw [sendAll_eq, roomIn_sendEach, count_called]
  rfl

theorem waitingIn_sendEach : (floor.sendEach event entries).2.waitingIn query =
    floor.waitingIn query ++
      List.replicate (min ((entries.map Prod.snd).count query) (floor.roomIn query)) event := by
  induction entries generalizing floor with
  | nil => simp [sendEach]
  | cons entry rest ih =>
    have rest' := ih (floor.send entry.2 event).2
    have first := floor.waitingIn_send event entry.2 query
    have left := floor.roomIn_send event entry.2 query
    simp only [sendEach, List.map_cons, List.count_cons, beq_iff_eq, eq_comm (a := entry.2)]
    rw [rest', first, left, List.append_assoc, List.replicate_append_replicate]
    congr 2
    split <;> omega

/-- A queue gets an event once for each place at which it stands in a list, as long as there is room,
in whatever order the list is called. -/
theorem waitingIn_sendAll : (floor.sendAll event entries).2.waitingIn query =
    floor.waitingIn query ++
      List.replicate (min ((entries.map Prod.snd).count query) (floor.roomIn query)) event := by
  rw [sendAll_eq, waitingIn_sendEach, count_called]
  rfl

theorem deliveries_sendEach (fits : ∀ entry ∈ entries, floor.roomIn entry.2 = 0 ∨
      (entries.map Prod.snd).count entry.2 ≤ floor.roomIn entry.2) :
    (floor.sendEach event entries).1 = entries.map (fun entry => (entry.1, floor.fate entry.2)) := by
  induction entries generalizing floor with
  | nil => rfl
  | cons entry rest ih =>
    have left := floor.roomIn_send event entry.2
    have counted : ∀ queue, ((entry :: rest).map Prod.snd).count queue =
        (rest.map Prod.snd).count queue + if queue = entry.2 then 1 else 0 := by
      intro queue
      simp only [List.map_cons, List.count_cons, beq_iff_eq, eq_comm (a := entry.2)]
    have later := ih (floor.send entry.2 event).2 ?_
    · simp only [sendEach, List.map_cons, later, send_delivery]
      congr 1
      refine List.map_congr_left fun other member => ?_
      rw [fate_send]
      intro same only
      have again : 1 ≤ (rest.map Prod.snd).count other.2 :=
        List.count_pos_iff.mpr (List.mem_map_of_mem member)
      have places := fits other (List.mem_cons_of_mem _ member)
      rw [counted, if_pos same] at places
      omega
    · intro other member
      have places := fits other (List.mem_cons_of_mem _ member)
      rw [counted] at places
      rw [left]
      by_cases same : other.2 = entry.2
      · rw [if_pos same] at places ⊢
        omega
      · rw [if_neg same] at places ⊢
        exact places

/-- What becomes of an event for several queues, none of which is filled by it before its last turn
comes: the order in which they are called makes no difference. -/
theorem deliveries_sendAll (fits : ∀ entry ∈ entries, floor.roomIn entry.2 = 0 ∨
      (entries.map Prod.snd).count entry.2 ≤ floor.roomIn entry.2) :
    (floor.sendAll event entries).1.Perm
      (entries.map (fun entry => (entry.1, floor.fate entry.2))) := by
  have called := floor.rollCall.perm_call entries
  rw [sendAll_eq, deliveries_sendEach]
  · exact called.map _
  · intro entry member
    rw [count_called]
    exact fits entry (called.mem_iff.mp member)

variable {event entries}

theorem roomIn_ne_zero_of_sendEach {connection : ConnectionId}
    (accepted : (connection, .accepted) ∈ (floor.sendEach event entries).1) :
    ∃ queue, (connection, queue) ∈ entries ∧ floor.roomIn queue ≠ 0 := by
  induction entries generalizing floor with
  | nil => cases accepted
  | cons entry rest ih =>
    obtain ⟨first, queue⟩ := entry
    rcases List.mem_cons.mp accepted with now | later
    · obtain ⟨rfl, delivery⟩ := Prod.mk.inj now
      refine ⟨queue, List.mem_cons_self, fun none' => ?_⟩
      have taken : floor.fate queue = .accepted := (floor.send_delivery event queue).symm.trans delivery.symm
      unfold fate at taken
      rw [if_neg (not_not.mpr none')] at taken
      split at taken <;> cases taken
    · obtain ⟨other, member, room⟩ := ih (floor.send queue event).2 later
      rw [roomIn_send] at room
      exact ⟨other, List.mem_cons_of_mem _ member, fun none' => room (by rw [none', Nat.zero_sub])⟩

theorem roomIn_ne_zero_of_accepted {connection : ConnectionId}
    (accepted : (connection, .accepted) ∈ (floor.sendAll event entries).1) :
    ∃ queue, (connection, queue) ∈ entries ∧ floor.roomIn queue ≠ 0 := by
  obtain ⟨queue, member, room⟩ := roomIn_ne_zero_of_sendEach _ accepted
  exact ⟨queue, (floor.rollCall.perm_call entries).mem_iff.mp member, room⟩

end SendAll

end Floor

end TrucoPaulista
