import TrucoPaulista.Proofs.Picture

namespace TrucoPaulista

section Count

variable {κ α : Type} [DecidableEq κ] [LT κ] [DecidableLT κ] [DecidableEq α]

theorem count_insertEntry_le (key : κ) (value query : α) (entries : List (κ × α)) :
    ((insertEntry key value entries).map Prod.snd).count query ≤
      (entries.map Prod.snd).count query + if value = query then 1 else 0 := by
  induction entries with
  | nil => simp [insertEntry, List.count_singleton]
  | cons head rest ih =>
    obtain ⟨other, old⟩ := head
    unfold insertEntry
    split
    next =>
      simp only [List.map_cons, List.count_cons, beq_iff_eq]
      omega
    next =>
      split
      next => simp only [List.map_cons, List.count_cons, beq_iff_eq, le_refl]
      next =>
        simp only [List.map_cons, List.count_cons]
        omega

end Count

namespace AtTable

/-- How many at the table take their events from a queue. -/
def copies (place : AtTable) (queue : QueueId) : Nat := place.table.subscribers.values.count queue

/-- Whether there is room for a number of events in the queues of those at the table, for each of
them. -/
def HasRoomFor (place : AtTable) (count : Nat) : Prop :=
  ∀ connection queue, place.table.subscribers.get? connection = some queue →
    count * place.copies queue ≤ place.floor.roomIn queue

section Broadcast

variable {place mid : AtTable}

theorem copies_pos {connection : ConnectionId} {queue : QueueId}
    (told : place.table.subscribers.get? connection = some queue) : 0 < place.copies queue :=
  List.count_pos_iff.mpr (Dict.mem_values.mpr ⟨connection, told⟩)

/-- Whether every queue at the table takes nothing, or else one event for each that it is of. -/
def Fits (place : AtTable) : Prop :=
  ∀ connection queue, place.table.subscribers.get? connection = some queue →
    place.floor.roomIn queue = 0 ∨ place.copies queue ≤ place.floor.roomIn queue

theorem HasRoomFor.mono {count fewer : Nat} (hasRoom : place.HasRoomFor count) (less : fewer ≤ count) :
    place.HasRoomFor fewer :=
  fun connection queue told => (Nat.mul_le_mul_right _ less).trans (hasRoom connection queue told)

theorem HasRoomFor.roomIn_ne_zero {count : Nat} (hasRoom : place.HasRoomFor (count + 1))
    {connection : ConnectionId} {queue : QueueId}
    (told : place.table.subscribers.get? connection = some queue) : place.floor.roomIn queue ≠ 0 := by
  have some' := copies_pos told
  have room := hasRoom connection queue told
  rw [Nat.succ_mul] at room
  omega

theorem HasRoomFor.fits (hasRoom : place.HasRoomFor 1) : place.Fits := by
  intro connection queue told
  have room := hasRoom connection queue told
  rw [Nat.one_mul] at room
  exact Or.inr room

/-- Fewer at the table, with the same queues, have as much room. -/
theorem HasRoomFor.of_fewer {count : Nat} (hasRoom : place.HasRoomFor count)
    (fewer : ∀ connection queue, mid.table.subscribers.get? connection = some queue →
      place.table.subscribers.get? connection = some queue)
    (copies : ∀ queue, mid.copies queue ≤ place.copies queue)
    (queues : mid.floor.queues = place.floor.queues) : mid.HasRoomFor count := by
  intro connection queue told
  have room := hasRoom connection queue (fewer connection queue told)
  have same : mid.floor.roomIn queue = place.floor.roomIn queue := by
    rw [Floor.roomIn, Floor.roomIn, queues]
  rw [same]
  exact (Nat.mul_le_mul_left count (copies queue)).trans room

section Fits

variable (fits : place.Fits) (event : Event)

include fits

theorem deliveries_of_fits :
    (place.floor.sendAll event place.table.subscribers.entries).1.Perm
      (place.table.subscribers.entries.map (fun entry => (entry.1, place.floor.fate entry.2))) := by
  refine place.floor.deliveries_sendAll event _ ?_
  rintro ⟨connection, queue⟩ member
  exact fits connection queue (Dict.mem_entries.mp member)

/-- Those whose queues take the event stay at the table. -/
theorem subscribers_broadcast_of_fits : (place.broadcast event).table.subscribers =
    place.table.subscribers.filter (fun _ queue => decide (place.floor.roomIn queue ≠ 0)) := by
  refine Dict.ext_get? fun connection => Option.ext fun queue => ?_
  unfold broadcast
  dsimp only
  rw [Dict.get?_filter_eq_some, Dict.get?_filter_eq_some]
  refine and_congr_right fun told => ?_
  rw [(deliveries_of_fits fits event).any_eq]
  have accepted : place.floor.fate queue = .accepted ↔ place.floor.roomIn queue ≠ 0 := by
    unfold Floor.fate
    split
    next takes => exact iff_of_true rfl takes
    next full =>
      refine iff_of_false ?_ full
      split <;> simp
  rw [decide_eq_true_eq, ← accepted]
  simp only [List.any_map, List.any_eq_true, Function.comp_apply, Bool.and_eq_true,
    decide_eq_true_eq, Prod.exists]
  constructor
  · rintro ⟨other, queue', member, rfl, sent⟩
    have same := told.symm.trans (Dict.mem_entries.mp member)
    rw [Option.some.inj same]
    exact sent
  · intro sent
    exact ⟨connection, queue, Dict.mem_entries.mpr told, rfl, sent⟩

theorem copies_broadcast_of_fits (queue : QueueId) : (place.broadcast event).copies queue =
    if place.floor.roomIn queue = 0 then 0 else place.copies queue := by
  unfold copies
  rw [subscribers_broadcast_of_fits fits event]
  have kept : (place.table.subscribers.filter (fun _ queue =>
      decide (place.floor.roomIn queue ≠ 0))).values =
      place.table.subscribers.values.filter (fun queue => decide (place.floor.roomIn queue ≠ 0)) := by
    unfold Dict.values Dict.filter
    rw [List.filter_map]
    rfl
  rw [kept]
  split
  next none' => exact List.count_eq_zero.mpr (by simp [none'])
  next takes => exact List.count_filter (by simpa using takes)

theorem waitingIn_broadcast_of_fits (queue : QueueId) : (place.broadcast event).floor.waitingIn queue =
    place.floor.waitingIn queue ++ List.replicate ((place.broadcast event).copies queue) event := by
  rw [copies_broadcast_of_fits fits event queue]
  have sent := place.floor.waitingIn_sendAll event place.table.subscribers.entries queue
  refine Eq.trans sent ?_
  have counted : (place.table.subscribers.entries.map Prod.snd).count queue = place.copies queue := rfl
  rw [counted]
  congr 2
  split
  next none' => rw [none', Nat.min_zero]
  next takes =>
    by_cases nobody : place.copies queue = 0
    · rw [nobody, Nat.zero_min]
    · obtain ⟨connection, told⟩ := Dict.mem_values.mp (List.count_pos_iff.mp (Nat.pos_of_ne_zero nobody))
      exact Nat.min_eq_left ((fits connection queue told).resolve_left takes)

/-- Nobody is unseated over an event when no queue at the table is full. -/
theorem broadcast_of_fits (quick : ∀ connection queue,
      place.table.subscribers.get? connection = some queue → place.floor.isFull queue = false) :
    place.broadcast event = ⟨{ place.table with
        subscribers := (place.broadcast event).table.subscribers },
      (place.floor.sendAll event place.table.subscribers.entries).2⟩ := by
  have nobody : (place.floor.sendAll event place.table.subscribers.entries).1.filter
      (fun delivery => delivery.2 = .full) = [] := by
    refine List.filter_eq_nil_iff.mpr ?_
    rintro delivery sent full
    have member := (deliveries_of_fits fits event).mem_iff.mp sent
    obtain ⟨⟨connection, queue⟩, told, rfl⟩ := List.mem_map.mp member
    have slow := quick connection queue (Dict.mem_entries.mp told)
    rw [decide_eq_true_eq, Floor.fate, slow] at full
    split at full <;> simp at full
  unfold broadcast
  dsimp only
  rw [nobody]
  simp [Floor.unseat]

end Fits

/-- Where there is room for one event more, no queue of the table is full. -/
theorem quick_of_room {count : Nat} (hasRoom : place.HasRoomFor (count + 1))
    {connection : ConnectionId} {queue : QueueId}
    (told : place.table.subscribers.get? connection = some queue) :
    place.floor.isFull queue = false := by
  by_contra full
  exact hasRoom.roomIn_ne_zero told (Floor.roomIn_eq_zero (Bool.not_eq_false _ ▸ full))

/-- Everybody stays at the table, and nobody is unseated, when there is room. -/
theorem broadcast_of_room {count : Nat} (hasRoom : place.HasRoomFor (count + 1)) (event : Event) :
    place.broadcast event =
      ⟨place.table, (place.floor.sendAll event place.table.subscribers.entries).2⟩ := by
  have fits := (hasRoom.mono (Nat.le_add_left 1 count)).fits
  have stay : (place.broadcast event).table.subscribers = place.table.subscribers := by
    rw [subscribers_broadcast_of_fits fits event]
    refine Dict.ext_get? fun connection => Option.ext fun queue => ?_
    rw [Dict.get?_filter_eq_some, decide_eq_true_eq]
    exact and_iff_left_of_imp hasRoom.roomIn_ne_zero
  rw [broadcast_of_fits fits event fun _ _ => quick_of_room hasRoom, stay]

theorem HasRoomFor.broadcast {count : Nat} (hasRoom : place.HasRoomFor (count + 1)) (event : Event) :
    (place.broadcast event).HasRoomFor count := by
  rw [broadcast_of_room hasRoom event]
  intro connection queue told
  have room := hasRoom connection queue told
  have left := place.floor.roomIn_sendAll event place.table.subscribers.entries queue
  have counted : (place.table.subscribers.entries.map Prod.snd).count queue = place.copies queue := rfl
  rw [counted] at left
  dsimp only
  rw [left]
  have same : copies ⟨place.table, (place.floor.sendAll event place.table.subscribers.entries).2⟩ queue =
      place.copies queue := rfl
  rw [same]
  rw [Nat.succ_mul] at room
  omega

/-- What a place is after everyone at the table got some events, each of them once and in their order,
and nothing else has changed. -/
structure Hears (place : AtTable) (news : List Event) (place' : AtTable) : Prop where
  table : place'.table = place.table
  lobby : place'.floor.lobby = place.floor.lobby
  waiting : ∀ queue, place'.floor.waitingIn queue =
    place.floor.waitingIn queue ++ news.flatMap (List.replicate (place.copies queue))

theorem Hears.trans {place' : AtTable} {news news' : List Event} (first : place.Hears news mid)
    (second : mid.Hears news' place') : place.Hears (news ++ news') place' where
  table := second.table.trans first.table
  lobby := second.lobby.trans first.lobby
  waiting queue := by
    have same : mid.copies queue = place.copies queue := by rw [copies, copies, first.table]
    rw [second.waiting, first.waiting, same, List.append_assoc, List.flatMap_append]

theorem HasRoomFor.hears {count : Nat} (hasRoom : place.HasRoomFor (count + 1)) (event : Event) :
    place.Hears [event] (place.broadcast event) := by
  have fits := (hasRoom.mono (Nat.le_add_left 1 count)).fits
  have stands := broadcast_of_room hasRoom event
  have table : (place.broadcast event).table = place.table := by rw [stands]
  refine ⟨table, ?_, ?_⟩
  · rw [stands]
    exact (place.floor.sendAll_keeps event place.table.subscribers.entries).1
  · intro queue
    rw [waitingIn_broadcast_of_fits fits event queue, copies, table, List.flatMap_singleton]
    rfl

/-- While there is room, everyone at the table gets all news, and then the state of the room. -/
theorem HasRoomFor.hears_announce {news : List Event}
    (hasRoom : place.HasRoomFor (news.length + 1)) :
    place.Hears (news ++ [.ofRoom place.roomView]) (place.announce news) := by
  unfold announce broadcastRoom
  induction news generalizing place with
  | nil => exact hasRoom.hears _
  | cons event rest ih =>
    have first := hasRoom.hears event
    have view : (place.broadcast event).roomView = place.roomView := by
      rw [roomView, roomView, first.table, first.lobby]
    have later := ih (hasRoom.broadcast event)
    rw [view] at later
    exact first.trans later

end Broadcast

end AtTable

end TrucoPaulista
