import TrucoPaulista.Crowd
import TrucoPaulista.Proofs.LifeCycle

namespace TrucoPaulista

/-- A connection whose join was answered, and that has not gone since: its seat, the queue that it
came with, the table that served it, and whether that table was already to be closed. -/
structure Guest where
  session : Session
  queue : QueueId
  table : TableId
  late : Bool

abbrev Guests := ConnectionId → Option Guest

/-- The queue over which a connection is told what comes of an errand. -/
def Errand.told (errand : Errand) (reply : Reply) (t : Table) (connection : ConnectionId) :
    Option QueueId :=
  match errand, reply with
  | .join _ newcomer _ queue, .seated _ =>
    if connection = newcomer then some queue else t.subscribers.get? connection
  | _, _ => t.subscribers.get? connection

namespace Guests

/-- The guests without one that has left. -/
def without (guests : Guests) (connection : ConnectionId) : Guests :=
  fun other => if other = connection then none else guests other

/-- The guests and one that has just been given a seat, without the connection that had come there
with the same token. Who listens no more is none, and who was served in time stays so. -/
def including (guests : Guests) (connection : ConnectionId) (guest : Guest) (listens : Bool) : Guests :=
  fun other =>
    if other = connection then
      let before := if guest.late then (guests connection).filter (fun g => !g.late) else none
      before.or (if listens then some guest else none)
    else
      (guests other).filter (fun g =>
        !(g.session.matchId = guest.session.matchId && g.session.token = guest.session.token))

/-- The guests that have not lost their seats with a full queue. -/
def inTime (guests : Guests) (told : ConnectionId → Option QueueId) (floor : Floor) : Guests :=
  fun connection => (guests connection).filter (fun _ =>
    !((floor.lobby.session connection).isNone && (told connection).any floor.isFull))

/-- The guests after a table, which was to be closed or not, has replied to an errand. -/
def served (guests : Guests) (errand : Errand) (t : Table) (table : TableId) (late : Bool)
    (reply : Reply) (floor : Floor) : Guests :=
  let guests :=
    match errand, reply with
    | .join _ connection _ queue, .seated session =>
      guests.including connection ⟨session, queue, table, late⟩ (floor.isOpen queue)
    | .leave connection, _ => guests.without connection
    | _, _ => guests
  guests.inTime (errand.told reply t) floor

section Guests

variable {guests : Guests} {connection other : ConnectionId} {guest new : Guest}

theorem of_without (is : guests.without connection other = some guest) :
    guests other = some guest ∧ other ≠ connection := by
  unfold without at is
  split at is
  next => cases is
  next apart => exact ⟨is, apart⟩

theorem of_including {listens : Bool} (is : guests.including connection new listens other = some guest) :
    guests other = some guest ∨ guest = new := by
  unfold including at is
  split at is
  next same =>
    subst same
    rcases Option.or_eq_some_iff.mp is with old | ⟨_, fresh⟩
    · split at old
      next => exact Or.inl (Option.filter_eq_some_iff.mp old).1
      next => cases old
    · split at fresh
      next => exact Or.inr (Option.some.inj fresh).symm
      next => cases fresh
  next => exact Or.inl (Option.filter_eq_some_iff.mp is).1

theorem of_inTime {told : ConnectionId → Option QueueId} {floor : Floor}
    (is : guests.inTime told floor connection = some guest) : guests connection = some guest ∧
      ((floor.lobby.session connection).isSome ∨ (told connection).any floor.isFull = false) := by
  obtain ⟨is', quick⟩ := Option.filter_eq_some_iff.mp is
  exact ⟨is', by simpa using quick⟩

end Guests

end Guests

/-- Whether the guests have their seats where a table stands and listen, and those that were served
there in time are told of everything. -/
def Guests.SitAt (guests : Guests) (id : TableId) (place : AtTable) : Prop :=
  ∀ connection guest, guests connection = some guest →
    place.floor.lobby.session connection = some guest.session ∧ place.floor.isOpen guest.queue ∧
      (guest.late = false → guest.table = id →
        place.table.subscribers.get? connection = some guest.queue)

namespace AtTable

/-- What a message does at a table, whoever is concerned. -/
structure Tends (place place' : AtTable) : Prop where
  name : place'.table.matchId = place.table.matchId
  mirrored : place'.floor.lobby.Mirrored
  opened : place'.floor.opened = place.floor.opened
  isOpen : ∀ queue, place'.floor.isOpen queue = place.floor.isOpen queue
  shut : place'.table.isClosed → place.table.isClosed ∨
    place'.floor.lobby.hasRoom place.table.matchId = false

section Tends

variable {place mid place' : AtTable} {guests : Guests} {id : TableId}

theorem Stirs.tends (stirs : place.Stirs place') : place.Tends place' :=
  ⟨stirs.name, stirs.mirrored, stirs.opened, stirs.isOpen, stirs.shut⟩

/-- A table at which somebody sits is not closed. -/
theorem Tends.open_of_session (tends : place.Tends place') (open' : place.table.isClosed = false)
    {connection : ConnectionId} {session : Session}
    (seat : place'.floor.lobby.session connection = some session)
    (here : session.matchId = place.table.matchId) : place'.table.isClosed = false := by
  have room := tends.mirrored.hasRoom_iff_session.mpr ⟨connection, session, seat, here⟩
  by_contra closed
  rw [Bool.not_eq_false] at closed
  rcases tends.shut closed with closed' | empty
  · simp [open'] at closed'
  · simp [room] at empty

theorem Tends.stirs (tends : place.Tends mid) (same : mid.table.isClosed = place.table.isClosed)
    (stirs : mid.Stirs place') : place.Tends place' where
  name := stirs.name.trans tends.name
  mirrored := stirs.mirrored
  opened := stirs.opened.trans tends.opened
  isOpen queue := (stirs.isOpen queue).trans (tends.isOpen queue)
  shut closed := by
    have shut := stirs.shut closed
    rwa [same, tends.name] at shut

theorem Welcomes.tends {connection : ConnectionId} {queue : QueueId} {session : Session}
    (welcomes : place.Welcomes connection queue session place') : place.Tends place' where
  name := welcomes.name
  mirrored := welcomes.joined.mirrored
  opened := welcomes.opened
  isOpen queue := by rw [Floor.isOpen, Floor.isOpen, welcomes.queues]
  shut closed := Or.inl (welcomes.isClosed ▸ closed)

theorem Loses.tends {connection : ConnectionId} (loses : place.Loses connection place') :
    place.Tends place' where
  name := loses.name
  mirrored := loses.mirrored
  opened := loses.opened
  isOpen queue := by rw [Floor.isOpen, Floor.isOpen, loses.queues]
  shut closed := Or.inl (loses.isClosed ▸ closed)

/-- Who keeps the seat is told of everything. -/
theorem Stirs.sitAt (stirs : mid.Stirs place') (sit : guests.SitAt id mid)
    {told : ConnectionId → Option QueueId}
    (heard : ∀ connection queue, mid.table.subscribers.get? connection = some queue →
      told connection = some queue) : (guests.inTime told place'.floor).SitAt id place' := by
  intro connection guest is
  obtain ⟨is', quick⟩ := Guests.of_inTime is
  obtain ⟨seat, listens, hears⟩ := sit connection guest is'
  have seat' : place'.floor.lobby.session connection = some guest.session := by
    rcases stirs.session connection with same | ⟨gone, queue, there, full⟩
    · rw [same, seat]
    · simp [gone, heard connection queue there, full] at quick
  refine ⟨seat', (stirs.isOpen guest.queue).trans listens, ?_⟩
  intro early here
  exact stirs.told connection guest.queue (hears early here) listens (Option.isSome_of_eq_some seat')

theorem Loses.sitAt {connection : ConnectionId} (loses : place.Loses connection place')
    (sit : guests.SitAt id place) : (guests.without connection).SitAt id place' := by
  intro other guest is
  obtain ⟨is', apart⟩ := Guests.of_without is
  obtain ⟨seat, listens, hears⟩ := sit other guest is'
  refine ⟨by rw [loses.session, if_neg apart, seat], ?_, ?_⟩
  · rwa [loses.tends.isOpen]
  · intro early here
    rw [loses.subscribers, Dict.get?_erase, if_neg apart]
    exact hears early here

/-- Who comes in time displaces only the connection that had the seat. -/
theorem Welcomes.sitAt {connection : ConnectionId} {queue : QueueId} {session : Session} {late : Bool}
    (welcomes : place.Welcomes connection queue session place') (sit : guests.SitAt id place)
    (early : ∀ guest, guests connection = some guest → guest.late = false → guest.table = id →
      late = false) :
    (guests.including connection ⟨session, queue, id, late⟩ (place'.floor.isOpen queue)).SitAt id place' := by
  obtain ⟨_, here, seat, before, others⟩ := welcomes.joined
  intro other guest is
  unfold Guests.including at is
  split at is
  next same =>
    subst same
    rcases Option.or_eq_some_iff.mp is with old | ⟨_, new⟩
    · split at old
      next lateness =>
        obtain ⟨is', punctual⟩ := Option.filter_eq_some_iff.mp old
        rw [Bool.not_eq_true'] at punctual
        obtain ⟨seat', listens, _⟩ := sit other guest is'
        refine ⟨by rw [seat, before guest.session seat'], ?_, ?_⟩
        · rwa [welcomes.tends.isOpen]
        · intro _ there
          dsimp only at lateness
          simp [early guest is' punctual there] at lateness
      next => cases old
    · split at new
      next listens =>
        obtain rfl := Option.some.inj new
        refine ⟨seat, listens, ?_⟩
        intro _ _
        exact (welcomes.subscribers other queue).mpr ⟨by simp, Option.isSome_of_eq_some seat⟩
      next => cases new
  next apart =>
    obtain ⟨is', stays⟩ := Option.filter_eq_some_iff.mp is
    obtain ⟨seat', listens, hears⟩ := sit other guest is'
    have seat'' : place'.floor.lobby.session other = some guest.session := by
      rcases others other apart with same | ⟨_, old, found, there, token⟩
      · rw [same, seat']
      · obtain rfl := Option.some.inj (seat'.symm.trans found)
        simp [there, here, token] at stays
    refine ⟨seat'', by rwa [welcomes.tends.isOpen], ?_⟩
    intro punctual there
    refine (welcomes.subscribers other guest.queue).mpr ⟨?_, Option.isSome_of_eq_some seat''⟩
    rw [if_neg apart]
    exact hears punctual there

end Tends

end AtTable

namespace Hall

/-- Whether the guests have their seats, and those that were served in time are told of their match
at its table. A running table is the one of its match unless it is to be closed. -/
structure Hosts (hall : Hall) (doomed : TableId → Prop) (guests : Guests) : Prop where
  mirrored : hall.floor.lobby.Mirrored
  registered : ∀ matchId id, hall.registry.get? matchId = some id → ¬doomed id ∧
    ∃ t, hall.tables.get? id = some t ∧ t.matchId = matchId
  running : ∀ id t, hall.tables.get? id = some t → t.isClosed = false →
    hall.registry.get? t.matchId = some id ∨ doomed id
  known : ∀ id t, hall.tables.get? id = some t → id < hall.opened
  fresh : ∀ id, doomed id → id < hall.opened
  seated : ∀ connection guest, guests connection = some guest →
    hall.floor.lobby.session connection = some guest.session ∧ hall.floor.isOpen guest.queue ∧
      guest.table < hall.opened
  late : ∀ connection guest, guests connection = some guest → guest.late →
    doomed guest.table ∨ hall.isRunning guest.table = false
  told : ∀ connection guest, guests connection = some guest → guest.late = false →
    hall.registry.get? guest.session.matchId = some guest.table ∧
      ∃ t, hall.tables.get? guest.table = some t ∧ t.isClosed = false ∧
        t.subscribers.get? connection = some guest.queue

section Hosts

variable {hall : Hall} {doomed doomed' : TableId → Prop} {guests guests' : Guests}

theorem isRunning_eq_false {id : TableId} : hall.isRunning id = false ↔
    ∀ t, hall.tables.get? id = some t → t.isClosed = true := by
  unfold isRunning
  cases hall.tables.get? id <;> simp

/-- A table need not be to be closed any more once it is. -/
theorem Hosts.mono (hosts : hall.Hosts doomed guests) (fewer : ∀ id, doomed' id → doomed id)
    (closed : ∀ id, doomed id → doomed' id ∨ hall.isRunning id = false) :
    hall.Hosts doomed' guests := by
  refine ⟨hosts.mirrored, ?_, ?_, hosts.known, fun id gone => hosts.fresh id (fewer id gone),
    hosts.seated, ?_, hosts.told⟩
  · intro matchId id registered
    obtain ⟨stays, there⟩ := hosts.registered matchId id registered
    exact ⟨fun gone => stays (fewer id gone), there⟩
  · intro id t found open'
    rcases hosts.running id t found open' with registered | gone
    · exact Or.inl registered
    · rcases closed id gone with gone' | closed
      · exact Or.inr gone'
      · simp [isRunning_eq_false.mp closed t found] at open'
  · intro connection guest is late
    rcases hosts.late connection guest is late with gone | closed'
    · exact closed guest.table gone
    · exact Or.inr closed'

theorem Hosts.sitAt (hosts : hall.Hosts doomed guests) {id : TableId} {t : Table}
    (found : hall.tables.get? id = some t) : guests.SitAt id ⟨t, hall.floor⟩ := by
  intro connection guest is
  obtain ⟨seat, listens, _⟩ := hosts.seated connection guest is
  refine ⟨seat, listens, ?_⟩
  rintro early rfl
  obtain ⟨_, t', found', _, hears⟩ := hosts.told connection guest is early
  obtain rfl : t = t' := Option.some.inj (found.symm.trans found')
  exact hears

/-- A table that runs after something has happened at one that was open ran before, for the same
match. -/
theorem running_of_put {id query : TableId} {t t' : Table} {place' : AtTable}
    (found : hall.tables.get? id = some t) (open' : t.isClosed = false)
    (tends : AtTable.Tends ⟨t, hall.floor⟩ place')
    (found' : (hall.put id place').tables.get? query = some t') (running : t'.isClosed = false) :
    ∃ t, hall.tables.get? query = some t ∧ t.isClosed = false ∧ t'.matchId = t.matchId := by
  rw [get?_tables_put] at found'
  split at found'
  next same =>
    subst same
    obtain rfl := Option.some.inj found'
    exact ⟨t, found, open', (matchId_struck _).trans tends.name⟩
  next => exact ⟨t', found', running, rfl⟩

/-- What happens at a running table leaves everything in order, if its guests sit there, and those
that are new are late exactly when the table is to be closed. -/
theorem Hosts.put (hosts : hall.Hosts doomed guests) {id : TableId} {t : Table} {place' : AtTable}
    (found : hall.tables.get? id = some t) (open' : t.isClosed = false)
    (tends : AtTable.Tends ⟨t, hall.floor⟩ place') (sit : guests'.SitAt id place')
    (origin : ∀ connection guest, guests' connection = some guest → guests connection = some guest ∨
      guest.table = id ∧ guest.session.matchId = t.matchId ∧ (guest.late = true ↔ doomed id)) :
    (hall.put id place').Hosts doomed guests' := by
  refine ⟨tends.mirrored, ?_, ?_, ?_, hosts.fresh, ?_, ?_, ?_⟩
  · intro matchId query registered
    obtain ⟨stays, t', found', name⟩ := hosts.registered matchId query registered
    refine ⟨stays, ?_⟩
    rw [get?_tables_put]
    split
    next same =>
      subst same
      obtain rfl : t = t' := Option.some.inj (found.symm.trans found')
      exact ⟨_, rfl, (matchId_struck _).trans (tends.name.trans name)⟩
    next => exact ⟨t', found', name⟩
  · intro query t' found' running
    obtain ⟨t, found, open', name⟩ := running_of_put found open' tends found' running
    rw [name]
    exact hosts.running query t found open'
  · intro query t' found'
    rw [get?_tables_put] at found'
    split at found'
    next same => exact same ▸ hosts.known id t found
    next => exact hosts.known query t' found'
  · intro connection guest is
    obtain ⟨seat, listens, _⟩ := sit connection guest is
    refine ⟨seat, listens, ?_⟩
    rcases origin connection guest is with is' | ⟨there, _⟩
    · exact (hosts.seated connection guest is').2.2
    · exact there ▸ hosts.known id t found
  · intro connection guest is late
    rcases origin connection guest is with is' | ⟨rfl, _, lateness⟩
    · rcases hosts.late connection guest is' late with gone | closed
      · exact Or.inl gone
      · refine Or.inr (isRunning_eq_false.mpr ?_)
        intro t' found'
        by_contra running
        rw [Bool.not_eq_true] at running
        obtain ⟨t'', found'', open'', _⟩ := running_of_put found open' tends found' running
        simp [isRunning_eq_false.mp closed t'' found''] at open''
    · exact Or.inl (lateness.mp late)
  · intro connection guest is early
    obtain ⟨seat, _, hears⟩ := sit connection guest is
    have hears' : guest.table = id → guest.session.matchId = t.matchId →
        ∃ t', (hall.put id place').tables.get? guest.table = some t' ∧ t'.isClosed = false ∧
          t'.subscribers.get? connection = some guest.queue := by
      intro there here
      have runs := tends.open_of_session open' seat here
      refine ⟨struck place'.table, by simp [there], by rw [isClosed_struck, runs], ?_⟩
      unfold struck
      rw [if_neg (by simp [runs])]
      exact hears early there
    rcases origin connection guest is with is' | ⟨there, here, lateness⟩
    · obtain ⟨registered, t', found', running, told⟩ := hosts.told connection guest is' early
      refine ⟨registered, ?_⟩
      by_cases same : guest.table = id
      · obtain ⟨_, t'', found'', name⟩ := hosts.registered _ _ registered
        rw [same, found] at found''
        exact hears' same (name.symm.trans (congrArg Table.matchId (Option.some.inj found'').symm))
      · exact ⟨t', by simp [same, found'], running, told⟩
    · refine ⟨?_, hears' there here⟩
      rw [here, there, registry_put]
      rcases hosts.running id t found open' with registered | gone
      · exact registered
      · simp [lateness.mpr gone] at early

/-- A table that is to be closed has no guests that were served in time. -/
theorem Hosts.close (hosts : hall.Hosts doomed guests) {id : TableId} (gone : doomed id) {t : Table}
    (found : hall.tables.get? id = some t) (open' : t.isClosed = false) :
    (hall.ask id Message.close).2.Hosts doomed guests ∧
      (hall.ask id Message.close).2.isRunning id = false := by
  obtain ⟨t', closed, tables⟩ : ∃ t' : Table, t'.isClosed = true ∧
      ∀ query, (hall.ask id Message.close).2.tables.get? query =
        if query = id then some t' else hall.tables.get? query := by
    rw [ask_running found open']
    exact ⟨_, isClosed_struck _, fun query => get?_tables_put _ _ _ query⟩
  obtain ⟨_, same, _⟩ := ask_close hall id
  have floor : (hall.ask id Message.close).2.floor = hall.floor := by rw [same]
  have registry : (hall.ask id Message.close).2.registry = hall.registry := by rw [same]
  have opened : (hall.ask id Message.close).2.opened = hall.opened := by rw [same]
  have registered : ∀ matchId query, hall.registry.get? matchId = some query → query ≠ id := by
    rintro matchId query registered rfl
    exact (hosts.registered matchId query registered).1 gone
  have shut : (hall.ask id Message.close).2.isRunning id = false := by
    refine isRunning_eq_false.mpr ?_
    intro t'' found'
    rw [tables, if_pos rfl] at found'
    rw [← Option.some.inj found', closed]
  refine ⟨?_, shut⟩
  constructor
  · rw [floor]
    exact hosts.mirrored
  · intro matchId query there
    rw [registry] at there
    rw [tables, if_neg (registered matchId query there)]
    exact hosts.registered matchId query there
  · intro query t'' found' running
    rw [tables] at found'
    split at found'
    next =>
      obtain rfl := Option.some.inj found'
      simp [closed] at running
    next =>
      rw [registry]
      exact hosts.running query t'' found' running
  · intro query t'' found'
    rw [opened]
    rw [tables] at found'
    split at found'
    next same => exact same ▸ hosts.known id t found
    next => exact hosts.known query t'' found'
  · rw [opened]
    exact hosts.fresh
  · rw [floor, opened]
    exact hosts.seated
  · intro connection guest is late
    by_cases here : guest.table = id
    · exact Or.inr (here ▸ shut)
    · have unmoved : (hall.ask id Message.close).2.isRunning guest.table =
          hall.isRunning guest.table := by
        rw [isRunning, isRunning, tables, if_neg here]
      rw [unmoved]
      exact hosts.late connection guest is late
  · intro connection guest is early
    obtain ⟨there, hears⟩ := hosts.told connection guest is early
    rw [registry, tables, if_neg (registered _ _ there)]
    exact ⟨there, hears⟩

/-- The table of a match in which nobody sits is to be closed. -/
theorem Hosts.unregister (hosts : hall.Hosts doomed guests) {matchId : MatchId} {id : TableId}
    (empty : hall.floor.lobby.hasRoom matchId = false)
    (registered : hall.registry.get? matchId = some id) :
    Hosts { hall with registry := hall.registry.erase matchId } (fun query => query = id ∨ doomed query)
      guests := by
  obtain ⟨_, t, found, name⟩ := hosts.registered matchId id registered
  refine ⟨hosts.mirrored, ?_, ?_, hosts.known, ?_, hosts.seated, ?_, ?_⟩
  · intro query id' there
    rw [Dict.get?_erase] at there
    split at there
    next => cases there
    next away =>
      obtain ⟨stays, t', found', name'⟩ := hosts.registered query id' there
      refine ⟨?_, t', found', name'⟩
      rintro (rfl | gone)
      · obtain rfl : t = t' := Option.some.inj (found.symm.trans found')
        exact away (name'.symm.trans name)
      · exact stays gone
  · intro id' t' found' open'
    dsimp only
    rcases hosts.running id' t' found' open' with there | gone
    · by_cases here : t'.matchId = matchId
      · rw [here, registered] at there
        exact Or.inr (Or.inl (Option.some.inj there).symm)
      · exact Or.inl (by rw [Dict.get?_erase, if_neg here, there])
    · exact Or.inr (Or.inr gone)
  · rintro id' (rfl | gone)
    · exact hosts.known id' t found
    · exact hosts.fresh id' gone
  · intro connection guest is late
    exact (hosts.late connection guest is late).imp_left Or.inr
  · intro connection guest is early
    obtain ⟨there, hears⟩ := hosts.told connection guest is early
    have away : guest.session.matchId ≠ matchId := by
      rintro rfl
      obtain ⟨seat, _⟩ := hosts.seated connection guest is
      have room := hosts.mirrored.hasRoom_iff_session.mpr ⟨connection, guest.session, seat, rfl⟩
      simp [empty] at room
    exact ⟨by rw [Dict.get?_erase, if_neg away, there], hears⟩

theorem Hosts.openTable (hosts : hall.Hosts doomed guests) {matchId : MatchId}
    (idle : hall.running? matchId = none) : (hall.openTable matchId).2.Hosts doomed guests := by
  have older : ∀ id t, hall.tables.get? id = some t →
      (hall.openTable matchId).2.tables.get? id = some t := by
    intro id t found
    exact (Dict.get?_insert _ _ _ _).trans ((if_neg (hosts.known id t found).ne).trans found)
  have registry : ∀ query, (hall.openTable matchId).2.registry.get? query =
      if query = matchId then some hall.opened else hall.registry.get? query :=
    fun query => Dict.get?_insert _ _ _ _
  -- the match had no table that was running
  have elsewhere : ∀ query id t, hall.registry.get? query = some id → hall.tables.get? id = some t →
      t.isClosed = false → query ≠ matchId := by
    rintro query id t registered found open' rfl
    have running : hall.running? query = some ⟨id, query⟩ :=
      running?_eq_some.mpr ⟨rfl, registered, t, found, open'⟩
    simp [idle] at running
  refine ⟨hosts.mirrored, ?_, ?_, ?_, ?_, ?_, ?_, ?_⟩
  · intro query id registered
    rw [registry] at registered
    split at registered
    next same =>
      obtain rfl := Option.some.inj registered
      exact ⟨fun gone => (hosts.fresh _ gone).false, .empty query, by simp [Hall.openTable, same], rfl⟩
    next =>
      obtain ⟨stays, t, found, name⟩ := hosts.registered query id registered
      exact ⟨stays, t, older id t found, name⟩
  · intro id t found open'
    rw [registry]
    simp only [Hall.openTable, Dict.get?_insert] at found
    split at found
    next same =>
      obtain rfl := Option.some.inj found
      exact Or.inl (by simp [Table.empty, same])
    next =>
      rcases hosts.running id t found open' with registered | gone
      · exact Or.inl (by rw [if_neg (elsewhere _ id t registered found open'), registered])
      · exact Or.inr gone
  · intro id t found
    simp only [Hall.openTable, Dict.get?_insert] at found ⊢
    split at found
    next same => exact same.trans_lt (Nat.lt_succ_self _)
    next => exact (hosts.known id t found).trans (Nat.lt_succ_self _)
  · exact fun id gone => (hosts.fresh id gone).trans (Nat.lt_succ_self _)
  · intro connection guest is
    obtain ⟨seat, listens, known⟩ := hosts.seated connection guest is
    exact ⟨seat, listens, known.trans (Nat.lt_succ_self _)⟩
  · intro connection guest is late
    refine (hosts.late connection guest is late).imp_right ?_
    intro closed
    refine isRunning_eq_false.mpr ?_
    intro t found
    obtain ⟨_, _, known⟩ := hosts.seated connection guest is
    simp only [Hall.openTable, Dict.get?_insert, if_neg known.ne] at found
    exact isRunning_eq_false.mp closed t found
  · intro connection guest is early
    obtain ⟨registered, t, found, open', hears⟩ := hosts.told connection guest is early
    refine ⟨?_, t, older _ t found, open', hears⟩
    rw [registry, if_neg (elsewhere _ _ t registered found open'), registered]

/-- Guests whose queues are still open are hosted on another floor with the same lobby. -/
theorem Hosts.onFloor (hosts : hall.Hosts doomed guests) {floor : Floor}
    (lobby : floor.lobby = hall.floor.lobby)
    (listen : ∀ connection guest, guests' connection = some guest →
      guests connection = some guest ∧ floor.isOpen guest.queue) :
    Hosts { hall with floor } doomed guests' := by
  refine ⟨lobby ▸ hosts.mirrored, hosts.registered, hosts.running, hosts.known, hosts.fresh,
    ?_, ?_, ?_⟩
  · intro connection guest is
    obtain ⟨is', listens⟩ := listen connection guest is
    obtain ⟨seat, _, known⟩ := hosts.seated connection guest is'
    dsimp only
    rw [lobby]
    exact ⟨seat, listens, known⟩
  · intro connection guest is
    exact hosts.late connection guest (listen connection guest is).1
  · intro connection guest is
    exact hosts.told connection guest (listen connection guest is).1

/-- The guests are told of nothing that a service does with the archive. -/
theorem Hosts.ofService (hosts : hall.Hosts doomed guests) {α : Type} (step : Service.Step α) :
    ((Hall.ofService step).apply hall).2.Hosts doomed guests :=
  hosts.onFloor rfl (fun connection guest is => ⟨is, (hosts.seated connection guest is).2.1⟩)

/-- A step that only stirs those at a table. -/
theorem Hosts.put_stirs (hosts : hall.Hosts doomed guests) {id : TableId} {t : Table}
    {place' : AtTable} (found : hall.tables.get? id = some t) (open' : t.isClosed = false)
    (stirs : AtTable.Stirs ⟨t, hall.floor⟩ place') {told : ConnectionId → Option QueueId}
    (heard : ∀ connection queue, t.subscribers.get? connection = some queue →
      told connection = some queue) :
    (hall.put id place').Hosts doomed (guests.inTime told place'.floor) := by
  refine hosts.put found open' stirs.tends (stirs.sitAt (hosts.sitAt found) heard) ?_
  intro connection guest is
  exact Or.inl (Guests.of_inTime is).1

/-- What a running table makes of a message that may be refused. -/
theorem submit_running {id : TableId} {t : Table} (found : hall.tables.get? id = some t)
    (open' : t.isClosed = false) {α : Type} {message : Message (Except Refusal α)} {step : TableStep α}
    (handled : ∀ place, AtTable.handle message place = step.apply place) (reply : α → Reply) :
    Errand.submit hall id message reply =
      match step.apply ⟨t, hall.floor⟩ with
      | (.ok answer, place') => (reply answer, hall.put id place')
      | (.error _, place') => (.refused, hall.put id place') := by
  unfold Errand.submit
  rw [ask_running found open', handled]
  rcases step.apply ⟨t, hall.floor⟩ with ⟨_ | answer, place'⟩ <;> rfl

/-- A message that only stirs those at a table, whatever comes of it. -/
theorem Hosts.submit_stirs (hosts : hall.Hosts doomed guests) {id : TableId} {t : Table}
    (found : hall.tables.get? id = some t) (open' : t.isClosed = false) {α : Type}
    {message : Message (Except Refusal α)} {step : TableStep α}
    (handled : ∀ place, AtTable.handle message place = step.apply place) (reply : α → Reply)
    (yields : step.Yields ⟨t, hall.floor⟩ (fun _ place' => AtTable.Stirs ⟨t, hall.floor⟩ place')
      (fun _ place' => AtTable.Stirs ⟨t, hall.floor⟩ place')) :
    (Errand.submit hall id message reply).2.Hosts doomed
      (guests.inTime t.subscribers.get? (Errand.submit hall id message reply).2.floor) := by
  rw [submit_running found open' handled]
  rcases applied : step.apply ⟨t, hall.floor⟩ with ⟨refusal | answer, place'⟩
  · exact hosts.put_stirs found open' (yields.refusal _ _ applied) (fun _ _ there => there)
  · exact hosts.put_stirs found open' (yields.answer _ _ applied) (fun _ _ there => there)

/-- An errand that is delivered to an open table leaves its guests hosted, with whoever it was served,
in time or too late. -/
theorem Hosts.deliver (hosts : hall.Hosts doomed guests) {id : TableId} {t : Table}
    (found : hall.tables.get? id = some t) (open' : t.isClosed = false) (errand : Errand) {late : Bool}
    (lateness : late = true ↔ doomed id) :
    (errand.deliver id hall).2.Hosts doomed (guests.served errand t id late
      (errand.deliver id hall).1 (errand.deliver id hall).2.floor) := by
  cases errand with
  | join text connection token queue =>
    have joined := @AtTable.join_yields ⟨t, hall.floor⟩ hosts.mirrored connection token queue
    have handled : ∀ place : AtTable, AtTable.handle (.join connection token queue) place =
        (AtTable.join connection token queue).apply place := fun _ => rfl
    have delivered : (Errand.join text connection token queue).deliver id hall = _ :=
      submit_running found open' handled .seated
    rw [delivered]
    rcases applied : (AtTable.join connection token queue).apply ⟨t, hall.floor⟩ with
      ⟨refusal | session, place'⟩
    · exact hosts.put_stirs found open' (joined.refusal refusal place' applied) (fun _ _ there => there)
    · obtain ⟨mid, welcomes, stirs⟩ := joined.answer session place' applied
      have early : ∀ guest, guests connection = some guest → guest.late = false →
          guest.table = id → late = false := by
        rintro guest is punctual rfl
        obtain ⟨registered, _⟩ := hosts.told connection guest is punctual
        rw [← Bool.not_eq_true, lateness]
        exact (hosts.registered _ _ registered).1
      have sit := welcomes.sitAt (hosts.sitAt found) early
      rw [← stirs.isOpen] at sit
      refine hosts.put found open' (welcomes.tends.stirs welcomes.isClosed stirs)
        (stirs.sitAt sit ?_) ?_
      · intro other waiting told
        have told' := ((welcomes.subscribers other waiting).mp told).1
        by_cases same : other = connection
        · simpa [Errand.told, same] using told'
        · simpa [Errand.told, same] using told'
      · intro other guest is
        rcases Guests.of_including (Guests.of_inTime is).1 with is' | rfl
        · exact Or.inl is'
        · exact Or.inr ⟨rfl, welcomes.joined.here, lateness⟩
  | startHand connection text vira =>
    have started := @AtTable.startHand_yields ⟨t, hall.floor⟩ hosts.mirrored connection vira
    have handled : ∀ place : AtTable, AtTable.handle (.startHand connection vira) place =
        (AtTable.startHand connection vira).apply place := fun _ => rfl
    exact hosts.submit_stirs found open' handled (fun _ => .done)
      (started.mono (fun _ _ both => both.1) (fun _ _ stirs => stirs))
  | playCard connection text card =>
    have played := @AtTable.playCard_yields ⟨t, hall.floor⟩ hosts.mirrored connection card
    have handled : ∀ place : AtTable, AtTable.handle (.playCard connection card) place =
        (AtTable.playCard connection card).apply place := fun _ => rfl
    exact hosts.submit_stirs found open' handled (fun _ => .done)
      (played.mono (fun _ _ both => both.1) (fun _ _ stirs => stirs))
  | leave connection =>
    obtain ⟨_, mid, loses, stirs⟩ :=
      @AtTable.leave_loses ⟨t, hall.floor⟩ hosts.mirrored connection
    obtain ⟨reply, done⟩ : ∃ reply, (Errand.leave connection).deliver id hall =
        (reply, hall.put id (AtTable.leave connection ⟨t, hall.floor⟩).2) := by
      rcases answer : AtTable.leave connection ⟨t, hall.floor⟩ with ⟨_ | matchId, place'⟩
      · exact ⟨.done, by simp [Errand.deliver, ask_running found open', AtTable.handle, answer]⟩
      · exact ⟨.left matchId, by simp [Errand.deliver, ask_running found open', AtTable.handle, answer]⟩
    rw [done]
    refine hosts.put found open' (loses.tends.stirs loses.isClosed stirs)
      (stirs.sitAt (loses.sitAt (hosts.sitAt found)) ?_) ?_
    · intro other waiting told
      by_cases gone : other = connection
      · simp [loses.subscribers, gone] at told
      · simpa [Errand.told, loses.subscribers, gone] using told
    · intro other guest is
      exact Or.inl (Guests.of_without (Guests.of_inTime is).1).1

end Hosts

end Hall

end TrucoPaulista
