import TrucoPaulista.Hall
import TrucoPaulista.Proofs.Attendance
import TrucoPaulista.Proofs.Service

namespace TrucoPaulista

theorem Request.matchId_self {text : String} {matchId : MatchId}
    (read : Request.matchId text = .ok matchId) : Request.matchId matchId = .ok matchId := by
  obtain ⟨rfl, solid⟩ := Request.matchId_eq_ok.mp read
  exact Request.matchId_eq_ok.mpr ⟨Text.trim_trim text, solid⟩

namespace Hall

/-- A table as it stays in the hall: one that is closed tells nobody anything. -/
def struck (t : Table) : Table := if t.isClosed then { t with subscribers := ∅ } else t

/-- The hall after something has happened at a table. -/
def put (hall : Hall) (id : TableId) (place : AtTable) : Hall :=
  { hall with floor := place.floor, tables := hall.tables.insert id (struck place.table) }

/-- Whether every match in which somebody sits has a table, and those at the tables of the matches
are attended. -/
structure Attended (hall : Hall) (given : Given) : Prop where
  mirrored : hall.floor.lobby.Mirrored
  table : ∀ matchId id, hall.registry.get? matchId = some id → ∃ t, hall.tables.get? id = some t ∧
    t.matchId = matchId ∧ Request.matchId matchId = .ok matchId ∧
    AtTable.Attended ⟨t, hall.floor⟩ given
  rooms : ∀ matchId, hall.floor.lobby.hasRoom matchId → (hall.registry.get? matchId).isSome
  fresh : ∀ id t, hall.tables.get? id = some t → id < hall.opened

/-- Whether a match has a running table only while somebody sits in it. -/
def IsNeeded (hall : Hall) (matchId : MatchId) : Prop :=
  (hall.running? matchId).isSome → hall.floor.lobby.hasRoom matchId

/-- Whether a hall is as it should be between two calls. -/
structure Tidy (hall : Hall) (given : Given) : Prop where
  attended : hall.Attended given
  needed : ∀ matchId, hall.IsNeeded matchId

/-- Whether a hall is as it should be but for a table that was opened for a message. -/
structure Prepared (hall : Hall) (given : Given) (handle : Handle) : Prop where
  attended : hall.Attended given
  running : hall.running? handle.matchId = some handle
  needed : ∀ matchId, matchId ≠ handle.matchId → hall.IsNeeded matchId

section Put

variable (hall : Hall) (id : TableId) (place : AtTable)

@[simp] theorem floor_put : (hall.put id place).floor = place.floor := rfl

@[simp] theorem registry_put : (hall.put id place).registry = hall.registry := rfl

@[simp] theorem get?_tables_put (query : TableId) : (hall.put id place).tables.get? query =
    if query = id then some (struck place.table) else hall.tables.get? query :=
  Dict.get?_insert _ _ _ _

end Put

section Basics

variable {hall : Hall} {given given' : Given} {matchId : MatchId} {handle : Handle}

theorem running?_eq_some : hall.running? matchId = some handle ↔ handle.matchId = matchId ∧
    hall.registry.get? matchId = some handle.table ∧
    ∃ t, hall.tables.get? handle.table = some t ∧ t.isClosed = false := by
  obtain ⟨id, name⟩ := handle
  simp only [running?, Option.map_eq_some_iff, Option.filter_eq_some_iff, isRunning,
    Option.any_eq_true]
  constructor
  · rintro ⟨id', ⟨registered, t, found, open'⟩, same⟩
    cases same
    exact ⟨rfl, registered, t, found, by simpa using open'⟩
  · rintro ⟨rfl, registered, t, found, open'⟩
    exact ⟨id, ⟨registered, t, found, by simpa using open'⟩, rfl⟩

theorem Attended.running (attended : hall.Attended given)
    (open' : hall.floor.lobby.hasRoom matchId) : ∃ handle, hall.running? matchId = some handle := by
  obtain ⟨id, registered⟩ := Option.isSome_iff_exists.mp (attended.rooms matchId open')
  obtain ⟨t, found, rfl, _, seats⟩ := attended.table matchId id registered
  refine ⟨⟨id, t.matchId⟩, running?_eq_some.mpr ⟨rfl, registered, t, found, ?_⟩⟩
  by_contra closed
  rw [Bool.not_eq_false] at closed
  simp [seats.shut closed] at open'

theorem Tidy.prepared (tidy : hall.Tidy given) (running : hall.running? handle.matchId = some handle) :
    hall.Prepared given handle := ⟨tidy.attended, running, fun query _ => tidy.needed query⟩

theorem Prepared.table (prepared : hall.Prepared given handle) : ∃ t,
    hall.tables.get? handle.table = some t ∧ t.isClosed = false ∧ t.matchId = handle.matchId ∧
      Request.matchId t.matchId = .ok t.matchId ∧ AtTable.Attended ⟨t, hall.floor⟩ given := by
  obtain ⟨_, registered, t, found, open'⟩ := running?_eq_some.mp prepared.running
  obtain ⟨t', found', name, valid, seats⟩ :=
    prepared.attended.table handle.matchId handle.table registered
  obtain rfl : t = t' := Option.some.inj (found.symm.trans found')
  exact ⟨t, found, open', name, name ▸ valid, seats⟩

theorem struck_attended {place : AtTable} (attended : place.Attended given)
    (mirrored : place.floor.lobby.Mirrored) :
    AtTable.Attended ⟨struck place.table, place.floor⟩ given := by
  unfold struck
  split
  next closed =>
    have empty := attended.shut closed
    refine ⟨?_, ?_, fun _ => empty⟩
    · intro connection queue told
      simp [EmptyCollection.emptyCollection] at told
    · intro connection session found here
      have room := mirrored.hasRoom_iff_session.mpr ⟨connection, session, found, here⟩
      simp [empty] at room
  next => exact attended

theorem matchId_struck (t : Table) : (struck t).matchId = t.matchId := by
  unfold struck
  split <;> rfl

theorem isClosed_struck (t : Table) : (struck t).isClosed = t.isClosed := by
  unfold struck
  split <;> rfl

/-- A message for a running table is handled there. -/
theorem ask_running {t : Table} {id : TableId} (found : hall.tables.get? id = some t)
    (open' : t.isClosed = false) {ρ : Type} (message : Message ρ) :
    hall.ask id message = (some (AtTable.handle message ⟨t, hall.floor⟩).1,
      hall.put id (AtTable.handle message ⟨t, hall.floor⟩).2) := by
  unfold ask
  rw [found]
  simp [Option.filter, open', put, struck]

end Basics

section Put

variable {hall : Hall} {given given' : Given} {t : Table} {id : TableId} {place' : AtTable}
  (attended : hall.Attended given) (registered : hall.registry.get? t.matchId = some id)
  (found : hall.tables.get? id = some t)
  (serves : AtTable.Serves ⟨t, hall.floor⟩ given place' given')

include attended registered found serves

theorem Attended.put : (hall.put id place').Attended given' := by
  refine ⟨serves.mirrored, ?_, ?_, ?_⟩
  · intro matchId id' registered'
    rw [registry_put] at registered'
    obtain ⟨t', found', rfl, valid, seats⟩ := attended.table matchId id' registered'
    by_cases same : id' = id
    · subst same
      obtain rfl : t = t' := Option.some.inj (found.symm.trans found')
      refine ⟨struck place'.table, by simp, ?_, valid, ?_⟩
      · exact (matchId_struck _).trans serves.name
      · exact struck_attended serves.attended serves.mirrored
    · have away : t'.matchId ≠ t.matchId := by
        intro equal
        rw [equal, registered] at registered'
        exact same (Option.some.inj registered').symm
      refine ⟨t', by simp [same, found'], rfl, valid, ?_⟩
      exact AtTable.Attended.elsewhere seats attended.mirrored away serves
  · intro matchId open'
    by_cases here : matchId = t.matchId
    · simp [here, registered]
    · exact attended.rooms matchId ((serves.hasRoom_iff attended.mirrored here).mp open')
  · intro id' t' found'
    by_cases same : id' = id
    · exact same ▸ attended.fresh id t found
    · rw [get?_tables_put, if_neg same] at found'
      exact attended.fresh id' t' found'

omit registered in
/-- The tables of other matches run on, and are needed if they were. -/
theorem Attended.needed_put {matchId : MatchId} (away : matchId ≠ t.matchId)
    (needed : hall.IsNeeded matchId) : (hall.put id place').IsNeeded matchId := by
  intro running
  obtain ⟨handle, running'⟩ := Option.isSome_iff_exists.mp running
  obtain ⟨rfl, registered', t', found', open'⟩ := running?_eq_some.mp running'
  rw [registry_put] at registered'
  have other : handle.table ≠ id := by
    intro same
    obtain ⟨t'', found'', name, _⟩ := attended.table handle.matchId handle.table registered'
    rw [same, found] at found''
    exact away ((Option.some.inj found'') ▸ name.symm)
  rw [get?_tables_put, if_neg other] at found'
  have before : hall.running? handle.matchId = some handle :=
    running?_eq_some.mpr ⟨rfl, registered', t', found', open'⟩
  have room := needed (Option.isSome_of_eq_some before)
  exact (serves.hasRoom_iff attended.mirrored away).mpr room

omit attended found in
theorem needed_put_of_isEven (even : place'.IsEven) : (hall.put id place').IsNeeded t.matchId := by
  intro running
  obtain ⟨handle, running'⟩ := Option.isSome_iff_exists.mp running
  obtain ⟨_, registered', t', found', open'⟩ := running?_eq_some.mp running'
  obtain rfl : handle.table = id := Option.some.inj (registered'.symm.trans registered)
  rw [get?_tables_put, if_pos rfl] at found'
  rw [← Option.some.inj found', isClosed_struck, even, serves.name] at open'
  simpa using open'

end Put

section Floors

variable {hall : Hall} {given : Given} {floor : Floor}

/-- What becomes of the archive and of the queues does not matter, as long as nobody listens again
who has hung up. -/
theorem Attended.onFloor (attended : hall.Attended given) (lobby : floor.lobby = hall.floor.lobby)
    (opened : hall.floor.opened ≤ floor.opened)
    (isOpen : ∀ queue < hall.floor.opened, floor.isOpen queue → hall.floor.isOpen queue) :
    Attended { hall with floor } given := by
  refine ⟨lobby ▸ attended.mirrored, ?_, ?_, attended.fresh⟩
  · intro matchId id registered
    obtain ⟨t, found, name, valid, seats⟩ := attended.table matchId id registered
    refine ⟨t, found, name, valid, ?_, ?_, ?_⟩
    · intro connection queue told
      dsimp only
      rw [lobby]
      exact seats.seated connection queue told
    · intro connection session found here
      dsimp only at found
      rw [lobby] at found
      obtain ⟨queue, had, known, told⟩ := seats.served connection session found here
      exact ⟨queue, had, known.trans_le opened, fun opens => told (isOpen queue known opens)⟩
    · dsimp only
      rw [lobby]
      exact seats.shut
  · dsimp only
    rw [lobby]
    exact attended.rooms

/-- A hall is tidy on another floor with the same lobby, where no queue is opened again. -/
theorem Tidy.onFloor (tidy : hall.Tidy given) (lobby : floor.lobby = hall.floor.lobby)
    (opened : hall.floor.opened ≤ floor.opened)
    (isOpen : ∀ queue < hall.floor.opened, floor.isOpen queue → hall.floor.isOpen queue) :
    Tidy { hall with floor } given := by
  refine ⟨tidy.attended.onFloor lobby opened isOpen, ?_⟩
  intro matchId running
  dsimp only
  rw [lobby]
  exact tidy.needed matchId running

/-- A call of the service leaves a hall tidy, with the same running tables. -/
theorem Tidy.yields_ofService (tidy : hall.Tidy given) {α : Type} (step : Service.Step α) :
    (ofService step).Yields hall
      (fun _ hall' => hall'.Tidy given ∧ hall'.floor.opened = hall.floor.opened ∧
        ∀ matchId, hall'.running? matchId = hall.running? matchId)
      (fun _ hall' => hall'.Tidy given) := by
  have kept : Tidy { hall with floor := { hall.floor with
      archive := (step.apply hall.floor.archive).2 } } given :=
    tidy.onFloor rfl le_rfl (fun _ _ => id)
  constructor
  · intro _ hall' applied
    obtain rfl := (Prod.mk.inj applied).2
    exact ⟨kept, rfl, fun _ => rfl⟩
  · intro _ hall' applied
    obtain rfl := (Prod.mk.inj applied).2
    exact kept

end Floors

section Handles

variable {hall : Hall} {given : Given} {matchId : MatchId}

theorem Tidy.openTable (tidy : hall.Tidy given) (valid : Request.matchId matchId = .ok matchId)
    (idle : hall.running? matchId = none) :
    (hall.openTable matchId).2.Prepared given (hall.openTable matchId).1 := by
  have known : ∀ id t, hall.tables.get? id = some t → id ≠ hall.opened :=
    fun id t found => (tidy.attended.fresh id t found).ne
  have closed : hall.floor.lobby.hasRoom matchId = false := by
    by_contra open'
    rw [Bool.not_eq_false] at open'
    obtain ⟨handle, running⟩ := tidy.attended.running open'
    simp [idle] at running
  refine ⟨⟨tidy.attended.mirrored, ?_, ?_, ?_⟩, ?_, ?_⟩
  · intro query id registered
    simp only [Hall.openTable, Dict.get?_insert] at registered ⊢
    split at registered
    next same =>
      subst same
      obtain rfl := Option.some.inj registered
      refine ⟨.empty query, by simp, rfl, valid, ?_, ?_, ?_⟩
      · intro connection queue told
        simp [Table.empty] at told
      · intro connection session found here
        have room := tidy.attended.mirrored.hasRoom_iff_session.mpr ⟨connection, session, found, here⟩
        simp [Table.empty, closed] at room
      · intro shut
        simp [Table.empty] at shut
    next =>
      obtain ⟨t, found, name, valid', seats⟩ := tidy.attended.table query id registered
      exact ⟨t, by simp [known id t found, found], name, valid', seats⟩
  · intro query open'
    have before := tidy.attended.rooms query open'
    simp only [Hall.openTable, Dict.get?_insert]
    split
    next => rfl
    next => exact before
  · intro id t found
    simp only [Hall.openTable, Dict.get?_insert] at found ⊢
    split at found
    next same => exact same.trans_lt (Nat.lt_succ_self _)
    next => exact (tidy.attended.fresh id t found).trans (Nat.lt_succ_self _)
  · refine running?_eq_some.mpr ⟨rfl, by simp [Hall.openTable], .empty matchId, ?_, rfl⟩
    simp [Hall.openTable]
  · intro query away running
    obtain ⟨handle, running'⟩ := Option.isSome_iff_exists.mp running
    obtain ⟨rfl, registered, t, found, open'⟩ := running?_eq_some.mp running'
    simp only [Hall.openTable] at away registered found
    rw [Dict.get?_insert, if_neg away] at registered
    obtain ⟨t', found', _⟩ := tidy.attended.table handle.matchId handle.table registered
    rw [Dict.get?_insert, if_neg (known handle.table t' found')] at found
    have before := running?_eq_some.mpr ⟨rfl, registered, t, found, open'⟩
    exact tidy.needed handle.matchId (Option.isSome_of_eq_some before)

/-- A handle may be the one of a table that was opened just now and that nobody needs yet. -/
theorem Tidy.handle (tidy : hall.Tidy given) (text : String) :
    (Hall.handle text).Yields hall
      (fun handle hall' => hall'.Prepared given handle ∧ hall'.floor.opened = hall.floor.opened)
      (fun _ hall' => hall'.Tidy given) := by
  unfold Hall.handle
  rw [Action.yields_bind]
  cases read : Request.matchId text with
  | error refusal => exact (Action.yields_iff_of_error rfl).mpr tidy
  | ok matchId =>
    refine (Action.yields_iff_of_ok rfl).mpr ?_
    simp only [Action.yields_bind, Action.yields_look]
    cases running : hall.running? matchId with
    | some handle =>
      obtain ⟨rfl, _⟩ := running?_eq_some.mp running
      exact Action.yields_pure.mpr ⟨tidy.prepared running, rfl⟩
    | none =>
      simp only [Action.yields_bind]
      refine (tidy.yields_ofService (Service.doesExist matchId)).mono ?_ (fun _ _ => id)
      rintro found hall' ⟨tidy', opened, same⟩
      cases found with
      | false => exact Action.yields_throw.mpr tidy'
      | true =>
        have idle : hall'.running? matchId = none := (same matchId).trans running
        refine Action.yields_ofUpdate.mpr ?_
        rw [idle]
        exact ⟨tidy'.openTable (Request.matchId_self read) idle, opened⟩

/-- To close a table leaves all the others and the floor as they are. -/
theorem ask_close (hall : Hall) (id : TableId) : ∃ tables : Dict TableId Table,
    (hall.ask id Message.close).2 = { hall with tables } ∧
    (∀ query, query ≠ id → tables.get? query = hall.tables.get? query) ∧
    ∀ t, tables.get? id = some t → ∃ t', hall.tables.get? id = some t' := by
  cases found : (hall.tables.get? id).filter (fun t => !t.isClosed) with
  | none =>
    refine ⟨hall.tables, ?_, fun _ _ => rfl, fun t there => ⟨t, there⟩⟩
    simp [ask, found]
  | some t =>
    obtain ⟨there, open'⟩ := Option.filter_eq_some_iff.mp found
    refine ⟨_, congrArg Prod.snd (ask_running there (by simpa using open') Message.close), ?_, ?_⟩
    · intro query apart
      exact (Dict.get?_insert _ _ _ _).trans (if_neg apart)
    · exact fun _ _ => ⟨t, there⟩

/-- The table of a match is closed when nobody sits in it, and all is as it should be. -/
theorem Attended.retireIfIdle (attended : hall.Attended given)
    (needed : ∀ query, query ≠ matchId → hall.IsNeeded query) :
    (hall.retireIfIdle matchId).Tidy given ∧
      (hall.retireIfIdle matchId).floor.lobby = hall.floor.lobby := by
  unfold Hall.retireIfIdle
  split
  next open' =>
    refine ⟨⟨attended, ?_⟩, rfl⟩
    intro query
    by_cases here : query = matchId
    · exact fun _ => here ▸ open'
    · exact needed query here
  next empty =>
    cases registered : hall.registry.get? matchId with
    | none =>
      refine ⟨⟨attended, ?_⟩, rfl⟩
      intro query
      by_cases here : query = matchId
      · subst here
        intro running
        simp [running?, registered] at running
      · exact needed query here
    | some id =>
      obtain ⟨tables, done, others, there⟩ :=
        ask_close { hall with registry := hall.registry.erase matchId } id
      dsimp only at done others there ⊢
      rw [done]
      have stays : ∀ query id', (hall.registry.erase matchId).get? query = some id' →
          hall.registry.get? query = some id' ∧ query ≠ matchId ∧ id' ≠ id := by
        intro query id' registered'
        rw [Dict.get?_erase] at registered'
        split at registered'
        next => cases registered'
        next away =>
          refine ⟨registered', away, ?_⟩
          rintro rfl
          obtain ⟨t, found, name, _⟩ := attended.table matchId id' registered
          obtain ⟨t', found', name', _⟩ := attended.table query id' registered'
          obtain rfl : t = t' := Option.some.inj (found.symm.trans found')
          exact away (name'.symm.trans name)
      refine ⟨⟨⟨attended.mirrored, ?_, ?_, ?_⟩, ?_⟩, rfl⟩
      · intro query id' registered'
        obtain ⟨before, _, apart⟩ := stays query id' registered'
        rw [others id' apart]
        exact attended.table query id' before
      · intro query open'
        have away : query ≠ matchId := fun same => empty (same ▸ open')
        simpa [away] using attended.rooms query open'
      · intro id' t found
        by_cases same : id' = id
        · obtain ⟨t', found'⟩ := there t (same ▸ found)
          exact same ▸ attended.fresh id t' found'
        · exact attended.fresh id' t ((others id' same).symm.trans found)
      · intro query running
        obtain ⟨handle, running'⟩ := Option.isSome_iff_exists.mp running
        obtain ⟨rfl, registered', t, found, open'⟩ := running?_eq_some.mp running'
        obtain ⟨before, away, apart⟩ := stays handle.matchId handle.table registered'
        have running'' : hall.running? handle.matchId = some handle :=
          running?_eq_some.mpr ⟨rfl, before, t, (others _ apart).symm.trans found, open'⟩
        exact needed handle.matchId away (Option.isSome_of_eq_some running'')

end Handles

section Requests

variable {hall : Hall} {given : Given} {handle : Handle} {α : Type}
  {message : Message (Except Refusal α)} {step : TableStep α} {given' : α → Given}
  (prepared : hall.Prepared given handle)
  (handled : ∀ place, AtTable.handle message place = step.apply place)
  (replies : ∀ t, hall.tables.get? handle.table = some t → t.isClosed = false →
    t.matchId = handle.matchId → AtTable.Attended ⟨t, hall.floor⟩ given →
    AtTable.Replies ⟨t, hall.floor⟩ given step given')

include prepared handled replies

/-- A request that is answered leaves the hall tidy. After a refusal only its own table may run for
nobody, if it did before. -/
theorem Prepared.request : (Hall.request handle message).Yields hall
    (fun answer hall' => hall'.Tidy (given' answer))
    (fun _ hall' => hall'.Attended given ∧
      (∀ matchId, matchId ≠ handle.matchId → hall'.IsNeeded matchId) ∧
      (hall.IsNeeded handle.matchId → hall'.IsNeeded handle.matchId)) := by
  obtain ⟨_, registered, _⟩ := running?_eq_some.mp prepared.running
  obtain ⟨t, found, open', name, _, seats⟩ := prepared.table
  have replies := replies t found open' name seats
  rw [← name] at registered
  rcases replied : step.apply ⟨t, hall.floor⟩ with ⟨refusal | answer, place'⟩
  · obtain ⟨serves, even⟩ := replies.refusal refusal place' replied
    have done : (Hall.request handle message).apply hall =
        (.error refusal, hall.put handle.table place') := by
      simp [Hall.request, ask_running found open', handled, replied]
    refine (Action.yields_iff_of_error done).mpr ⟨?_, ?_, ?_⟩
    · exact prepared.attended.put registered found serves
    · intro matchId away
      exact prepared.attended.needed_put found serves (name ▸ away) (prepared.needed matchId away)
    · intro needed
      have room := needed (Option.isSome_of_eq_some prepared.running)
      rw [← name] at room ⊢
      refine needed_put_of_isEven registered serves (even ?_)
      simp [AtTable.IsEven, open', room]
  · obtain ⟨serves, even⟩ := replies.answer answer place' replied
    have done : (Hall.request handle message).apply hall =
        (.ok answer, hall.put handle.table place') := by
      simp [Hall.request, ask_running found open', handled, replied]
    refine (Action.yields_iff_of_ok done).mpr ⟨?_, ?_⟩
    · exact prepared.attended.put registered found serves
    · intro matchId
      by_cases here : matchId = t.matchId
      · exact here ▸ needed_put_of_isEven registered serves even
      · exact prepared.attended.needed_put found serves here (prepared.needed matchId (name ▸ here))

theorem Prepared.requestOrRetire : (Hall.requestOrRetire handle message).Yields hall
    (fun answer hall' => hall'.Tidy (given' answer)) (fun _ hall' => hall'.Tidy given) := by
  have requested := prepared.request handled replies
  rcases applied : (Hall.request handle message).apply hall with ⟨refusal | answer, hall'⟩
  · obtain ⟨attended, needed, _⟩ := requested.refusal refusal hall' applied
    have done : (Hall.requestOrRetire handle message).apply hall =
        (.error refusal, hall'.retireIfIdle handle.matchId) := by
      simp [Hall.requestOrRetire, applied]
    exact (Action.yields_iff_of_error done).mpr (attended.retireIfIdle needed).1
  · have done : (Hall.requestOrRetire handle message).apply hall = (.ok answer, hall') := by
      simp [Hall.requestOrRetire, applied]
    exact (Action.yields_iff_of_ok done).mpr (requested.answer answer hall' applied)

end Requests

section Calls

variable {hall : Hall} {given : Given} (tidy : hall.Tidy given)

include tidy

theorem Tidy.createMatch (points : Option Int64) : (Hall.createMatch points).Yields hall
    (fun _ hall' => hall'.Tidy given) (fun _ hall' => hall'.Tidy given) :=
  (tidy.yields_ofService _).mono (fun _ _ => And.left) (fun _ _ => id)

theorem Tidy.join (text : String) (connection : ConnectionId) (token : String) {queue : QueueId}
    (known : queue < hall.floor.opened) : (Hall.join text connection token queue).Yields hall
      (fun _ hall' => hall'.Tidy (given.put connection queue)) (fun _ hall' => hall'.Tidy given) := by
  unfold Hall.join
  rw [Action.yields_bind]
  refine (tidy.handle text).mono ?_ (fun _ _ => id)
  rintro handle hall' ⟨prepared, opened⟩
  refine prepared.requestOrRetire (fun _ => rfl) ?_
  intro t _ open' _ seats
  rw [← opened] at known
  exact AtTable.join_replies seats prepared.attended.mirrored open' connection token known

theorem Tidy.startHand (connection : ConnectionId) (text : String) (vira : Option Rank) :
    (Hall.startHand connection text vira).Yields hall
      (fun _ hall' => hall'.Tidy given) (fun _ hall' => hall'.Tidy given) := by
  unfold Hall.startHand
  rw [Action.yields_bind]
  refine (tidy.handle text).mono ?_ (fun _ _ => id)
  rintro handle hall' ⟨prepared, _⟩
  refine prepared.requestOrRetire (fun _ => rfl) ?_
  intro t _ open' _ seats
  exact AtTable.startHand_replies seats prepared.attended.mirrored open' connection vira

theorem Tidy.playCard (connection : ConnectionId) (text : String) (card : Card) :
    (Hall.playCard connection text card).Yields hall
      (fun _ hall' => hall'.Tidy given) (fun _ hall' => hall'.Tidy given) := by
  unfold Hall.playCard
  rw [Action.yields_bind]
  refine (tidy.handle text).mono ?_ (fun _ _ => id)
  rintro handle hall' ⟨prepared, _⟩
  refine prepared.requestOrRetire (fun _ => rfl) ?_
  intro t _ open' _ seats
  exact AtTable.playCard_replies seats prepared.attended.mirrored open' connection card

/-- A match that has a table beforehand keeps it exactly as long as somebody sits in it. -/
theorem Tidy.request {handle : Handle} (running : hall.running? handle.matchId = some handle)
    {α : Type} {message : Message (Except Refusal α)} {step : TableStep α}
    (handled : ∀ place, AtTable.handle message place = step.apply place)
    (replies : ∀ place : AtTable, place.Attended given → place.floor.lobby.Mirrored → place.IsEven →
      place.Replies given step (fun _ => given)) :
    (Hall.request handle message).Yields hall
      (fun _ hall' => hall'.Tidy given) (fun _ hall' => hall'.Tidy given) := by
  have room := tidy.needed handle.matchId (Option.isSome_of_eq_some running)
  have replies' : ∀ t, hall.tables.get? handle.table = some t → t.isClosed = false →
      t.matchId = handle.matchId → AtTable.Attended ⟨t, hall.floor⟩ given →
      AtTable.Replies ⟨t, hall.floor⟩ given step (fun _ => given) := by
    intro t _ open' name seats
    refine replies _ seats tidy.attended.mirrored ?_
    simp [AtTable.IsEven, open', name, room]
  refine ((tidy.prepared running).request handled replies').mono (fun _ _ => id) ?_
  rintro _ hall' ⟨attended, needed, here⟩
  refine ⟨attended, ?_⟩
  intro matchId
  by_cases same : matchId = handle.matchId
  · exact same ▸ here (tidy.needed handle.matchId)
  · exact needed matchId same

/-- A connection with a seat is given the running table of its match, and without one is refused. -/
theorem Tidy.joinedHandle (connection : ConnectionId) : (Hall.joinedHandle connection).Yields hall
    (fun handle hall' => hall' = hall ∧ hall.running? handle.matchId = some handle ∧
      ∃ session, hall.floor.lobby.session connection = some session ∧
        session.matchId = handle.matchId)
    (fun _ hall' => hall' = hall ∧ hall.floor.lobby.session connection = none) := by
  unfold Hall.joinedHandle
  simp only [Action.yields_bind, Action.yields_look]
  cases found : hall.floor.lobby.session connection with
  | none => exact Action.yields_throw.mpr ⟨rfl, rfl⟩
  | some session =>
    have room := tidy.attended.mirrored.hasRoom_iff_session.mpr ⟨connection, session, found, rfl⟩
    obtain ⟨handle, running⟩ := tidy.attended.running room
    obtain ⟨name, registered, _⟩ := running?_eq_some.mp running
    obtain ⟨_, _, _, valid, _⟩ := tidy.attended.table session.matchId handle.table registered
    unfold Hall.handle
    rw [Action.yields_bind]
    refine (Action.yields_iff_of_ok (congrArg (·, hall) valid)).mpr ?_
    simp only [Action.yields_bind, Action.yields_look, running]
    refine Action.yields_pure.mpr ⟨rfl, ?_, session, rfl, name.symm⟩
    rwa [name]

theorem Tidy.setReady (connection : ConnectionId) (ready : Bool) :
    (Hall.setReady connection ready).Yields hall
      (fun _ hall' => hall'.Tidy given) (fun _ hall' => hall'.Tidy given) := by
  unfold Hall.setReady
  rw [Action.yields_bind]
  refine (tidy.joinedHandle connection).mono ?_ ?_
  · rintro handle _ ⟨rfl, running, _⟩
    refine tidy.request running (fun _ => rfl) ?_
    exact fun _ seats mirrored even => AtTable.setReady_replies seats mirrored even connection ready
  · rintro _ _ ⟨rfl, _⟩
    exact tidy

theorem Tidy.viewState (text : String) : (Hall.viewState text).Yields hall
    (fun _ hall' => hall'.Tidy given) (fun _ hall' => hall'.Tidy given) := by
  unfold Hall.viewState
  rw [Action.yields_bind]
  cases read : Request.matchId text with
  | error refusal => exact (Action.yields_iff_of_error rfl).mpr tidy
  | ok matchId =>
    refine (Action.yields_iff_of_ok rfl).mpr ?_
    simp only [Action.yields_bind, Action.yields_look]
    cases running : hall.running? matchId with
    | some handle =>
      obtain ⟨rfl, _⟩ := running?_eq_some.mp running
      refine tidy.request running (fun _ => rfl) ?_
      exact fun _ seats mirrored even => AtTable.getState_replies seats mirrored even
    | none => exact (tidy.yields_ofService _).mono (fun _ _ => And.left) (fun _ _ => id)

/-- Who goes sits nowhere any more. -/
theorem Tidy.leave (connection : ConnectionId) : (hall.leave connection).2.Tidy given ∧
    (hall.leave connection).2.floor.lobby.session connection = none := by
  have joined := tidy.joinedHandle connection
  unfold Hall.leave
  rcases applied : (Hall.joinedHandle connection).apply hall with ⟨refusal | handle, hall'⟩
  · obtain ⟨rfl, unseated⟩ := joined.refusal refusal hall' applied
    exact ⟨tidy, unseated⟩
  · obtain ⟨rfl, running, session, found, here⟩ := joined.answer handle hall' applied
    obtain ⟨_, registered, _⟩ := running?_eq_some.mp running
    obtain ⟨t, there, open', name, _, seats⟩ := (tidy.prepared running).table
    rw [← name] at here registered
    have here' : ∀ session', hall'.floor.lobby.session connection = some session' →
        session'.matchId = t.matchId :=
      fun session' found' => Option.some.inj (found.symm.trans found') ▸ here
    obtain ⟨serves, gone⟩ := AtTable.leave_serves seats tidy.attended.mirrored connection here'
    have left : (AtTable.leave connection ⟨t, hall'.floor⟩).1 =
        (hall'.floor.lobby.session connection).map Session.matchId :=
      (AtTable.leave_loses tidy.attended.mirrored connection).1
    have asked := ask_running there open' (Message.leave connection)
    simp only [AtTable.handle, left, found, Option.map_some, here] at asked
    simp only [asked]
    have others : ∀ query, query ≠ t.matchId →
        (hall'.put handle.table (AtTable.leave connection ⟨t, hall'.floor⟩).2).IsNeeded query :=
      fun query away => tidy.attended.needed_put there serves away (tidy.needed query)
    obtain ⟨tidy', same⟩ := (tidy.attended.put registered there serves).retireIfIdle others
    refine ⟨tidy', ?_⟩
    rw [same]
    exact gone

theorem Tidy.activeMatches : hall.activeMatches.2.Tidy given ∧
    hall.activeMatches.1 = hall.floor.lobby.rooms.size := by
  have kept : ∀ matchId id, hall.activeMatches.2.registry.get? matchId = some id ↔
      hall.registry.get? matchId = some id ∧ hall.isRunning id :=
    fun matchId id => Dict.get?_filter_eq_some
  have running : ∀ matchId id, hall.registry.get? matchId = some id → hall.isRunning id →
      hall.running? matchId = some ⟨id, matchId⟩ := by
    intro matchId id registered runs
    simp [running?, registered, Option.filter, runs]
  have stays : ∀ matchId, hall.floor.lobby.hasRoom matchId →
      (hall.activeMatches.2.registry.get? matchId).isSome := by
    intro matchId room
    obtain ⟨handle, runs⟩ := tidy.attended.running room
    obtain ⟨rfl, registered, t, found, open'⟩ := running?_eq_some.mp runs
    refine Option.isSome_of_eq_some ((kept _ handle.table).mpr ⟨registered, ?_⟩)
    simp [isRunning, found, open']
  constructor
  · refine ⟨⟨tidy.attended.mirrored, ?_, stays, tidy.attended.fresh⟩, ?_⟩
    · intro matchId id registered
      exact tidy.attended.table matchId id ((kept matchId id).mp registered).1
    · intro matchId runs
      obtain ⟨handle, runs⟩ := Option.isSome_iff_exists.mp runs
      obtain ⟨rfl, registered, there⟩ := running?_eq_some.mp runs
      have before := running?_eq_some.mpr ⟨rfl, ((kept _ _).mp registered).1, there⟩
      exact tidy.needed handle.matchId (Option.isSome_of_eq_some before)
  · refine Dict.size_eq_of_contains ?_
    intro matchId
    refine Bool.eq_iff_iff.mpr ⟨?_, stays matchId⟩
    intro has
    obtain ⟨id, registered⟩ := Option.isSome_iff_exists.mp has
    obtain ⟨registered', runs⟩ := (kept matchId id).mp registered
    exact tidy.needed matchId (Option.isSome_of_eq_some (running matchId id registered' runs))

end Calls

end Hall

end TrucoPaulista
