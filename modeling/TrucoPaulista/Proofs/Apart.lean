import TrucoPaulista.Proofs.Announce
import TrucoPaulista.Proofs.LifeCycle

namespace TrucoPaulista

namespace Lobby

/-- Whether the rooms of all matches but one are the same, and so are the seats that connections have
there. -/
structure Apart (matchId : MatchId) (lobby lobby' : Lobby) : Prop where
  rooms : ∀ other, other ≠ matchId → lobby'.rooms.get? other = lobby.rooms.get? other
  bindings : ∀ connection other seat, other ≠ matchId →
    (lobby'.bindings.get? connection = some (other, seat) ↔
      lobby.bindings.get? connection = some (other, seat))

/-- Whether a connection has no seat in another match. -/
def IsConfined (lobby : Lobby) (connection : ConnectionId) (matchId : MatchId) : Prop :=
  ∀ name seat, lobby.bindings.get? connection = some (name, seat) → name = matchId

/-- Whether no seat in another match was given away, and everything there is the same if none was
lost. -/
structure Spares (matchId : MatchId) (lobby lobby' : Lobby) : Prop where
  mirrored : lobby'.Mirrored
  fewer : ∀ connection session, lobby'.session connection = some session →
    session.matchId ≠ matchId → lobby.session connection = some session
  apart : (∀ connection session, lobby.session connection = some session →
    session.matchId ≠ matchId → lobby'.session connection = some session) → Apart matchId lobby lobby'

section Steps

variable {lobby lobby' mid : Lobby} {matchId : MatchId}

theorem Apart.refl (lobby : Lobby) : Apart matchId lobby lobby :=
  ⟨fun _ _ => rfl, fun _ _ _ _ => Iff.rfl⟩

theorem Apart.symm (apart : Apart matchId lobby lobby') : Apart matchId lobby' lobby where
  rooms other away := (apart.rooms other away).symm
  bindings connection other seat away := (apart.bindings connection other seat away).symm

theorem Apart.trans (first : Apart matchId lobby mid) (second : Apart matchId mid lobby') :
    Apart matchId lobby lobby' where
  rooms other away := (second.rooms other away).trans (first.rooms other away)
  bindings connection other seat away :=
    (second.bindings connection other seat away).trans (first.bindings connection other seat away)

theorem Apart.session {connection : ConnectionId} {session : Session}
    (apart : Apart matchId lobby lobby') (found : lobby.session connection = some session)
    (away : session.matchId ≠ matchId) : lobby'.session connection = some session := by
  obtain ⟨bound, known⟩ := bound_of_session found
  have bound' := (apart.bindings connection session.matchId session.seat away).mpr bound
  have same : lobby'.tokenAt? session.matchId session.seat =
      lobby.tokenAt? session.matchId session.seat := by
    unfold Lobby.tokenAt? Lobby.room
    rw [apart.rooms session.matchId away]
  rw [← found, lobby'.session_of_bound bound', lobby.session_of_bound bound, same]

theorem Apart.spares (apart : Apart matchId lobby lobby') (mirrored : lobby'.Mirrored) :
    Spares matchId lobby lobby' where
  mirrored := mirrored
  fewer _ _ found away := apart.symm.session found away
  apart _ := apart

theorem Spares.trans (first : Spares matchId lobby mid) (second : Spares matchId mid lobby') :
    Spares matchId lobby lobby' where
  mirrored := second.mirrored
  fewer connection session found away :=
    first.fewer connection session (second.fewer connection session found away) away
  apart kept := by
    refine (first.apart ?_).trans (second.apart ?_)
    · intro connection session found away
      exact second.fewer connection session (kept connection session found away) away
    · intro connection session found away
      exact kept connection session (first.fewer connection session found away) away

theorem apart_change (step : Room → Room) : Apart matchId lobby (lobby.change matchId step).2 := by
  unfold change
  split
  next => exact .refl lobby
  next =>
    refine ⟨?_, fun _ _ _ _ => Iff.rfl⟩
    intro other away
    simp [away]

theorem isConfined_of_session {connection : ConnectionId} {session : Session}
    (seated : lobby.session connection = some session) (here : session.matchId = matchId) :
    lobby.IsConfined connection matchId := by
  intro name seat bound
  have same := (bound_of_session seated).1.symm.trans bound
  rw [← here, (Prod.mk.inj (Option.some.inj same)).1]

theorem apart_setReady {connection : ConnectionId} (confined : lobby.IsConfined connection matchId)
    (ready : Bool) : Apart matchId lobby (lobby.setReady connection ready).2 := by
  unfold setReady
  split
  next => exact .refl lobby
  next name seat bound =>
    obtain rfl := confined name seat bound
    split
    next => exact .refl lobby
    next =>
      split
      next => exact .refl lobby
      next =>
        refine ⟨?_, fun _ _ _ _ => Iff.rfl⟩
        intro other away
        simp [away]

theorem apart_leave {connection : ConnectionId} (confined : lobby.IsConfined connection matchId) :
    Apart matchId lobby (lobby.leave connection).2 := by
  cases bound : lobby.bindings.get? connection with
  | none =>
    rw [lobby.leave_of_unbound connection bound]
    exact .refl lobby
  | some binding =>
    obtain ⟨name, seat⟩ := binding
    obtain rfl := confined name seat bound
    constructor
    · intro other away
      unfold Lobby.leave
      rw [bound]
      dsimp only
      split
      next => rfl
      next =>
        dsimp only
        split
        next => simp [away]
        next => simp [away]
    · intro query other place away
      rw [bindings_leave]
      by_cases leaver : query = connection
      · simp [leaver, bound, away.symm]
      · rw [if_neg leaver]

theorem Mirrored.apart_join (mirrored : lobby.Mirrored) {connection : ConnectionId} {token : String}
    {session : Session} (joined : lobby.join matchId connection token = (.ok session, lobby')) :
    Apart matchId lobby lobby' := by
  rcases lobby.join_cases matchId connection token with
    ⟨_, refused⟩ | ⟨_, _, _, again⟩ | ⟨seat, unbound, _, _, taken⟩
  · cases joined.symm.trans refused
  · obtain ⟨_, rfl⟩ := Prod.mk.inj (joined.symm.trans again)
    exact .refl _
  · obtain ⟨_, rfl⟩ := Prod.mk.inj (joined.symm.trans taken)
    constructor
    · intro other away
      unfold Lobby.take
      rw [Dict.get?_insert, if_neg away]
    · intro query other place away
      rw [bindings_take]
      by_cases newcomer : query = connection
      · simp [newcomer, unbound, away.symm]
      · rw [if_neg newcomer]
        split
        next displaced =>
          have old := (mirrored.bound query matchId seat).mpr displaced
          simp [old, away.symm]
        next => exact Iff.rfl

theorem Mirrored.spares_leave (mirrored : lobby.Mirrored) (connection : ConnectionId) :
    Spares matchId lobby (lobby.leave connection).2 := by
  cases bound : lobby.bindings.get? connection with
  | none =>
    rw [lobby.leave_of_unbound connection bound]
    exact (Apart.refl lobby).spares mirrored
  | some binding =>
    obtain ⟨name, seat⟩ := binding
    obtain ⟨session, found, rfl, _⟩ := mirrored.exists_session bound
    have gone := lobby.session_of_left connection
    refine ⟨mirrored.leave connection, ?_, ?_⟩
    · intro other session' found' _
      have apart : other ≠ connection := by
        rintro rfl
        simp [gone] at found'
      rwa [mirrored.session_leave apart] at found'
    · intro kept
      have here : session.matchId = matchId := by
        by_contra away
        have lost := kept connection session found away
        simp [gone] at lost
      exact apart_leave (isConfined_of_session found here)

end Steps

end Lobby

def Message.isLeaveOf {ρ : Type} (connection : ConnectionId) : Message ρ → Prop
  | .leave other => other = connection
  | _ => False

namespace AtTable

/-- Whether all matches but the one of the table are as they were: their rooms, the seats that
connections have there, and what is stored of them. -/
structure LeavesOthers (place place' : AtTable) : Prop where
  lobby : Lobby.Apart place.table.matchId place.floor.lobby place'.floor.lobby
  stored : place.floor.archive.SameBut place.table.matchId place'.floor.archive

/-- Whether somebody with a seat in another match neither goes nor is held to have hung up. -/
def Bears {ρ : Type} (place : AtTable) (message : Message ρ) (connection : ConnectionId) : Prop :=
  ¬message.isLeaveOf connection ∧ ∀ queue, place.table.subscribers.get? connection = some queue →
    place.floor.isOpen queue →
    (handle message place).2.table.subscribers.get? connection = some queue

section Others

variable {place mid place' : AtTable}

/-- Before anybody is told of it, a message by which nobody leaves changes no other match. -/
theorem Comes.apart {ρ : Type} {message : Message ρ} {upshot : Upshot ρ}
    (comes : place.Comes message upshot) (mirrored : place.floor.lobby.Mirrored)
    (stays : ∀ connection, ¬message.isLeaveOf connection) :
    Lobby.Apart place.table.matchId place.floor.lobby upshot.place.floor.lobby := by
  cases comes with
  | join quiet joined => exact mirrored.apart_join joined
  | @setReady connection ready mid quiet seated readied =>
    obtain ⟨session, found, here⟩ := seated
    exact readied ▸ Lobby.apart_setReady (Lobby.isConfined_of_session found here) ready
  | startHand quiet opens =>
    obtain ⟨_, ⟨_, _, begun⟩ | ⟨_, awaiting, resumed⟩⟩ := opens
    · exact begun ▸ Lobby.apart_change _
    · exact resumed ▸ Lobby.apart_change _
  | playCard quiet seated turn passed =>
    rw [passed]
    unfold passTurn
    dsimp only
    split
    next => exact Lobby.apart_change _
    next => exact Lobby.apart_change _
  | getState idle => exact idle.lobby ▸ .refl _
  | @leave connection => exact absurd rfl (stays connection)
  | close => exact .refl _
  | refused idle => exact idle.lobby ▸ .refl _

theorem Comes.spares {ρ : Type} {message : Message ρ} {upshot : Upshot ρ}
    (comes : place.Comes message upshot) (mirrored : place.floor.lobby.Mirrored) :
    Lobby.Spares place.table.matchId place.floor.lobby upshot.place.floor.lobby := by
  by_cases stays : ∀ connection, ¬message.isLeaveOf connection
  · exact (comes.apart mirrored stays).spares (comes.mirrored mirrored)
  · have still : Lobby.Spares place.table.matchId place.floor.lobby place.floor.lobby :=
      (Lobby.Apart.refl _).spares mirrored
    cases comes with
    | @leave connection => exact mirrored.spares_leave connection
    | refused idle => exact idle.lobby ▸ still
    | _ => exact absurd (fun _ => id) stays

theorem spares_handle (mirrored : place.floor.lobby.Mirrored) {ρ : Type} (message : Message ρ) :
    Lobby.Spares place.table.matchId place.floor.lobby (handle message place).2.floor.lobby := by
  rw [handle_eq]
  refine lobby_told ?_ ((place.comes_upshot message).spares mirrored)
  exact fun lobby connection spares => spares.trans (spares.mirrored.spares_leave connection)

theorem sameBut_handle (place : AtTable) {ρ : Type} (message : Message ρ) :
    place.floor.archive.SameBut place.table.matchId (handle message place).2.floor.archive := by
  rw [handle_eq]
  dsimp only
  rw [(told_keeps _).2]
  exact (place.comes_upshot message).frame.2

/-- While things are told, a player loses the seat exactly if the queue was open and is told of the
match no longer. -/
theorem Stirs.session_iff (stirs : mid.Stirs place') {connection : ConnectionId} {session : Session}
    (found : mid.floor.lobby.session connection = some session) :
    place'.floor.lobby.session connection = some session ↔
      ∀ queue, mid.table.subscribers.get? connection = some queue → mid.floor.isOpen queue →
        place'.table.subscribers.get? connection = some queue := by
  constructor
  · intro stays queue told opens
    exact stirs.told connection queue told opens (Option.isSome_of_eq_some stays)
  · intro stays
    rcases stirs.session connection with same | ⟨_, queue, told, full⟩
    · rw [same, found]
    · -- a full queue is an open one, so whoever had it is still told things and has the seat
      have opens := Floor.isOpen_of_isFull full
      rw [stirs.isOpen] at opens
      rw [(stirs.kept connection queue (stays queue told opens)).2, found]

theorem Quiet.listener {connection : ConnectionId} (quiet : place.Quiet mid) :
    mid.table.subscribers.get? connection = place.table.subscribers.get? connection ∧
      ∀ queue, mid.floor.isOpen queue = place.floor.isOpen queue :=
  ⟨by rw [quiet.table], fun queue => by rw [Floor.isOpen, Floor.isOpen, quiet.queues]⟩

/-- Unless it is the one that leaves, a player of another match keeps the seat and the queue before
anybody is told of a message. -/
theorem Comes.listener {ρ : Type} {message : Message ρ} {upshot : Upshot ρ}
    (comes : place.Comes message upshot) (mirrored : place.floor.lobby.Mirrored)
    {connection : ConnectionId} {session : Session}
    (found : place.floor.lobby.session connection = some session)
    (away : session.matchId ≠ place.table.matchId) (stays : ¬message.isLeaveOf connection) :
    upshot.place.floor.lobby.session connection = some session ∧
      upshot.place.table.subscribers.get? connection = place.table.subscribers.get? connection ∧
      ∀ queue, upshot.place.floor.isOpen queue = place.floor.isOpen queue := by
  by_cases nobody : ∀ other, ¬message.isLeaveOf other
  · have still := (comes.apart mirrored nobody).session found away
    refine ⟨still, ?_⟩
    cases comes with
    | @join newcomer token queue session' before lobby quiet joined =>
      have apart : connection ≠ newcomer := by
        rintro rfl
        rcases place.floor.lobby.join_cases place.table.matchId connection token with
          ⟨_, refused⟩ | ⟨_, there, here, _⟩ | ⟨_, unbound, _, _, _⟩
        · cases joined.symm.trans refused
        · obtain rfl := Option.some.inj (found.symm.trans there)
          exact away here
        · simp [Lobby.session_of_unbound _ unbound] at found
      obtain ⟨told, opens⟩ : before.table.subscribers.get? connection =
          place.table.subscribers.get? connection ∧ _ := quiet.listener
      refine ⟨?_, opens⟩
      rw [← told]
      ext waiting
      have still' : lobby.session connection = some session := still
      simp [subscribe, Dict.get?_filter_eq_some, apart, still']
    | setReady quiet => exact quiet.listener
    | startHand quiet => exact quiet.listener
    | playCard quiet => exact quiet.listener
    | getState idle => exact idle.quiet.listener
    | @leave other => exact absurd rfl (nobody other)
    | close => exact ⟨rfl, fun _ => rfl⟩
    | refused idle => exact idle.quiet.listener
  · cases comes with
    | @leave other =>
      have apart : connection ≠ other := fun same => stays same.symm
      refine ⟨(mirrored.session_leave apart).trans found, ?_, fun _ => rfl⟩
      simp [getUp, apart]
    | refused idle => exact ⟨idle.lobby ▸ found, idle.quiet.listener⟩
    | _ => exact absurd (fun _ => id) nobody

/-- A player of another match loses the seat by a message only by going, or by being held to have hung
up. -/
theorem session_handle_iff (mirrored : place.floor.lobby.Mirrored) {ρ : Type} (message : Message ρ)
    {connection : ConnectionId} {session : Session}
    (found : place.floor.lobby.session connection = some session)
    (away : session.matchId ≠ place.table.matchId) :
    (handle message place).2.floor.lobby.session connection = some session ↔
      place.Bears message connection := by
  have comes := place.comes_upshot message
  unfold Bears
  rw [handle_eq]
  generalize message.upshot place = upshot at comes ⊢
  have stirs := stirs_told (comes.mirrored mirrored)
  by_cases leaves : message.isLeaveOf connection
  · refine iff_of_false ?_ (fun bears => bears.1 leaves)
    have gone : upshot.place.floor.lobby.session connection = none := by
      cases comes with
      | leave =>
        obtain rfl := leaves
        exact place.floor.lobby.session_of_left _
      | refused idle refused => cases message <;> first | cases refused | cases leaves
      | _ => cases leaves
    rcases stirs.session connection with same | ⟨gone', _⟩
    · simp [same, gone]
    · simp [gone']
  · obtain ⟨still, told, opens⟩ := comes.listener mirrored found away leaves
    rw [stirs.session_iff still]
    simp only [told, opens, leaves, not_false_eq_true, true_and]

/-- A message leaves all other matches alone exactly when whoever has a seat in one of them neither
goes by it nor is dropped from those at the table while still listening. -/
theorem leavesOthers_iff (mirrored : place.floor.lobby.Mirrored) {ρ : Type} (message : Message ρ) :
    place.LeavesOthers (handle message place).2 ↔
      ∀ connection session, place.floor.lobby.session connection = some session →
        session.matchId ≠ place.table.matchId → place.Bears message connection := by
  constructor
  · intro others connection session found away
    exact (session_handle_iff mirrored message found away).mp (others.lobby.session found away)
  · intro bears
    refine ⟨(spares_handle mirrored message).apart ?_, place.sameBut_handle message⟩
    intro connection session found away
    exact (session_handle_iff mirrored message found away).mpr (bears connection session found away)

/-- At a table where only players of its match are told anything, it takes a player of another match
who goes. -/
theorem Attended.leavesOthers_iff {given : Given} (attended : place.Attended given)
    (mirrored : place.floor.lobby.Mirrored) {ρ : Type} (message : Message ρ) :
    place.LeavesOthers (handle message place).2 ↔
      ∀ connection session, place.floor.lobby.session connection = some session →
        session.matchId ≠ place.table.matchId → ¬message.isLeaveOf connection := by
  rw [AtTable.leavesOthers_iff mirrored message]
  refine forall₄_congr (fun connection session found away => and_iff_left ?_)
  intro queue told
  obtain ⟨_, session', found', here⟩ := attended.seated connection queue told
  obtain rfl := Option.some.inj (found.symm.trans found')
  exact absurd here away

end Others

end AtTable

namespace Hall

/-- What a hall becomes while tables get messages, any message at any table. Between two of them
everything but the rooms may change, and tables may be opened. -/
inductive Talk : Hall → Prop where
  | opened (archive : Archive) (dealer : Dealer) (rollCall : RollCall) :
      Talk (.empty (.empty archive dealer rollCall))
  | asked {hall : Hall} {ρ : Type} (before : Talk hall) (id : TableId) (message : Message ρ) :
      Talk (hall.ask id message).2
  | aside {hall hall' : Hall} (before : Talk hall) (lobby : hall'.floor.lobby = hall.floor.lobby)
      (tables : ∀ id t, hall'.tables.get? id = some t → hall.tables.get? id = some t ∨
        ∃ matchId, Request.matchId matchId = .ok matchId ∧ t = .empty matchId) : Talk hall'

section Talks

variable {hall : Hall}

/-- Whether all tables have names under which matches are stored, and the bindings are the seats. -/
structure Sound (hall : Hall) : Prop where
  mirrored : hall.floor.lobby.Mirrored
  names : ∀ id t, hall.tables.get? id = some t → Text.trim t.matchId = t.matchId

theorem Sound.ask (sound : hall.Sound) (id : TableId) {ρ : Type} (message : Message ρ) :
    (hall.ask id message).2.Sound := by
  cases running : (hall.tables.get? id).filter (fun t => !t.isClosed) with
  | none =>
    have idle : hall.ask id message = (none, hall) := by simp [Hall.ask, running]
    rw [idle]
    exact sound
  | some t =>
    obtain ⟨found, open'⟩ := Option.filter_eq_some_iff.mp running
    rw [ask_running found (by simpa using open')]
    refine ⟨AtTable.mirrored_handle sound.mirrored message, ?_⟩
    intro query t' there
    rw [get?_tables_put] at there
    split at there
    next =>
      obtain rfl := Option.some.inj there
      rw [matchId_struck, AtTable.matchId_handle]
      exact sound.names id t found
    next => exact sound.names query t' there

theorem Talk.sound (talk : Talk hall) : hall.Sound := by
  induction talk with
  | opened archive dealer rollCall => exact ⟨Lobby.mirrored_empty, fun id t found => by cases found⟩
  | asked _ id message sound => exact sound.ask id message
  | aside _ lobby tables sound =>
    refine ⟨lobby ▸ sound.mirrored, ?_⟩
    intro id t found
    rcases tables id t found with before | ⟨matchId, valid, rfl⟩
    · exact sound.names id t before
    · exact (Request.matchId_eq_ok.mp valid).1

/-- A message to a table leaves the rooms of all other matches, the seats of connections there and
what is stored of them alone exactly when whoever has a seat in another match neither goes by the
message nor is dropped from those at the table while still listening. -/
theorem Talk.asked_leaves_others_iff (talk : Talk hall) {id : TableId} {t : Table}
    (found : hall.tables.get? id = some t) (open' : t.isClosed = false) {ρ : Type}
    (message : Message ρ) :
    (Lobby.Apart t.matchId hall.floor.lobby (hall.ask id message).2.floor.lobby ∧
      ∀ other, other ≠ t.matchId → (hall.ask id message).2.floor.archive.stored.get? other =
        hall.floor.archive.stored.get? other) ↔
    ∀ connection session, hall.floor.lobby.session connection = some session →
      session.matchId ≠ t.matchId → AtTable.Bears ⟨t, hall.floor⟩ message connection := by
  have sound := talk.sound
  obtain ⟨place, stands⟩ : ∃ place : AtTable, place = ⟨t, hall.floor⟩ := ⟨_, rfl⟩
  have name : Text.trim t.matchId = t.matchId := sound.names id t found
  have mirrored : place.floor.lobby.Mirrored := stands ▸ sound.mirrored
  have others := AtTable.leavesOthers_iff mirrored message
  rw [stands] at others
  rw [ask_running found open', ← others]
  constructor
  · rintro ⟨apart, stored⟩
    exact ⟨apart, fun other away => stored other (name ▸ away)⟩
  · rintro ⟨apart, stored⟩
    exact ⟨apart, fun other away => stored other (name.symm ▸ away)⟩

theorem Talk.openTable (talk : Talk hall) {matchId : MatchId}
    (valid : Request.matchId matchId = .ok matchId) : Talk (hall.openTable matchId).2 := by
  refine talk.aside rfl ?_
  intro id t found
  simp only [Hall.openTable, Dict.get?_insert] at found
  split at found
  next => exact Or.inr ⟨matchId, valid, (Option.some.inj found).symm⟩
  next => exact Or.inl found

theorem Talk.openQueue (talk : Talk hall) (capacity : Nat) :
    Talk { hall with floor := (hall.floor.openQueue capacity).2 } :=
  talk.aside rfl (fun _ _ found => Or.inl found)

/-- The tables of two matches, with a player at each. -/
def twoMatches : Hall :=
  let stored := Dict.empty.insert "match_1" Match.standard.snapshot
  let stored := stored.insert "match_2" Match.standard.snapshot
  let hall := Hall.empty (.empty { Archive.empty with stored } ⟨fun _ => .four, 0⟩)
  let hall := ((hall.openTable "match_1").2.openTable "match_2").2
  let hall := { hall with floor := ((hall.floor.openQueue 64).2.openQueue 64).2 }
  ((hall.ask 0 (.join "a" "ana" 0)).2.ask 1 (.join "b" "bia" 1)).2

theorem talk_twoMatches : Talk twoMatches := by
  have first : Request.matchId "match_1" = .ok "match_1" :=
    Request.matchId_eq_ok.mpr (by decide +kernel)
  have second : Request.matchId "match_2" = .ok "match_2" :=
    Request.matchId_eq_ok.mpr (by decide +kernel)
  refine Talk.asked (.asked (.openQueue (.openQueue ?_ 64) 64) 0 _) 1 _
  exact ((Talk.opened _ _ _).openTable first).openTable second

/-- The player of one match leaves it, and the other match goes on as it was. -/
theorem Talk.asked_leaves_others_iff_leaving : ∃ hall t, Talk hall ∧
    hall.tables.get? 0 = some t ∧ t.matchId = "match_1" ∧
    (hall.ask 0 (.leave "a")).2.floor.lobby.hasRoom "match_1" = false ∧
    Lobby.Apart "match_1" hall.floor.lobby (hall.ask 0 (.leave "a")).2.floor.lobby := by
  obtain ⟨hall, talk, there, own, closed⟩ : ∃ hall, Talk hall ∧
      (hall.tables.get? 0).map (fun t => (t.matchId, t.isClosed, t.subscribers.entries)) =
        some ("match_1", false, [("a", 0)]) ∧
      (hall.floor.lobby.session "a").map Session.matchId = some "match_1" ∧
      (hall.ask 0 (.leave "a")).2.floor.lobby.hasRoom "match_1" = false :=
    ⟨_, talk_twoMatches, by decide +kernel, by decide +kernel, by decide +kernel⟩
  obtain ⟨t, found, same⟩ := Option.map_eq_some_iff.mp there
  obtain ⟨name, open', audience⟩ : t.matchId = "match_1" ∧ t.isClosed = false ∧
      t.subscribers.entries = [("a", 0)] := by simpa using same
  obtain ⟨seat, seated, here⟩ := Option.map_eq_some_iff.mp own
  have others := (talk.asked_leaves_others_iff found open' (.leave "a")).mpr ?_
  · rw [name] at others
    exact ⟨hall, t, talk, found, name, closed, others.1⟩
  · intro connection session sits away
    have apart : connection ≠ "a" := by
      rintro rfl
      obtain rfl := Option.some.inj (seated.symm.trans sits)
      exact away (here.trans name.symm)
    refine ⟨fun leaver => apart leaver.symm, ?_⟩
    intro queue told
    have member := Dict.mem_entries.mpr told
    rw [audience] at member
    simp [apart] at member

/-- A player of the other match is told to go at the first table, and loses the seat there: the room
in which nobody is left closes. -/
theorem leave_at_other_table : ∃ hall, Talk hall ∧
    (hall.tables.get? 0).map (fun t => (t.matchId, t.isClosed)) = some ("match_1", false) ∧
    hall.floor.lobby.bindings.get? "b" = some ("match_2", .t1a) ∧
    (hall.ask 0 (.leave "b")).2.floor.lobby.bindings.get? "b" = none ∧
    (hall.ask 0 (.leave "b")).2.floor.lobby.hasRoom "match_2" = false :=
  ⟨_, talk_twoMatches, by decide +kernel, by decide +kernel, by decide +kernel, by decide +kernel⟩

end Talks

end Hall

end TrucoPaulista
