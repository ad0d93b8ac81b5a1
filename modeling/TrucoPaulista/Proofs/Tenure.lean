import TrucoPaulista.Proofs.Mirror

namespace TrucoPaulista

namespace Room

section Chairs

variable {room : Room} {seat query : Seat} {chair : Chair}

theorem tokenAt?_of_chair (there : room.chair? seat = some chair) :
    room.tokenAt? seat = some chair.token := by
  simp [tokenAt?, there]

/-- Whoever goes leaves the token and the readiness of every seat behind. -/
theorem chair?_disconnect (seat : Seat) (connection : ConnectionId)
    (there : room.chair? query = some chair) :
    ∃ chair', (room.disconnect seat connection).chair? query = some chair' ∧
      chair'.token = chair.token ∧ chair'.ready = chair.ready := by
  unfold disconnect
  split
  next old here =>
    split
    next =>
      rw [chair?_sit]
      by_cases same : query = seat
      · rw [same, here] at there
        obtain rfl := Option.some.inj there
        exact ⟨_, if_pos same, rfl, rfl⟩
      · exact ⟨chair, by rw [if_neg same, there], rfl, rfl⟩
    next => exact ⟨chair, there, rfl, rfl⟩
  next => exact ⟨chair, there, rfl, rfl⟩

theorem chair?_passTurn : (room.passTurn seat).chair? query = room.chair? query := by
  simp only [chair?, chairs_passTurn]

end Chairs

end Room

namespace Lobby

/-- One of the operations on a lobby. -/
inductive Move where
  | join (matchId : MatchId) (connection : ConnectionId) (token : String)
  | leave (connection : ConnectionId)
  | setReady (connection : ConnectionId) (ready : Bool)
  | beginHand (matchId : MatchId)
  | resumeHand (matchId : MatchId) (awaiting : Option Side)
  | advanceTurn (matchId : MatchId) (awaiting : Option Side)
  | endHand (matchId : MatchId)

/-- The lobby after an operation, also after one that is refused. -/
def perform (lobby : Lobby) : Move → Lobby
  | .join matchId connection token => (lobby.join matchId connection token).2
  | .leave connection => (lobby.leave connection).2
  | .setReady connection ready => (lobby.setReady connection ready).2
  | .beginHand matchId => (lobby.beginHand matchId).2
  | .resumeHand matchId awaiting => (lobby.resumeHand matchId awaiting).2
  | .advanceTurn matchId awaiting => (lobby.advanceTurn matchId awaiting).2
  | .endHand matchId => (lobby.endHand matchId).2

def after (lobby : Lobby) (moves : List Move) : Lobby := moves.foldl perform lobby

/-- Whether a match has a room after each of some operations. -/
def Lasts (matchId : MatchId) (lobby : Lobby) : List Move → Prop
  | [] => True
  | move :: rest =>
    (lobby.perform move).hasRoom matchId ∧ Lasts matchId (lobby.perform move) rest

/-- The token on whose behalf an operation lets a connection into the room of a match. -/
def admitted (lobby : Lobby) (matchId : MatchId) : Move → Option String
  | .join name connection token =>
    match (lobby.join name connection token).1 with
    | .ok session => if name = matchId then some session.token else none
    | .error _ => none
  | _ => none

/-- The tokens that have got a seat in the room of a match, in the order in which they first came,
after one more operation. A room that is closed forgets them all. -/
def noteArrival (matchId : MatchId) (lobby : Lobby) (arrivals : List String) (move : Move) :
    List String :=
  if (lobby.perform move).hasRoom matchId then
    match lobby.admitted matchId move with
    | some token => if token ∈ arrivals then arrivals else arrivals ++ [token]
    | none => arrivals
  else []

/-- The tokens that have got a seat in the room of a match, in the order in which they first came,
after some operations. -/
def arrivalsAfter (matchId : MatchId) : Lobby → List String → List Move → List String
  | _, arrivals, [] => arrivals
  | lobby, arrivals, move :: rest =>
    arrivalsAfter matchId (lobby.perform move) (noteArrival matchId lobby arrivals move) rest

/-- What an operation does to the chair at a seat: its token stays, and it becomes ready, or no longer
so, at most by the wish of the connection that is bound to the seat. -/
structure Stays (lobby : Lobby) (move : Move) (matchId : MatchId) (seat : Seat)
    (chair chair' : Chair) : Prop where
  token : chair'.token = chair.token
  ready : chair'.ready = chair.ready ∨ ∃ connection, move = .setReady connection chair'.ready ∧
    lobby.bindings.get? connection = some (matchId, seat)

section Steps

variable {lobby : Lobby} {matchId : MatchId} {connection : ConnectionId} {seat : Seat}
  {chair : Chair}

theorem Run.perform (run : Run lobby) (move : Move) : Run (lobby.perform move) := by
  cases move with
  | join matchId connection token => exact run.join matchId connection token
  | leave connection => exact run.leave connection
  | setReady connection ready => exact run.setReady connection ready
  | beginHand matchId => exact run.beginHand matchId
  | resumeHand matchId awaiting => exact run.resumeHand matchId awaiting
  | advanceTurn matchId awaiting => exact run.advanceTurn matchId awaiting
  | endHand matchId => exact run.endHand matchId

theorem Run.after (run : Run lobby) (moves : List Move) : Run (lobby.after moves) := by
  induction moves generalizing lobby with
  | nil => exact run
  | cons move rest ih => exact ih (run.perform move)

theorem hasRoom_iff_get? : lobby.hasRoom matchId ↔
    lobby.rooms.get? matchId = some (lobby.room matchId) := by
  rw [hasRoom_eq, Option.isSome_iff_exists]
  constructor
  · rintro ⟨room, found⟩
    rw [found, lobby.room_of_get? matchId found]
  · intro found
    exact ⟨_, found⟩

theorem chair?_change {step : Room → Room} (name : MatchId)
    (chairs : ∀ room, (step room).chairs = room.chairs) :
    ((lobby.change name step).2.room matchId).chair? seat = (lobby.room matchId).chair? seat := by
  unfold change
  split
  next => rfl
  next room found =>
    simp only [Lobby.room, Dict.get?_insert, Room.chair?]
    split
    next same => rw [same, found, Option.getD_some, Option.getD_some, chairs]
    next => rfl

/-- A chair keeps its token when somebody becomes ready, and is marked only if it is the one of the
connection. -/
theorem setReady_chair (connection : ConnectionId) (ready : Bool)
    (there : (lobby.room matchId).chair? seat = some chair) :
    ∃ chair', ((lobby.setReady connection ready).2.room matchId).chair? seat = some chair' ∧
      chair'.token = chair.token ∧ (chair'.ready = chair.ready ∨
        chair'.ready = ready ∧ lobby.bindings.get? connection = some (matchId, seat)) := by
  have unmoved : ∃ chair', (lobby.room matchId).chair? seat = some chair' ∧
      chair'.token = chair.token ∧ (chair'.ready = chair.ready ∨
        chair'.ready = ready ∧ lobby.bindings.get? connection = some (matchId, seat)) :=
    ⟨chair, there, rfl, Or.inl rfl⟩
  unfold setReady
  split
  next => exact unmoved
  next name place bound =>
    split
    next => exact unmoved
    next room found =>
      split
      next => exact unmoved
      next old here =>
        by_cases same : matchId = name ∧ seat = place
        · obtain ⟨rfl, rfl⟩ := same
          rw [lobby.room_of_get? matchId found, here] at there
          obtain rfl := Option.some.inj there
          exact ⟨{ old with ready }, by simp [Lobby.room], rfl, Or.inr ⟨rfl, bound⟩⟩
        · refine ⟨chair, ?_, rfl, Or.inl rfl⟩
          simp only [Lobby.room, Dict.get?_insert]
          split
          next at' =>
            have elsewhere : seat ≠ place := fun at'' => same ⟨at', at''⟩
            subst at'
            rw [lobby.room_of_get? matchId found] at there
            simp [elsewhere, there]
          next => exact there

/-- As long as its room lasts, every chair stays at its seat. -/
theorem stays_perform (move : Move)
    (there : (lobby.room matchId).chair? seat = some chair)
    (lasts : (lobby.perform move).hasRoom matchId) :
    ∃ chair', ((lobby.perform move).room matchId).chair? seat = some chair' ∧
      Stays lobby move matchId seat chair chair' := by
  have unmoved : ∀ lobby' : Lobby, (lobby'.room matchId).chair? seat = (lobby.room matchId).chair? seat →
      ∃ chair', (lobby'.room matchId).chair? seat = some chair' ∧
        Stays lobby move matchId seat chair chair' :=
    fun _ same => ⟨chair, same.trans there, rfl, Or.inl rfl⟩
  cases move with
  | join name connection token =>
    rcases lobby.join_cases name connection token with
      ⟨_, refused⟩ | ⟨_, _, _, again⟩ | ⟨place, _, _, kind, taken⟩
    · exact unmoved _ (by rw [perform, refused])
    · exact unmoved _ (by rw [perform, again])
    · rw [perform, taken, room_take]
      by_cases here : matchId = name
      · subst here
        rw [if_pos rfl, Room.take, Room.chair?_sit]
        by_cases same : seat = place
        · subst same
          rw [if_pos rfl]
          refine ⟨_, rfl, ?_, Or.inl (by simp [there])⟩
          rcases kind with known | ⟨vacant, _⟩
          · rw [Lobby.tokenAt?, Room.tokenAt?_of_chair there] at known
            exact (Option.some.inj known).symm
          · simp [there] at vacant
        · rw [if_neg same]
          exact ⟨chair, there, rfl, Or.inl rfl⟩
      · rw [if_neg here]
        exact ⟨chair, there, rfl, Or.inl rfl⟩
  | leave connection =>
    have found := hasRoom_iff_get?.mp lasts
    obtain ⟨room, before, same | ⟨place, _, left⟩⟩ := room_of_leave found
    · exact unmoved _ (by rw [same, lobby.room_of_get? matchId before])
    · rw [lobby.room_of_get? matchId before] at there
      obtain ⟨chair', there', token, ready⟩ := Room.chair?_disconnect place connection there
      refine ⟨chair', ?_, token, Or.inl ready⟩
      rw [left, Room.chair?_passTurn, there']
  | setReady connection ready =>
    obtain ⟨chair', there', token, same | ⟨wish, bound⟩⟩ := setReady_chair connection ready there
    · exact ⟨chair', there', token, Or.inl same⟩
    · exact ⟨chair', there', token, Or.inr ⟨connection, by rw [wish], bound⟩⟩
  | beginHand name => exact unmoved _ (chair?_change name fun _ => rfl)
  | resumeHand name awaiting =>
    exact unmoved _ (chair?_change name fun _ => Room.chairs_resumeHand awaiting)
  | advanceTurn name awaiting =>
    exact unmoved _ (chair?_change name fun _ => Room.chairs_advanceTurn awaiting)
  | endHand name => exact unmoved _ (chair?_change name fun _ => rfl)

theorem tokenAt?_leave (lasts : (lobby.leave connection).2.hasRoom matchId) (seat : Seat) :
    (lobby.leave connection).2.tokenAt? matchId seat = lobby.tokenAt? matchId seat := by
  obtain ⟨room, before, same | ⟨place, _, left⟩⟩ := room_of_leave (hasRoom_iff_get?.mp lasts)
  · rw [Lobby.tokenAt?, Lobby.tokenAt?, same, lobby.room_of_get? matchId before]
  · rw [Lobby.tokenAt?, Lobby.tokenAt?, left, lobby.room_of_get? matchId before,
      Room.tokenAt?, Room.chair?_passTurn]
    exact Room.tokenAt?_disconnect connection

/-- As long as its room lasts, every token keeps its seat. -/
theorem tokenAt?_after {token : String} (moves : List Move)
    (held : lobby.tokenAt? matchId seat = some token) (lasts : lobby.Lasts matchId moves) :
    (lobby.after moves).tokenAt? matchId seat = some token := by
  induction moves generalizing lobby with
  | nil => exact held
  | cons move rest ih =>
    obtain ⟨stillThere, lastsOn⟩ := lasts
    obtain ⟨chair, there, rfl⟩ := Option.map_eq_some_iff.mp held
    obtain ⟨chair', there', stays⟩ := stays_perform move there stillThere
    refine ih ?_ lastsOn
    rw [← stays.token]
    exact Room.tokenAt?_of_chair there'

end Steps

section Joins

variable {lobby : Lobby} {matchId : MatchId} {connection : ConnectionId} {seat : Seat} {text : String}

theorem join_of_unbound (unbound : lobby.bindings.get? connection = none)
    (solid : (Text.trim text).isEmpty = false) :
    lobby.join matchId connection text = lobby.seatToken matchId connection (Text.trim text) := by
  simp [join, solid, unbound]

/-- A token that has a seat gets the same one over any connection that has none yet. -/
theorem Mirrored.rejoin (mirrored : lobby.Mirrored)
    (held : lobby.tokenAt? matchId seat = some (Text.trim text))
    (unbound : lobby.bindings.get? connection = none) :
    (lobby.join matchId connection text).1 = .ok ⟨matchId, seat, Text.trim text, connection⟩ := by
  rw [join_of_unbound unbound (mirrored.proper matchId seat _ held).1]
  rcases lobby.seatToken_cases matchId connection (Text.trim text) with
    ⟨_, unknown, _⟩ | ⟨place, kind, taken⟩
  · exact absurd held (unknown seat)
  · rw [taken]
    rcases kind with known | ⟨_, unknown⟩
    · rw [mirrored.distinct matchId seat place _ held known]
    · exact absurd held (unknown seat)

/-- A new token gets the first seat that nobody has. -/
theorem freeSeat?_of_seatToken {token : String} {session : Session}
    (unknown : ∀ query, lobby.tokenAt? matchId query ≠ some token)
    (seated : (lobby.seatToken matchId connection token).1 = .ok session) :
    (lobby.room matchId).freeSeat? = some session.seat := by
  have stranger : (lobby.room matchId).seatOfToken? token = none := by
    by_contra known
    obtain ⟨seat, found⟩ := Option.ne_none_iff_exists'.mp known
    exact unknown seat (Room.seatOfToken?_eq_some found)
  rw [seatToken_eq, stranger, Option.none_or] at seated
  cases free : (lobby.room matchId).freeSeat? with
  | none =>
    rw [free] at seated
    cases seated
  | some seat =>
    rw [free] at seated
    obtain rfl := Except.ok.inj seated
    rfl

/-- Whoever is let in is there already, or takes the seat that the token has, or the first one that
nobody has. -/
theorem admitted_eq_some {move : Move} {token : String}
    (letIn : lobby.admitted matchId move = some token) :
    lobby.perform move = lobby ∧ (∃ seat, lobby.tokenAt? matchId seat = some token) ∨
    ∃ connection seat, lobby.perform move = lobby.take matchId connection token seat ∧
      (lobby.tokenAt? matchId seat = some token ∨ (lobby.room matchId).freeSeat? = some seat ∧
        ∀ query, lobby.tokenAt? matchId query ≠ some token) := by
  cases move with
  | join name connection text =>
    rcases lobby.join_cases name connection text with
      ⟨_, refused⟩ | ⟨session, found, rfl, again⟩ | ⟨seat, unbound, solid, kind, taken⟩
    · simp [admitted, refused] at letIn
    · left
      obtain ⟨rfl, rfl⟩ : session.matchId = matchId ∧ session.token = token := by
        simpa [admitted, again] using letIn
      exact ⟨congrArg Prod.snd again, session.seat, (bound_of_session found).2⟩
    · right
      obtain ⟨rfl, rfl⟩ : name = matchId ∧ Text.trim text = token := by
        simpa [admitted, taken] using letIn
      refine ⟨connection, seat, congrArg Prod.snd taken, kind.imp_right ?_⟩
      rintro ⟨_, unknown⟩
      rw [join_of_unbound unbound solid] at taken
      exact ⟨freeSeat?_of_seatToken unknown (congrArg Prod.fst taken), unknown⟩
  | leave | setReady | beginHand | resumeHand | advanceTurn | endHand => simp [admitted] at letIn

/-- As long as its room lasts, no seat gets a token by an operation that lets nobody in. -/
theorem tokenAt?_of_admitted_eq_none {move : Move} (nobody : lobby.admitted matchId move = none)
    (lasts : (lobby.perform move).hasRoom matchId) (seat : Seat) :
    (lobby.perform move).tokenAt? matchId seat = lobby.tokenAt? matchId seat := by
  cases move with
  | join name connection text =>
    rcases lobby.join_cases name connection text with
      ⟨_, refused⟩ | ⟨_, _, _, again⟩ | ⟨place, _, _, _, taken⟩
    · rw [perform, refused]
    · rw [perform, again]
    · have elsewhere : name ≠ matchId := by simpa [admitted, taken] using nobody
      rw [perform, taken, tokenAt?_take, if_neg fun here => elsewhere here.1.symm]
  | leave connection => exact tokenAt?_leave lasts seat
  | setReady connection ready => exact (sameSeats_setReady lobby connection ready).tokenAt? matchId seat
  | beginHand name =>
    exact (@sameSeats_change lobby name Room.beginHand fun _ => rfl).tokenAt? matchId seat
  | resumeHand name awaiting =>
    exact (sameSeats_change lobby name fun _ => Room.chairs_resumeHand awaiting).tokenAt? matchId seat
  | advanceTurn name awaiting =>
    exact (sameSeats_change lobby name fun _ => Room.chairs_advanceTurn awaiting).tokenAt? matchId seat
  | endHand name =>
    exact (@sameSeats_change lobby name Room.endHand fun _ => rfl).tokenAt? matchId seat

end Joins

/-- Whether these are the tokens in the room of a match, in the order of the seats. -/
structure Roster (lobby : Lobby) (matchId : MatchId) (tokens : List String) : Prop where
  few : tokens.length ≤ 4
  distinct : tokens.Nodup
  seats : ∀ seat, lobby.tokenAt? matchId seat = tokens[Seat.all.idxOf seat]?

namespace Roster

variable {lobby lobby' : Lobby} {matchId : MatchId} {tokens : List String} {token : String}

theorem of_closed (closed : lobby.hasRoom matchId = false) : lobby.Roster matchId [] where
  few := Nat.zero_le 4
  distinct := List.nodup_nil
  seats seat := by simp [Lobby.tokenAt?, room_of_closed closed]

theorem of_seats (roster : lobby.Roster matchId tokens)
    (same : ∀ seat, lobby'.tokenAt? matchId seat = lobby.tokenAt? matchId seat) :
    lobby'.Roster matchId tokens where
  few := roster.few
  distinct := roster.distinct
  seats seat := (same seat).trans (roster.seats seat)

theorem mem_iff (roster : lobby.Roster matchId tokens) :
    token ∈ tokens ↔ ∃ seat, lobby.tokenAt? matchId seat = some token := by
  constructor
  · intro member
    obtain ⟨k, small, here⟩ := List.getElem_of_mem member
    have within : k < Seat.all.length := Nat.lt_of_lt_of_le small roster.few
    refine ⟨Seat.all[k], ?_⟩
    rw [roster.seats, List.Nodup.idxOf_getElem (by decide) k within, List.getElem?_eq_getElem small,
      here]
  · rintro ⟨seat, held⟩
    rw [roster.seats] at held
    exact List.mem_of_getElem? held

theorem isTaken_iff (roster : lobby.Roster matchId tokens) (seat : Seat) :
    (lobby.room matchId).isTaken seat ↔ Seat.all.idxOf seat < tokens.length := by
  have here := roster.seats seat
  rw [Lobby.tokenAt?, Room.tokenAt?] at here
  rw [Room.isTaken, ← Option.isSome_map (f := Chair.token), here]
  simp

/-- The tokens fill the seats from the first one on. -/
theorem idxOf_free (roster : lobby.Roster matchId tokens) {seat : Seat}
    (free : (lobby.room matchId).freeSeat? = some seat) : Seat.all.idxOf seat = tokens.length := by
  obtain ⟨vacant, k, within, rfl, before⟩ := List.find?_eq_some_iff_getElem.mp free
  have place : ∀ i (h : i < Seat.all.length), Seat.all.idxOf Seat.all[i] = i :=
    List.Nodup.idxOf_getElem (by decide)
  rw [place k within]
  have beyond : ¬k < tokens.length := by
    rw [← place k within, ← roster.isTaken_iff]
    simpa using vacant
  have next : ¬tokens.length < k := by
    intro early
    have taken := before tokens.length early
    rw [Bool.not_not, roster.isTaken_iff, place] at taken
    exact Nat.lt_irrefl _ taken
  omega

theorem take_known (roster : lobby.Roster matchId tokens) (connection : ConnectionId) {seat : Seat}
    (known : lobby.tokenAt? matchId seat = some token) :
    (lobby.take matchId connection token seat).Roster matchId tokens := by
  refine roster.of_seats fun query => ?_
  rw [tokenAt?_take]
  split
  next here => rw [here.2, known]
  next => rfl

theorem take_new (roster : lobby.Roster matchId tokens) (connection : ConnectionId) {seat : Seat}
    (free : (lobby.room matchId).freeSeat? = some seat) (unknown : token ∉ tokens) :
    (lobby.take matchId connection token seat).Roster matchId (tokens ++ [token]) := by
  have place := roster.idxOf_free free
  have member : ∀ query : Seat, query ∈ Seat.all := fun query => by cases query <;> decide
  refine ⟨?_, ?_, fun query => ?_⟩
  · have within := List.idxOf_lt_length_of_mem (member seat)
    rw [place] at within
    rw [List.length_append]
    exact within
  · refine List.nodup_append.mpr ⟨roster.distinct, by simp, ?_⟩
    intro other member fresh singleton same
    have fresh_eq : fresh = token := by simpa using singleton
    exact unknown (fresh_eq ▸ same ▸ member)
  · rw [tokenAt?_take, List.getElem?_append, ← place]
    by_cases same : query = seat
    · simp [same]
    · have apart : Seat.all.idxOf query ≠ Seat.all.idxOf seat :=
        fun same' => same ((List.idxOf_inj (member query)).mp same')
      rw [if_neg fun here => same here.2, roster.seats]
      split
      next => rfl
      next after =>
        rw [List.getElem?_eq_none (by omega), List.getElem?_eq_none]
        simp only [List.length_singleton]
        omega

/-- An operation keeps the roster of every match, up to the token that it may add. -/
theorem perform (roster : lobby.Roster matchId tokens) (move : Move) :
    (lobby.perform move).Roster matchId (noteArrival matchId lobby tokens move) := by
  unfold noteArrival
  split
  next lasts =>
    split
    next token letIn =>
      obtain ⟨still, seat, known⟩ | ⟨connection, seat, taken, known | ⟨free, unknown⟩⟩ :=
        admitted_eq_some letIn
      · rw [still, if_pos (roster.mem_iff.mpr ⟨seat, known⟩)]
        exact roster
      · rw [taken, if_pos (roster.mem_iff.mpr ⟨seat, known⟩)]
        exact roster.take_known connection known
      · have fresh : token ∉ tokens := by
          rw [roster.mem_iff]
          rintro ⟨query, held⟩
          exact unknown query held
        rw [taken, if_neg fresh]
        exact roster.take_new connection free fresh
    next nobody => exact roster.of_seats (tokenAt?_of_admitted_eq_none nobody lasts)
  next closed => exact of_closed (Bool.not_eq_true _ ▸ closed)

theorem after (roster : lobby.Roster matchId tokens) (moves : List Move) :
    (lobby.after moves).Roster matchId (arrivalsAfter matchId lobby tokens moves) := by
  induction moves generalizing lobby tokens with
  | nil => exact roster
  | cons move rest ih => exact ih (roster.perform move)

section NewToken

variable {connection : ConnectionId} {text : String}

/-- A new token gets the seat after those that others have. -/
theorem join_of_next (roster : lobby.Roster matchId tokens) {seat : Seat}
    (next : Seat.all[tokens.length]? = some seat)
    (unbound : lobby.bindings.get? connection = none) (solid : (Text.trim text).isEmpty = false)
    (fresh : Text.trim text ∉ tokens) :
    (lobby.join matchId connection text).1 = .ok ⟨matchId, seat, Text.trim text, connection⟩ := by
  have unknown : ∀ query, lobby.tokenAt? matchId query ≠ some (Text.trim text) :=
    fun query held => fresh (roster.mem_iff.mpr ⟨query, held⟩)
  rw [join_of_unbound unbound solid]
  rcases lobby.seatToken_cases matchId connection (Text.trim text) with
    ⟨taken, _, _⟩ | ⟨place, _, seated⟩
  · have room := (roster.isTaken_iff seat).mp (taken seat)
    obtain ⟨small, rfl⟩ := List.getElem?_eq_some_iff.mp next
    rw [List.Nodup.idxOf_getElem (by decide) _ small] at room
    exact absurd room (Nat.lt_irrefl _)
  · have free := freeSeat?_of_seatToken unknown (congrArg Prod.fst seated)
    have first : Seat.all[tokens.length]? = some place := by
      rw [← roster.idxOf_free free]
      cases place <;> rfl
    rw [seated, Option.some.inj (next.symm.trans first)]

/-- When four tokens have a seat, no other one gets any. -/
theorem join_of_full (roster : lobby.Roster matchId tokens) (full : tokens.length = 4)
    (unbound : lobby.bindings.get? connection = none) (solid : (Text.trim text).isEmpty = false)
    (fresh : Text.trim text ∉ tokens) :
    lobby.join matchId connection text = (.error .matchFull, lobby) := by
  rw [join_of_unbound unbound solid]
  rcases lobby.seatToken_cases matchId connection (Text.trim text) with
    ⟨_, _, refused⟩ | ⟨seat, known | ⟨vacant, _⟩, _⟩
  · exact refused
  · exact absurd (roster.mem_iff.mpr ⟨seat, known⟩) fresh
  · have taken : (lobby.room matchId).isTaken seat := by
      rw [roster.isTaken_iff, full]
      cases seat <;> decide
    simp [Room.isTaken, vacant] at taken

end NewToken

end Roster

section Runs

variable {lobby : Lobby} {matchId : MatchId} {seat : Seat}

theorem hasRoom_of_chair {chair : Chair} (there : (lobby.room matchId).chair? seat = some chair) :
    lobby.hasRoom matchId := by
  rcases closed : lobby.hasRoom matchId with _ | _
  · simp [room_of_closed closed, Room.chair?, Room.empty] at there
  · rfl

/-- The seats of a room after any operations on a lobby. Whoever has a seat has it until the room is
closed, and gets it back over every connection that comes with the same token and has no seat yet.
Only a connection that is bound to a seat changes whether that seat is ready. The first four tokens
that come get the seats in order, and no other one gets any, even while seats have no connection. -/
theorem seats_last_with_room (moves : List Move) (matchId : MatchId) :
    let lobby := Lobby.empty.after moves
    let arrivals := arrivalsAfter matchId .empty [] moves
    (∀ later, lobby.Lasts matchId later →
      ∀ seat token, lobby.tokenAt? matchId seat = some token →
        (lobby.after later).tokenAt? matchId seat = some token ∧
        ∀ connection text, (lobby.after later).bindings.get? connection = none →
          Text.trim text = token →
          ((lobby.after later).join matchId connection text).1 =
            .ok ⟨matchId, seat, token, connection⟩) ∧
    (∀ move seat chair chair', (lobby.room matchId).chair? seat = some chair →
      ((lobby.perform move).room matchId).chair? seat = some chair' → chair'.ready ≠ chair.ready →
      ∃ connection, move = .setReady connection chair'.ready ∧
        lobby.bindings.get? connection = some (matchId, seat)) ∧
    arrivals.length ≤ 4 ∧ arrivals.Nodup ∧
    (∀ seat, lobby.tokenAt? matchId seat = arrivals[Seat.all.idxOf seat]?) ∧
    (∀ connection text, lobby.bindings.get? connection = none →
      (Text.trim text).isEmpty = false → Text.trim text ∉ arrivals →
      (∀ seat, Seat.all[arrivals.length]? = some seat → (lobby.join matchId connection text).1 =
        .ok ⟨matchId, seat, Text.trim text, connection⟩) ∧
      (arrivals.length = 4 →
        lobby.join matchId connection text = (.error .matchFull, lobby))) := by
  intro lobby arrivals
  have run : Run lobby := Run.empty.after moves
  have roster : lobby.Roster matchId arrivals :=
    Roster.after (Roster.of_closed (by rfl)) moves
  refine ⟨?_, ?_, roster.few, roster.distinct, roster.seats, ?_⟩
  · intro later lasts seat token held
    have still := tokenAt?_after later held lasts
    refine ⟨still, ?_⟩
    rintro connection text unbound rfl
    exact (run.after later).mirrored.rejoin still unbound
  · intro move seat chair chair' there there' changed
    obtain ⟨_, same, stays⟩ := stays_perform move there (hasRoom_of_chair there')
    obtain rfl := Option.some.inj (same.symm.trans there')
    exact stays.ready.resolve_left changed
  · intro connection text unbound solid fresh
    exact ⟨fun _ next => roster.join_of_next next unbound solid fresh,
      fun full => roster.join_of_full full unbound solid fresh⟩

/-- Four players, one of whom has gone. A fifth one finds the room full, and the one who has gone
finds the seat kept. -/
theorem seats_last_with_room_of_four :
    let moves : List Move := [.join "match_1" "a" "ana", .join "match_1" "b" "bia",
      .join "match_1" "c" "caio", .join "match_1" "d" "davi", .leave "b"]
    let lobby := Lobby.empty.after moves
    lobby.connectionAt? "match_1" .t1b = none ∧
      lobby.join "match_1" "e" "eva" = (.error .matchFull, lobby) ∧
      (lobby.join "match_1" "f" " bia ").1 = .ok ⟨"match_1", .t1b, "bia", "f"⟩ := by
  intro moves lobby
  obtain ⟨kept, _, _, _, _, full⟩ := seats_last_with_room moves "match_1"
  refine ⟨by decide +kernel, ?_, ?_⟩
  · exact (full "e" "eva" (by decide +kernel) (by decide +kernel) (by decide +kernel)).2
      (by decide +kernel)
  · exact (kept [] trivial .t1b "bia" (by decide +kernel)).2 "f" " bia " (by decide +kernel)
      (by decide +kernel)

end Runs

end Lobby

end TrucoPaulista
