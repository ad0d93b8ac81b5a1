import TrucoPaulista.Proofs.Apart
import TrucoPaulista.Proofs.Tenure

namespace TrucoPaulista

namespace Lobby

/-- The match that an operation names. -/
def Move.matchId? : Move → Option MatchId
  | .join matchId _ _ | .beginHand matchId | .resumeHand matchId _ | .advanceTurn matchId _
  | .endHand matchId => some matchId
  | .leave _ | .setReady _ _ => none

/-- The connection that asks for an operation. -/
def Move.connection? : Move → Option ConnectionId
  | .join _ connection _ | .leave connection | .setReady connection _ => some connection
  | .beginHand _ | .resumeHand _ _ | .advanceTurn _ _ | .endHand _ => none

/-- What an operation answers. -/
inductive Answer where
  | joined (answer : Except RoomError Session)
  | left (answer : Option MatchId)
  | changed (answer : Except RoomError RoomView)

/-- The answer of a lobby to an operation. -/
def answer (lobby : Lobby) : Move → Answer
  | .join matchId connection token => .joined (lobby.join matchId connection token).1
  | .leave connection => .left (lobby.leave connection).1
  | .setReady connection ready => .changed (lobby.setReady connection ready).1
  | .beginHand matchId => .changed (lobby.beginHand matchId).1
  | .resumeHand matchId awaiting => .changed (lobby.resumeHand matchId awaiting).1
  | .advanceTurn matchId awaiting => .changed (lobby.advanceTurn matchId awaiting).1
  | .endHand matchId => .changed (lobby.endHand matchId).1

/-- Whether an operation is one on a match: it names no other, and the connection that asks for it
has no seat in another. -/
structure Concerns (lobby : Lobby) (move : Move) (matchId : MatchId) : Prop where
  named : ∀ name, move.matchId? = some name → name = matchId
  confined : ∀ connection, move.connection? = some connection →
    lobby.IsConfined connection matchId

/-- Whether two lobbies are the same for a match: in its room, and in the seats that connections have
there. -/
structure Alike (matchId : MatchId) (lobby lobby' : Lobby) : Prop where
  rooms : lobby'.rooms.get? matchId = lobby.rooms.get? matchId
  bindings : ∀ connection seat, lobby'.bindings.get? connection = some (matchId, seat) ↔
    lobby.bindings.get? connection = some (matchId, seat)

section Frame

variable {lobby : Lobby} {matchId name : MatchId} {connection : ConnectionId} {move : Move}

theorem bindings_change (step : Room → Room) :
    (lobby.change name step).2.bindings = lobby.bindings := by
  unfold change
  split <;> rfl

/-- A seat that a connection has after an operation is one that it had before, unless the operation is
its own. -/
theorem bound_of_perform {binding : MatchId × Seat} (foreign : move.connection? ≠ some connection)
    (bound : (lobby.perform move).bindings.get? connection = some binding) :
    lobby.bindings.get? connection = some binding := by
  cases move with
  | join name other token =>
    rcases lobby.join_cases name other token with
      ⟨_, refused⟩ | ⟨_, _, _, again⟩ | ⟨seat, _, _, _, taken⟩
    · rwa [perform, refused] at bound
    · rwa [perform, again] at bound
    · have apart : connection ≠ other := by
        rintro rfl
        exact foreign rfl
      rw [perform, taken, bindings_take, if_neg apart] at bound
      -- whoever held the seat that is taken has lost it, and has none now
      split at bound
      next => cases bound
      next => exact bound
  | leave other =>
    have apart : connection ≠ other := by
      rintro rfl
      exact foreign rfl
    rwa [perform, bindings_leave, if_neg apart] at bound
  | setReady other ready => rwa [perform, (sameSeats_setReady lobby other ready).bindings] at bound
  | beginHand name => rwa [perform, beginHand, bindings_change] at bound
  | resumeHand name awaiting => rwa [perform, resumeHand, bindings_change] at bound
  | advanceTurn name awaiting => rwa [perform, advanceTurn, bindings_change] at bound
  | endHand name => rwa [perform, endHand, bindings_change] at bound

/-- An operation on a match leaves all others alone. A connection that loses its seat to whoever comes
with the same token had it in the room that is entered. -/
theorem Mirrored.apart_perform (mirrored : lobby.Mirrored) (concerns : lobby.Concerns move matchId) :
    Apart matchId lobby (lobby.perform move) := by
  cases move with
  | join name connection token =>
    obtain rfl := concerns.named name rfl
    obtain ⟨refusal, refused⟩ | ⟨session, lobby', joined⟩ :
        (∃ refusal, lobby.join name connection token = (.error refusal, lobby)) ∨
        ∃ session lobby', lobby.join name connection token = (.ok session, lobby') := by
      rcases lobby.join_cases name connection token with
        refused | ⟨session, _, _, again⟩ | ⟨_, _, _, _, taken⟩
      · exact Or.inl refused
      · exact Or.inr ⟨_, _, again⟩
      · exact Or.inr ⟨_, _, taken⟩
    · rw [perform, refused]
      exact .refl lobby
    · rw [perform, joined]
      exact mirrored.apart_join joined
  | leave connection => exact apart_leave (concerns.confined connection rfl)
  | setReady connection ready => exact apart_setReady (concerns.confined connection rfl) ready
  | beginHand name =>
    obtain rfl := concerns.named name rfl
    exact apart_change _
  | resumeHand name awaiting =>
    obtain rfl := concerns.named name rfl
    exact apart_change _
  | advanceTurn name awaiting =>
    obtain rfl := concerns.named name rfl
    exact apart_change _
  | endHand name =>
    obtain rfl := concerns.named name rfl
    exact apart_change _

/-- An operation by somebody else does not change which match an operation is on. -/
theorem Concerns.perform {other : Move} (concerns : lobby.Concerns move matchId)
    (strangers : ∀ connection, move.connection? = some connection →
      other.connection? ≠ some connection) :
    (lobby.perform other).Concerns move matchId where
  named := concerns.named
  confined connection asks name seat bound :=
    concerns.confined connection asks name seat (bound_of_perform (strangers connection asks) bound)

end Frame

namespace Alike

variable {lobby lobby' mid : Lobby} {matchId name : MatchId} {connection : ConnectionId}

theorem of_apart (apart : Apart name lobby lobby') (away : matchId ≠ name) :
    Alike matchId lobby lobby' where
  rooms := apart.rooms matchId away
  bindings connection seat := apart.bindings connection matchId seat away

theorem symm (alike : Alike matchId lobby lobby') : Alike matchId lobby' lobby where
  rooms := alike.rooms.symm
  bindings connection seat := (alike.bindings connection seat).symm

theorem trans (first : Alike matchId lobby mid) (second : Alike matchId mid lobby') :
    Alike matchId lobby lobby' where
  rooms := second.rooms.trans first.rooms
  bindings connection seat := (second.bindings connection seat).trans (first.bindings connection seat)

theorem room (alike : Alike matchId lobby lobby') : lobby'.room matchId = lobby.room matchId := by
  rw [Lobby.room, Lobby.room, alike.rooms]

/-- Lobbies that are the same for every match are the same. -/
theorem eq (alike : ∀ matchId, Alike matchId lobby lobby') : lobby' = lobby := by
  have rooms : lobby'.rooms = lobby.rooms := Dict.ext_get? fun matchId => (alike matchId).rooms
  have bindings : lobby'.bindings = lobby.bindings := by
    refine Dict.ext_get? fun connection => Option.ext ?_
    rintro ⟨matchId, seat⟩
    exact (alike matchId).bindings connection seat
  cases lobby
  cases lobby'
  exact congrArg₂ Lobby.mk rooms bindings

/-- The seat of a connection that has none in another match is the same. -/
theorem binding (alike : Alike matchId lobby lobby') (confined : lobby.IsConfined connection matchId)
    (confined' : lobby'.IsConfined connection matchId) :
    lobby'.bindings.get? connection = lobby.bindings.get? connection := by
  refine Option.ext ?_
  rintro ⟨name, seat⟩
  constructor
  · intro bound
    obtain rfl := confined' name seat bound
    exact (alike.bindings connection seat).mp bound
  · intro bound
    obtain rfl := confined name seat bound
    exact (alike.bindings connection seat).mpr bound

theorem insert (alike : Alike matchId lobby lobby') (room : Room) :
    Alike matchId { lobby with rooms := lobby.rooms.insert matchId room }
      { lobby' with rooms := lobby'.rooms.insert matchId room } where
  rooms := by simp
  bindings := alike.bindings

theorem take (alike : Alike matchId lobby lobby') (connection : ConnectionId) (token : String)
    (seat : Seat) :
    Alike matchId (lobby.take matchId connection token seat)
      (lobby'.take matchId connection token seat) where
  rooms := by simp [Lobby.take, alike.room]
  bindings other place := by
    have holder : lobby'.connectionAt? matchId seat = lobby.connectionAt? matchId seat := by
      rw [Lobby.connectionAt?, Lobby.connectionAt?, alike.room]
    rw [bindings_take, bindings_take, holder]
    split
    next => exact Iff.rfl
    next =>
      split
      next => exact Iff.rfl
      next => exact alike.bindings other place

theorem change (alike : Alike matchId lobby lobby') (step : Room → Room) :
    (lobby'.change matchId step).1 = (lobby.change matchId step).1 ∧
      Alike matchId (lobby.change matchId step).2 (lobby'.change matchId step).2 := by
  unfold Lobby.change
  rw [alike.rooms]
  split
  next => exact ⟨rfl, alike⟩
  next room _ => exact ⟨by simp [roomView], alike.insert (step room)⟩

/-- Who becomes ready is answered alike in lobbies that are alike for the match, and they stay alike. -/
theorem setReady (alike : Alike matchId lobby lobby') (confined : lobby.IsConfined connection matchId)
    (confined' : lobby'.IsConfined connection matchId) (ready : Bool) :
    (lobby'.setReady connection ready).1 = (lobby.setReady connection ready).1 ∧
      Alike matchId (lobby.setReady connection ready).2 (lobby'.setReady connection ready).2 := by
  unfold Lobby.setReady
  rw [alike.binding confined confined']
  split
  next => exact ⟨rfl, alike⟩
  next name seat bound =>
    obtain rfl := confined name seat bound
    rw [alike.rooms]
    split
    next => exact ⟨rfl, alike⟩
    next room _ =>
      split
      next => exact ⟨rfl, alike⟩
      next chair _ => exact ⟨by simp [roomView], alike.insert _⟩

/-- Who leaves is answered alike in lobbies that are alike for the match, and they stay alike. -/
theorem leave (alike : Alike matchId lobby lobby') (confined : lobby.IsConfined connection matchId)
    (confined' : lobby'.IsConfined connection matchId) :
    (lobby'.leave connection).1 = (lobby.leave connection).1 ∧
      Alike matchId (lobby.leave connection).2 (lobby'.leave connection).2 := by
  have bindings : ∀ other seat, (lobby'.leave connection).2.bindings.get? other = some (matchId, seat) ↔
      (lobby.leave connection).2.bindings.get? other = some (matchId, seat) := by
    intro other seat
    rw [bindings_leave, bindings_leave]
    split
    next => exact Iff.rfl
    next => exact alike.bindings other seat
  suffices same : (lobby'.leave connection).1 = (lobby.leave connection).1 ∧
      (lobby'.leave connection).2.rooms.get? matchId =
        (lobby.leave connection).2.rooms.get? matchId from ⟨same.1, same.2, bindings⟩
  unfold Lobby.leave
  rw [alike.binding confined confined']
  split
  next => exact ⟨rfl, alike.rooms⟩
  next name seat bound =>
    obtain rfl := confined name seat bound
    dsimp only
    rw [alike.rooms]
    split
    next => exact ⟨rfl, alike.rooms⟩
    next =>
      dsimp only
      split
      next => exact ⟨rfl, by simp⟩
      next => exact ⟨rfl, by simp⟩

/-- A token is given the same seat in lobbies that are alike for the match, and they stay alike. -/
theorem seatToken (alike : Alike matchId lobby lobby') (connection : ConnectionId) (token : String) :
    (lobby'.seatToken matchId connection token).1 = (lobby.seatToken matchId connection token).1 ∧
      Alike matchId (lobby.seatToken matchId connection token).2
        (lobby'.seatToken matchId connection token).2 := by
  rw [seatToken_eq, seatToken_eq, alike.room]
  split
  next seat _ => exact ⟨rfl, alike.take connection token seat⟩
  next => exact ⟨rfl, alike⟩

/-- Who joins is answered alike in lobbies that are alike for the match, and they stay alike. -/
theorem join (alike : Alike matchId lobby lobby') (confined : lobby.IsConfined connection matchId)
    (confined' : lobby'.IsConfined connection matchId) (token : String) :
    (lobby'.join matchId connection token).1 = (lobby.join matchId connection token).1 ∧
      Alike matchId (lobby.join matchId connection token).2
        (lobby'.join matchId connection token).2 := by
  have session : ∀ seat, lobby'.sessionAt connection matchId seat =
      lobby.sessionAt connection matchId seat := by
    intro seat
    rw [sessionAt, sessionAt, alike.rooms]
  unfold Lobby.join
  dsimp only
  split
  next => exact ⟨rfl, alike⟩
  next =>
    rw [alike.binding confined confined']
    split
    next bound seat _ =>
      split
      next => exact ⟨rfl, alike⟩
      next =>
        rw [session]
        split <;> exact ⟨rfl, alike⟩
    next => exact alike.seatToken connection (Text.trim token)

/-- What an operation on a match answers, and what it does there, shows in that match alone. -/
theorem perform {move : Move} (alike : Alike matchId lobby lobby')
    (concerns : lobby.Concerns move matchId) (concerns' : lobby'.Concerns move matchId) :
    lobby'.answer move = lobby.answer move ∧
      Alike matchId (lobby.perform move) (lobby'.perform move) := by
  cases move with
  | join name connection token =>
    obtain rfl := concerns.named name rfl
    exact (alike.join (concerns.confined connection rfl) (concerns'.confined connection rfl)
      token).imp_left (congrArg Answer.joined)
  | leave connection =>
    exact (alike.leave (concerns.confined connection rfl)
      (concerns'.confined connection rfl)).imp_left (congrArg Answer.left)
  | setReady connection ready =>
    exact (alike.setReady (concerns.confined connection rfl) (concerns'.confined connection rfl)
      ready).imp_left (congrArg Answer.changed)
  | beginHand name =>
    obtain rfl := concerns.named name rfl
    exact (alike.change _).imp_left (congrArg Answer.changed)
  | resumeHand name awaiting =>
    obtain rfl := concerns.named name rfl
    exact (alike.change _).imp_left (congrArg Answer.changed)
  | advanceTurn name awaiting =>
    obtain rfl := concerns.named name rfl
    exact (alike.change _).imp_left (congrArg Answer.changed)
  | endHand name =>
    obtain rfl := concerns.named name rfl
    exact (alike.change _).imp_left (congrArg Answer.changed)

end Alike

section Runs

variable {lobby : Lobby} {matchId matchId' : MatchId} {move move' : Move}

/-- Operations on different matches, asked for by different connections, may change places: each
answers the same, and the lobby is the same in the end. -/
theorem Run.moves_commute (run : Run lobby) (apart : matchId ≠ matchId')
    (concerns : lobby.Concerns move matchId) (concerns' : lobby.Concerns move' matchId')
    (strangers : ∀ connection, move.connection? = some connection →
      move'.connection? ≠ some connection) :
    (lobby.perform move').answer move = lobby.answer move ∧
      (lobby.perform move).answer move' = lobby.answer move' ∧
      (lobby.perform move).perform move' = (lobby.perform move').perform move := by
  have strangers' : ∀ connection, move'.connection? = some connection →
      move.connection? ≠ some connection :=
    fun connection asks' asks => strangers connection asks asks'
  have later := concerns.perform strangers
  have later' := concerns'.perform strangers'
  have first := run.mirrored.apart_perform concerns
  have first' := run.mirrored.apart_perform concerns'
  have second := (run.perform move').mirrored.apart_perform later
  have second' := (run.perform move).mirrored.apart_perform later'
  obtain ⟨answers, here⟩ := (Alike.of_apart first' apart).perform concerns later
  obtain ⟨answers', here'⟩ := (Alike.of_apart first apart.symm).perform concerns' later'
  refine ⟨answers, answers', Alike.eq fun name => ?_⟩
  by_cases same : name = matchId
  · subst same
    exact here.symm.trans (.of_apart second' apart)
  · by_cases same' : name = matchId'
    · subst same'
      exact (Alike.of_apart second same).symm.trans here'
    · -- neither of the two is an operation on this match
      have alike : Alike name lobby ((lobby.perform move).perform move') :=
        (Alike.of_apart first same).trans (.of_apart second' same')
      have alike' : Alike name lobby ((lobby.perform move').perform move) :=
        (Alike.of_apart first' same').trans (.of_apart second same)
      exact alike'.symm.trans alike

/-- Somebody comes back to one match over another connection, which costs the old one its seat, while
the last player of another match goes and its room is closed. -/
theorem Run.moves_commute_rejoin_and_closing :
    let moves : List Move := [.join "match_1" "a" "ana", .join "match_2" "b" "bia"]
    let lobby := Lobby.empty.after moves
    let back : Move := .join "match_1" "c" "ana"
    (lobby.perform back).perform (.leave "b") = (lobby.perform (.leave "b")).perform back ∧
      ((lobby.perform back).perform (.leave "b")).bindings.get? "a" = none ∧
      ((lobby.perform back).perform (.leave "b")).hasRoom "match_2" = false := by
  intro moves lobby back
  have run : Run lobby := Run.empty.after moves
  have unbound : lobby.bindings.get? "c" = none := by decide +kernel
  have bound : lobby.bindings.get? "b" = some ("match_2", .t1a) := by decide +kernel
  have concerns : lobby.Concerns back "match_1" := by
    refine ⟨?_, ?_⟩
    · rintro _ ⟨⟩
      rfl
    · rintro _ ⟨⟩ name seat found
      cases unbound.symm.trans found
  have concerns' : lobby.Concerns (.leave "b") "match_2" := by
    refine ⟨?_, ?_⟩
    · rintro _ ⟨⟩
    · rintro _ ⟨⟩ name seat found
      cases bound.symm.trans found
      rfl
  have strangers : ∀ connection, back.connection? = some connection →
      Move.connection? (.leave "b") ≠ some connection := by
    rintro _ ⟨⟩
    decide
  obtain ⟨_, _, same⟩ := run.moves_commute (by decide) concerns concerns' strangers
  exact ⟨same, by decide +kernel, by decide +kernel⟩

end Runs

end Lobby

end TrucoPaulista
