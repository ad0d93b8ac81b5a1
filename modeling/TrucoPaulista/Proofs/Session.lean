import TrucoPaulista.Floor
import TrucoPaulista.Proofs.Mirror

namespace TrucoPaulista

namespace Lobby

/-- What a lobby is after a connection was given a seat: everybody else keeps theirs, but for whoever
had come there with the same token. -/
structure Joined (lobby : Lobby) (matchId : MatchId) (connection : ConnectionId) (session : Session)
    (lobby' : Lobby) : Prop where
  mirrored : lobby'.Mirrored
  here : session.matchId = matchId
  seated : lobby'.session connection = some session
  before : ∀ old, lobby.session connection = some old → old = session
  others : ∀ other, other ≠ connection → lobby'.session other = lobby.session other ∨
    lobby'.session other = none ∧ ∃ old, lobby.session other = some old ∧ old.matchId = matchId ∧
      old.token = session.token

section Sessions

variable {lobby lobby' : Lobby} {matchId : MatchId} {connection : ConnectionId}

theorem session_of_same (same : SameSeats lobby lobby') : lobby'.session connection =
    lobby.session connection := by
  cases bound : lobby.bindings.get? connection with
  | none =>
    have bound' : lobby'.bindings.get? connection = none := by rw [same.bindings, bound]
    rw [lobby.session_of_unbound bound, lobby'.session_of_unbound bound']
  | some binding =>
    obtain ⟨matchId, seat⟩ := binding
    have bound' : lobby'.bindings.get? connection = some (matchId, seat) := by
      rw [same.bindings, bound]
    rw [lobby.session_of_bound bound, lobby'.session_of_bound bound', same.tokenAt?]

theorem Mirrored.hasRoom_iff_session (mirrored : lobby.Mirrored) : lobby.hasRoom matchId ↔
    ∃ connection session, lobby.session connection = some session ∧ session.matchId = matchId := by
  rw [mirrored.hasRoom_iff]
  constructor
  · rintro ⟨connection, seat, bound⟩
    obtain ⟨session, found, here, _⟩ := mirrored.exists_session bound
    exact ⟨connection, session, found, here⟩
  · rintro ⟨connection, session, found, rfl⟩
    exact ⟨connection, session.seat, (bound_of_session found).1⟩

/-- No room opens when no connection gets a seat. -/
theorem hasRoom_of_fewer (mirrored : lobby.Mirrored) (mirrored' : lobby'.Mirrored)
    (fewer : ∀ connection, lobby'.session connection = lobby.session connection ∨
      lobby'.session connection = none) (open' : lobby'.hasRoom matchId) : lobby.hasRoom matchId := by
  obtain ⟨connection, session, found, here⟩ := mirrored'.hasRoom_iff_session.mp open'
  refine mirrored.hasRoom_iff_session.mpr ⟨connection, session, ?_, here⟩
  rcases fewer connection with same | gone
  · rw [← same, found]
  · simp [gone] at found

theorem session_of_left (lobby : Lobby) (connection : ConnectionId) :
    (lobby.leave connection).2.session connection = none := by
  refine Lobby.session_of_unbound _ ?_
  rw [bindings_leave, if_pos rfl]

theorem Mirrored.left_match (mirrored : lobby.Mirrored) (connection : ConnectionId) :
    (lobby.leave connection).1 = (lobby.session connection).map Session.matchId := by
  cases bound : lobby.bindings.get? connection with
  | none => rw [lobby.leave_of_unbound connection bound, lobby.session_of_unbound bound]; rfl
  | some binding =>
    obtain ⟨matchId, seat⟩ := binding
    obtain ⟨session, found, rfl, _⟩ := mirrored.exists_session bound
    rw [(mirrored.leave_of_bound bound).1, found]
    rfl

/-- Connections that lose their seats have no session, and no one else is concerned. -/
theorem Mirrored.unseat {floor : Floor} (mirrored : floor.lobby.Mirrored)
    (gone : List ConnectionId) : (floor.unseat gone).lobby.Mirrored ∧
      ∀ connection, (floor.unseat gone).lobby.session connection =
        if connection ∈ gone then none else floor.lobby.session connection := by
  induction gone generalizing floor with
  | nil => exact ⟨mirrored, fun _ => rfl⟩
  | cons first rest ih =>
    have left : ({ floor with lobby := (floor.lobby.leave first).2 } : Floor).lobby.Mirrored :=
      mirrored.leave first
    obtain ⟨mirrored', sessions⟩ := ih left
    refine ⟨mirrored', ?_⟩
    intro connection
    refine (sessions connection).trans ?_
    by_cases later : connection ∈ rest
    · simp [later]
    · by_cases now : connection = first
      · subst now
        simpa [later] using floor.lobby.session_of_left connection
      · simpa [later, now] using mirrored.session_leave now

/-- Who takes a seat ends the session of whoever had it, and of nobody else. -/
theorem Mirrored.session_take (mirrored : lobby.Mirrored) {seat : Seat} {token : String}
    {other : ConnectionId} (apart : other ≠ connection) :
    (lobby.take matchId connection token seat).session other =
      if lobby.connectionAt? matchId seat = some other then none else lobby.session other := by
  have after := lobby.bindings_take matchId seat connection token other
  rw [if_neg apart] at after
  by_cases displaced : lobby.connectionAt? matchId seat = some other
  · rw [if_pos displaced] at after ⊢
    exact session_of_unbound _ after
  · rw [if_neg displaced] at after ⊢
    cases bound : lobby.bindings.get? other with
    | none => rw [lobby.session_of_unbound bound, session_of_unbound _ (after.trans bound)]
    | some binding =>
      obtain ⟨query, place⟩ := binding
      have away : ¬(query = matchId ∧ place = seat) := by
        rintro ⟨rfl, rfl⟩
        exact displaced ((mirrored.bound other query place).mp bound)
      rw [lobby.session_of_bound bound, session_of_bound _ (after.trans bound), tokenAt?_take,
        if_neg away]

/-- Who joins is refused, and nothing changes, or is given a seat. -/
theorem Mirrored.join_cases (mirrored : lobby.Mirrored) (token : String) :
    (∃ refusal, lobby.join matchId connection token = (.error refusal, lobby)) ∨
    ∃ session, (lobby.join matchId connection token).1 = .ok session ∧
      Joined lobby matchId connection session (lobby.join matchId connection token).2 := by
  have after := mirrored.join matchId connection token
  rcases lobby.join_cases matchId connection token with
    refused | ⟨session, found, here, again⟩ | ⟨seat, unbound, solid, kind, taken⟩
  · exact Or.inl refused
  · rw [again] at after ⊢
    refine Or.inr ⟨session, rfl, mirrored, here, found, ?_, fun _ _ => Or.inl rfl⟩
    intro old found'
    exact Option.some.inj (found'.symm.trans found)
  · rw [taken] at after ⊢
    refine Or.inr ⟨_, rfl, after, rfl, ?_, ?_, ?_⟩
    · have bound : (lobby.take matchId connection (Text.trim token) seat).bindings.get? connection =
          some (matchId, seat) := by
        rw [bindings_take, if_pos rfl]
      rw [session_of_bound _ bound, tokenAt?_take, if_pos ⟨rfl, rfl⟩]
      rfl
    · intro old found
      simp [lobby.session_of_unbound unbound] at found
    · intro other apart
      rw [mirrored.session_take apart]
      by_cases displaced : lobby.connectionAt? matchId seat = some other
      · rw [if_pos displaced]
        refine Or.inr ⟨rfl, ?_⟩
        have bound := (mirrored.bound other matchId seat).mpr displaced
        obtain ⟨old, found, here, place⟩ := mirrored.exists_session bound
        refine ⟨old, found, here, ?_⟩
        obtain ⟨_, known⟩ := bound_of_session found
        rw [here, place] at known
        rcases kind with same | ⟨vacant, _⟩
        · exact Option.some.inj (known.symm.trans same)
        · simp [Lobby.tokenAt?, Room.tokenAt?, vacant] at known
      · rw [if_neg displaced]
        exact Or.inl rfl

end Sessions

end Lobby

end TrucoPaulista
