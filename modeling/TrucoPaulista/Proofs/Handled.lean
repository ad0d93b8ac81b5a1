import TrucoPaulista.Proofs.Audience

namespace TrucoPaulista

/-- A lobby that gives a seat changes as it should, and one that refuses does not change. -/
theorem Lobby.Mirrored.join_yields {lobby : Lobby} {matchId : MatchId} (mirrored : lobby.Mirrored)
    (connection : ConnectionId) (token : String) :
    (Action.ofStep (fun lobby => Lobby.join lobby matchId connection token)).Yields lobby
      (fun session lobby' => Lobby.Joined lobby matchId connection session lobby')
      (fun _ lobby' => lobby' = lobby) := by
  constructor
  · intro session lobby' answered
    rw [Action.apply_ofStep] at answered
    rcases mirrored.join_cases token with ⟨refusal, refused⟩ | ⟨session', answered', joined⟩
    · cases refused.symm.trans answered
    · rw [answered] at answered' joined
      obtain rfl : session = session' := Except.ok.inj answered'
      exact joined
  · intro refusal lobby' refused
    rw [Action.apply_ofStep] at refused
    rcases mirrored.join_cases token with ⟨_, refused'⟩ | ⟨session', answered, _⟩
    · exact congrArg Prod.snd (refused.symm.trans refused')
    · simp [refused] at answered

namespace AtTable

/-- What a place is once a connection has sat down, before anybody is told. -/
structure Welcomes (place : AtTable) (connection : ConnectionId) (queue : QueueId)
    (session : Session) (place' : AtTable) : Prop where
  name : place'.table.matchId = place.table.matchId
  isClosed : place'.table.isClosed = place.table.isClosed
  queues : place'.floor.queues = place.floor.queues
  opened : place'.floor.opened = place.floor.opened
  joined : Lobby.Joined place.floor.lobby place.table.matchId connection session place'.floor.lobby
  subscribers : ∀ other waiting, place'.table.subscribers.get? other = some waiting ↔
    (if other = connection then queue = waiting
      else place.table.subscribers.get? other = some waiting) ∧
    (place'.floor.lobby.session other).isSome

/-- What a place is once a connection has gone, before anybody is told. -/
structure Loses (place : AtTable) (connection : ConnectionId) (place' : AtTable) : Prop where
  name : place'.table.matchId = place.table.matchId
  isClosed : place'.table.isClosed = place.table.isClosed
  queues : place'.floor.queues = place.floor.queues
  opened : place'.floor.opened = place.floor.opened
  mirrored : place'.floor.lobby.Mirrored
  session : ∀ other, place'.floor.lobby.session other =
    if other = connection then none else place.floor.lobby.session other
  subscribers : place'.table.subscribers = place.table.subscribers.erase connection

section Handlers

variable {place mid : AtTable}

theorem Stirs.refl (mirrored : place.floor.lobby.Mirrored) : place.Stirs place :=
  stirs_of_same mirrored rfl rfl rfl (.refl _)

theorem Stirs.broadcast (stirs : place.Stirs mid) (event : Event) : place.Stirs (mid.broadcast event) :=
  stirs.trans (stirs_broadcast stirs.mirrored event)

theorem Stirs.broadcastRoom (stirs : place.Stirs mid) : place.Stirs mid.broadcastRoom :=
  stirs.broadcast _

theorem Stirs.yields_onService (stirs : place.Stirs mid) {α : Type} (step : Service.Step α) :
    (onFloor (FloorStep.ofService step)).Yields mid (fun _ place' => place.Stirs place')
      (fun _ place' => place.Stirs place') := by
  refine Action.yields_of_apply _ (stirs.trans ?_)
  exact stirs_of_same stirs.mirrored rfl rfl rfl (.refl _)

theorem Stirs.yields_onLobby (stirs : place.Stirs mid) {α : Type}
    (step : Lobby → Except RoomError α × Lobby)
    (same : Lobby.SameSeats mid.floor.lobby (step mid.floor.lobby).2) :
    (onFloor (FloorStep.ofLobby step)).Yields mid (fun _ place' => place.Stirs place')
      (fun _ place' => place.Stirs place') := by
  refine Action.yields_of_apply _ (stirs.trans ?_)
  exact stirs_of_same stirs.mirrored rfl rfl rfl same

theorem Stirs.yields_pickVira (stirs : place.Stirs mid) (vira : Option Rank) :
    (pickVira vira).Yields mid (fun _ place' => place.Stirs place')
      (fun _ place' => place.Stirs place') := by
  unfold pickVira
  split
  next => exact Action.yields_pure.mpr stirs
  next =>
    refine Action.yields_of_apply _ (stirs.trans ?_)
    exact stirs_of_same stirs.mirrored rfl rfl rfl (.refl _)

theorem Stirs.passTurn (stirs : place.Stirs mid) (side : Side) (outcome : PlayOutcome) :
    place.Stirs (AtTable.passTurn side outcome mid) := by
  refine stirs.trans (stirs_of_same stirs.mirrored rfl rfl rfl ?_)
  unfold AtTable.passTurn
  dsimp only
  split
  next => exact Lobby.sameSeats_change _ _ (fun _ => rfl)
  next => exact Lobby.sameSeats_change _ _ (fun room => room.chairs_advanceTurn _)

variable (mirrored : place.floor.lobby.Mirrored)

include mirrored

/-- Who joins is welcomed, and then those at the table are told things. -/
theorem join_yields (connection : ConnectionId) (token : String) (queue : QueueId) :
    (AtTable.join connection token queue).Yields place
      (fun session place' => ∃ mid, place.Welcomes connection queue session mid ∧ mid.Stirs place')
      (fun _ place' => place.Stirs place') := by
  unfold AtTable.join
  simp only [Action.yields_bind, Action.yields_look]
  have looked : (onFloor (FloorStep.ofService (Service.doesExist place.table.matchId))).Yields place
      (fun _ place' => ∃ archive, place' = { place with floor := { place.floor with archive } })
      (fun _ place' => ∃ archive, place' = { place with floor := { place.floor with archive } }) :=
    Action.yields_of_apply _ ⟨_, rfl⟩
  refine looked.mono ?_ ?_
  · rintro found _ ⟨archive, rfl⟩
    cases found with
    | false => exact Action.yields_throw.mpr (stirs_of_same mirrored rfl rfl rfl (.refl _))
    | true =>
      simp only [Bool.not_true, Bool.false_eq_true, if_false, Action.yields_bind, yields_change,
        Action.yields_pure, onFloor, FloorStep.ofLobby, Action.yields_on, Action.yields_mapRefusal]
      refine (mirrored.join_yields connection token).mono ?_ ?_
      · intro session lobby joined
        refine ⟨_, ?_, stirs_broadcast joined.mirrored _⟩
        refine ⟨rfl, rfl, rfl, rfl, joined, ?_⟩
        intro other waiting
        simp only [subscribe, Dict.get?_filter_eq_some, Dict.get?_insert]
        split <;> simp
      · rintro _ _ rfl
        exact stirs_of_same mirrored rfl rfl rfl (.refl _)
  · rintro _ _ ⟨archive, rfl⟩
    exact stirs_of_same mirrored rfl rfl rfl (.refl _)

theorem setReady_yields (connection : ConnectionId) (ready : Bool) :
    (AtTable.setReady connection ready).Yields place (fun _ place' => place.Stirs place')
      (fun _ place' => place.Stirs place') := by
  unfold AtTable.setReady
  simp only [Action.yields_bind, yields_change, Action.yields_pure]
  refine (seated_yields place connection).mono ?_ ?_
  · rintro session _ ⟨rfl, _⟩
    have readied := (Stirs.refl mirrored).yields_onLobby (fun lobby => lobby.setReady connection ready)
      (Lobby.sameSeats_setReady _ connection ready)
    refine readied.mono ?_ (fun _ _ => id)
    intro view place' stirs
    exact stirs.broadcast _
  · rintro _ _ ⟨rfl, _⟩
    exact .refl mirrored

/-- Only a player of the match starts a hand, and it takes no seat from anybody whose queue is not
full. -/
theorem startHand_yields (connection : ConnectionId) (vira : Option Rank) :
    (AtTable.startHand connection vira).Yields place
      (fun _ place' => place.Stirs place' ∧ ∃ session,
        place.floor.lobby.session connection = some session ∧ session.matchId = place.table.matchId)
      (fun _ place' => place.Stirs place') := by
  unfold AtTable.startHand
  simp only [Action.yields_bind, Action.yields_look]
  refine (seated_yields place connection).mono ?_ ?_
  · rintro session _ ⟨rfl, found, here⟩
    split
    next => exact Action.yields_throw.mpr (.refl mirrored)
    next =>
      simp only [Action.yields_bind, yields_change, Action.yields_pure]
      refine ((Stirs.refl mirrored).yields_pickVira vira).mono ?_ (fun _ _ => id)
      intro rank mid stirs
      refine (stirs.yields_onService _).mono ?_ (fun _ _ => id)
      intro start mid stirs
      refine (stirs.yields_onLobby _ ?_).mono ?_ (fun _ _ => id)
      · split
        next => exact Lobby.sameSeats_change _ _ (fun _ => rfl)
        next => exact Lobby.sameSeats_change _ _ (fun room => room.chairs_resumeHand _)
      · intro _ mid stirs
        refine (stirs.yields_onService _).mono ?_ (fun _ _ => id)
        intro state mid stirs
        exact ⟨((stirs.broadcast _).broadcast _).broadcastRoom, session, found, here⟩
  · rintro _ _ ⟨rfl, _⟩
    exact .refl mirrored

/-- Only a player of the match plays a card, and it takes no seat from anybody whose queue is not
full. -/
theorem playCard_yields (connection : ConnectionId) (card : Card) :
    (AtTable.playCard connection card).Yields place
      (fun _ place' => place.Stirs place' ∧ ∃ session,
        place.floor.lobby.session connection = some session ∧ session.matchId = place.table.matchId)
      (fun _ place' => place.Stirs place') := by
  unfold AtTable.playCard
  simp only [Action.yields_bind, Action.yields_look]
  refine (seated_yields place connection).mono ?_ ?_
  · rintro session _ ⟨rfl, found, here⟩
    split
    next => exact Action.yields_throw.mpr (.refl mirrored)
    next =>
      simp only [Action.yields_bind, yields_change, Action.yields_pure]
      refine ((Stirs.refl mirrored).yields_onService _).mono ?_ (fun _ _ => id)
      intro result mid stirs
      have passed := stirs.passTurn session.seat.side result.outcome
      exact ⟨((passed.broadcast _).broadcast _).broadcastRoom, session, found, here⟩
  · rintro _ _ ⟨rfl, _⟩
    exact .refl mirrored

theorem getState_yields : AtTable.getState.Yields place (fun _ place' => place.Stirs place')
    (fun _ place' => place.Stirs place') := by
  unfold AtTable.getState
  simp only [Action.yields_bind, Action.yields_look]
  exact (Stirs.refl mirrored).yields_onService _

theorem leave_loses (connection : ConnectionId) :
    (place.leave connection).1 = (place.floor.lobby.session connection).map Session.matchId ∧
      ∃ mid, place.Loses connection mid ∧ mid.Stirs (place.leave connection).2 := by
  have gone : ∀ other, (place.floor.lobby.leave connection).2.session other =
      if other = connection then none else place.floor.lobby.session other := by
    intro other
    by_cases same : other = connection
    · rw [if_pos same, same, Lobby.session_of_left]
    · rw [if_neg same, mirrored.session_leave same]
  have mirrored' := mirrored.leave connection
  have left := mirrored.left_match connection
  rcases answer : place.floor.lobby.leave connection with ⟨left', lobby⟩
  rw [answer] at gone mirrored' left
  obtain ⟨mid, stands⟩ : ∃ mid : AtTable, mid =
    ⟨{ place.table with subscribers := place.table.subscribers.erase connection },
      { place.floor with lobby }⟩ := ⟨_, rfl⟩
  have loses : place.Loses connection mid := by
    rw [stands]
    exact ⟨rfl, rfl, rfl, rfl, mirrored', gone, rfl⟩
  rw [← left]
  cases left' with
  | none =>
    have done : place.leave connection = (none, mid) := by simp [leave, answer, stands]
    rw [done]
    exact ⟨rfl, mid, loses, .refl loses.mirrored⟩
  | some matchId =>
    have done : place.leave connection = (some matchId, mid.broadcastRoom) := by
      simp [leave, answer, stands]
    rw [done]
    exact ⟨rfl, mid, loses, (Stirs.refl loses.mirrored).broadcastRoom⟩

end Handlers

end AtTable

end TrucoPaulista
