import TrucoPaulista.Proofs.Handled

namespace TrucoPaulista

/-- The queues over which connections were told of their matches last. -/
abbrev Given := ConnectionId → Option QueueId

/-- The queues once a connection was given another one. -/
def Given.put (given : Given) (connection : ConnectionId) (queue : QueueId) : Given :=
  fun other => if other = connection then some queue else given other

namespace AtTable

/-- Whether those that are told of a match are the ones that sit in it, except for those that have
hung up. -/
structure Attended (place : AtTable) (given : Given) : Prop where
  seated : ∀ connection queue, place.table.subscribers.get? connection = some queue →
    given connection = some queue ∧ ∃ session,
      place.floor.lobby.session connection = some session ∧ session.matchId = place.table.matchId
  served : ∀ connection session, place.floor.lobby.session connection = some session →
    session.matchId = place.table.matchId → ∃ queue, given connection = some queue ∧
      queue < place.floor.opened ∧
      (place.floor.isOpen queue → place.table.subscribers.get? connection = some queue)
  shut : place.table.isClosed → place.floor.lobby.hasRoom place.table.matchId = false

/-- What a message does at a table that is attended: the players of all other matches are left
alone. -/
structure Serves (place : AtTable) (given : Given) (place' : AtTable) (given' : Given) : Prop where
  name : place'.table.matchId = place.table.matchId
  mirrored : place'.floor.lobby.Mirrored
  opened : place'.floor.opened = place.floor.opened
  isOpen : ∀ queue, place'.floor.isOpen queue = place.floor.isOpen queue
  attended : place'.Attended given'
  elsewhere : ∀ connection session, session.matchId ≠ place.table.matchId →
    (place'.floor.lobby.session connection = some session ↔
      place.floor.lobby.session connection = some session)
  given : ∀ connection session, place'.floor.lobby.session connection = some session →
    session.matchId ≠ place.table.matchId → given' connection = given connection

section Serves

variable {place mid place' : AtTable} {given given' given'' : Given}

theorem Serves.trans (first : place.Serves given mid given') (second : mid.Serves given' place' given'') :
    place.Serves given place' given'' where
  name := second.name.trans first.name
  mirrored := second.mirrored
  opened := second.opened.trans first.opened
  isOpen queue := (second.isOpen queue).trans (first.isOpen queue)
  attended := second.attended
  elsewhere connection session away := by
    have away' : session.matchId ≠ mid.table.matchId := first.name ▸ away
    exact (second.elsewhere connection session away').trans (first.elsewhere connection session away)
  given connection session found away := by
    have away' : session.matchId ≠ mid.table.matchId := first.name ▸ away
    have found' := (second.elsewhere connection session away').mp found
    exact (second.given connection session found away').trans
      (first.given connection session found' away)

theorem Serves.hasRoom_iff (serves : place.Serves given place' given')
    (mirrored : place.floor.lobby.Mirrored) {matchId : MatchId} (away : matchId ≠ place.table.matchId) :
    place'.floor.lobby.hasRoom matchId ↔ place.floor.lobby.hasRoom matchId := by
  rw [serves.mirrored.hasRoom_iff_session, mirrored.hasRoom_iff_session]
  constructor
  · rintro ⟨connection, session, found, rfl⟩
    exact ⟨connection, session, (serves.elsewhere connection session away).mp found, rfl⟩
  · rintro ⟨connection, session, found, rfl⟩
    exact ⟨connection, session, (serves.elsewhere connection session away).mpr found, rfl⟩

theorem Attended.stirs (attended : place.Attended given) (mirrored : place.floor.lobby.Mirrored)
    (stirs : place.Stirs place') : place.Serves given place' given := by
  have stays : ∀ connection session, place'.floor.lobby.session connection = some session →
      place.floor.lobby.session connection = some session := by
    intro connection session found
    rcases stirs.session connection with same | ⟨gone, _⟩
    · rw [← same, found]
    · simp [gone] at found
  refine ⟨stirs.name, stirs.mirrored, stirs.opened, stirs.isOpen, ⟨?_, ?_, ?_⟩, ?_, fun _ _ _ _ => rfl⟩
  · intro connection queue told
    obtain ⟨told', same⟩ := stirs.kept connection queue told
    rw [same, stirs.name]
    exact attended.seated connection queue told'
  · intro connection session found here
    obtain ⟨queue, had, known, told⟩ :=
      attended.served connection session (stays connection session found) (here.trans stirs.name)
    refine ⟨queue, had, known.trans_eq stirs.opened.symm, ?_⟩
    intro opens
    rw [stirs.isOpen] at opens
    exact stirs.told connection queue (told opens) opens (Option.isSome_of_eq_some found)
  · intro closed
    rw [stirs.name]
    rcases stirs.shut closed with closed' | empty
    · by_contra open'
      rw [Bool.not_eq_false] at open'
      simpa [attended.shut closed'] using stirs.hasRoom mirrored open'
    · exact empty
  · intro connection session away
    refine ⟨stays connection session, ?_⟩
    intro found
    rcases stirs.session connection with same | ⟨_, queue, told, _⟩
    · rw [same, found]
    · obtain ⟨_, session', found', here⟩ := attended.seated connection queue told
      obtain rfl : session = session' := Option.some.inj (found.symm.trans found')
      exact absurd here away

/-- An open table serves whoever sits down with a queue that there is. -/
theorem Attended.welcomes {connection : ConnectionId} {queue : QueueId} {session : Session}
    (attended : place.Attended given) (open' : place.table.isClosed = false)
    (known : queue < place.floor.opened)
    (welcomes : place.Welcomes connection queue session place') :
    place.Serves given place' (given.put connection queue) := by
  obtain ⟨mirrored, here, seat, before, others⟩ := welcomes.joined
  have stays : ∀ other session', other ≠ connection →
      place'.floor.lobby.session other = some session' →
      place.floor.lobby.session other = some session' := by
    intro other session' apart found
    rcases others other apart with same | ⟨gone, _⟩
    · rw [← same, found]
    · simp [gone] at found
  have opens : ∀ query, place'.floor.isOpen query = place.floor.isOpen query :=
    fun query => by rw [Floor.isOpen, Floor.isOpen, welcomes.queues]
  refine ⟨welcomes.name, mirrored, welcomes.opened, opens, ⟨?_, ?_, ?_⟩, ?_, ?_⟩
  · intro other waiting told
    obtain ⟨had, seated⟩ := (welcomes.subscribers other waiting).mp told
    rw [welcomes.name]
    by_cases same : other = connection
    · rw [if_pos same] at had
      exact ⟨by simp [Given.put, same, had], session, same ▸ seat, here⟩
    · rw [if_neg same] at had
      obtain ⟨given', session', found', here'⟩ := attended.seated other waiting had
      obtain ⟨session'', found''⟩ := Option.isSome_iff_exists.mp seated
      obtain rfl : session' = session'' :=
        Option.some.inj (found'.symm.trans (stays other session'' same found''))
      exact ⟨by simp [Given.put, same, given'], session', found'', here'⟩
  · intro other session' found here'
    rw [welcomes.name] at here'
    have seated := Option.isSome_of_eq_some found
    by_cases same : other = connection
    · refine ⟨queue, by simp [Given.put, same], known.trans_eq welcomes.opened.symm, fun _ => ?_⟩
      exact (welcomes.subscribers other queue).mpr ⟨by simp [same], seated⟩
    · obtain ⟨waiting, had, known', told⟩ :=
        attended.served other session' (stays other session' same found) here'
      refine ⟨waiting, by simp [Given.put, same, had], known'.trans_eq welcomes.opened.symm, ?_⟩
      intro opens'
      rw [opens] at opens'
      exact (welcomes.subscribers other waiting).mpr ⟨by simp [same, told opens'], seated⟩
  · intro closed
    simp [welcomes.isClosed, open'] at closed
  · intro other session' away
    by_cases same : other = connection
    · subst same
      constructor
      · intro found
        exact absurd (Option.some.inj (seat.symm.trans found) ▸ here) away
      · intro found
        exact absurd (before session' found ▸ here) away
    · refine ⟨stays other session' same, ?_⟩
      intro found
      rcases others other same with unmoved | ⟨_, old, found', here', _⟩
      · rw [unmoved, found]
      · obtain rfl : session' = old := Option.some.inj (found.symm.trans found')
        exact absurd here' away
  · intro other session' found away
    by_cases same : other = connection
    · rw [same, seat] at found
      exact absurd (Option.some.inj found ▸ here) away
    · simp [Given.put, same]

/-- A table serves those that stay when one of its players has gone. -/
theorem Attended.loses {connection : ConnectionId} (attended : place.Attended given)
    (mirrored : place.floor.lobby.Mirrored)
    (here : ∀ session, place.floor.lobby.session connection = some session →
      session.matchId = place.table.matchId)
    (loses : place.Loses connection place') : place.Serves given place' given := by
  have opens : ∀ query, place'.floor.isOpen query = place.floor.isOpen query :=
    fun query => by rw [Floor.isOpen, Floor.isOpen, loses.queues]
  have stays : ∀ other session, place'.floor.lobby.session other = some session ↔
      other ≠ connection ∧ place.floor.lobby.session other = some session := by
    intro other session
    rw [loses.session]
    split
    next gone => simp [gone]
    next apart => simp [apart]
  refine ⟨loses.name, loses.mirrored, loses.opened, opens, ⟨?_, ?_, ?_⟩, ?_, fun _ _ _ _ => rfl⟩
  · intro other queue told
    rw [loses.subscribers, Dict.get?_erase] at told
    split at told
    next => cases told
    next apart =>
      obtain ⟨had, session, found, here'⟩ := attended.seated other queue told
      rw [loses.name]
      exact ⟨had, session, (stays other session).mpr ⟨apart, found⟩, here'⟩
  · intro other session found here'
    obtain ⟨apart, found'⟩ := (stays other session).mp found
    rw [loses.name] at here'
    obtain ⟨queue, had, known, told⟩ := attended.served other session found' here'
    refine ⟨queue, had, known.trans_eq loses.opened.symm, ?_⟩
    intro opens'
    rw [opens] at opens'
    rw [loses.subscribers, Dict.get?_erase, if_neg apart]
    exact told opens'
  · intro closed
    rw [loses.isClosed] at closed
    rw [loses.name]
    by_contra open'
    rw [Bool.not_eq_false] at open'
    have before := Lobby.hasRoom_of_fewer mirrored loses.mirrored (fun other => by
      rw [loses.session]
      split
      next => exact Or.inr rfl
      next => exact Or.inl rfl) open'
    simp [attended.shut closed] at before
  · intro other session away
    rw [stays]
    refine and_iff_right_of_imp ?_
    rintro found rfl
    exact away (here session found)

/-- Those at another table notice nothing. -/
theorem Attended.elsewhere {t : Table} (attended : Attended ⟨t, place.floor⟩ given)
    (mirrored : place.floor.lobby.Mirrored) (away : t.matchId ≠ place.table.matchId)
    (serves : place.Serves given place' given') : Attended ⟨t, place'.floor⟩ given' := by
  refine ⟨?_, ?_, ?_⟩
  · intro connection queue told
    obtain ⟨had, session, found, here⟩ := attended.seated connection queue told
    have away' : session.matchId ≠ place.table.matchId := by rwa [here]
    have found' := (serves.elsewhere connection session away').mpr found
    exact ⟨(serves.given connection session found' away').trans had, session, found', here⟩
  · intro connection session found here
    have away' : session.matchId ≠ place.table.matchId := by rwa [here]
    have found' := (serves.elsewhere connection session away').mp found
    obtain ⟨queue, had, known, told⟩ := attended.served connection session found' here
    refine ⟨queue, (serves.given connection session found away').trans had,
      known.trans_eq serves.opened.symm, ?_⟩
    intro opens
    exact told ((serves.isOpen queue).symm.trans opens)
  · intro closed
    have empty := attended.shut closed
    by_contra open'
    rw [Bool.not_eq_false] at open'
    have open'' := (serves.hasRoom_iff mirrored away).mp open'
    simp [empty] at open''

/-- Whether the table is closed exactly when nobody sits at it. -/
def IsEven (place : AtTable) : Prop :=
  place.table.isClosed = !place.floor.lobby.hasRoom place.table.matchId

/-- What a step at a table that is attended does, by the queues that its answer gives. -/
def Replies {α : Type} (place : AtTable) (given : Given) (step : TableStep α) (given' : α → Given) :
    Prop :=
  step.Yields place
    (fun answer place' => place.Serves given place' (given' answer) ∧ place'.IsEven)
    (fun _ place' => place.Serves given place' given ∧ (place.IsEven → place'.IsEven))

theorem Stirs.isEven (stirs : place.Stirs place') (even : place.IsEven) : place'.IsEven := by
  unfold IsEven
  rw [stirs.name]
  exact stirs.settled even

end Serves

section Replies

variable {place : AtTable} {given : Given}

theorem isEven_of_session (mirrored : place.floor.lobby.Mirrored) (open' : place.table.isClosed = false)
    {connection : ConnectionId} {session : Session}
    (found : place.floor.lobby.session connection = some session)
    (here : session.matchId = place.table.matchId) : place.IsEven := by
  have room := mirrored.hasRoom_iff_session.mpr ⟨connection, session, found, here⟩
  simp [IsEven, open', room]

variable (attended : place.Attended given) (mirrored : place.floor.lobby.Mirrored)

include attended mirrored

/-- A step that only stirs those at the table, and that gives an answer only to one of them. -/
theorem replies_of_stirs {α : Type} {step : TableStep α}
    (yields : step.Yields place (fun _ place' => place.Stirs place' ∧ place.IsEven)
      (fun _ place' => place.Stirs place')) : place.Replies given step (fun _ => given) := by
  refine yields.mono ?_ ?_
  · rintro _ place' ⟨stirs, even⟩
    exact ⟨attended.stirs mirrored stirs, stirs.isEven even⟩
  · intro _ place' stirs
    exact ⟨attended.stirs mirrored stirs, stirs.isEven⟩

/-- To join an open table is served, and the queue of the connection is the new one. -/
theorem join_replies (open' : place.table.isClosed = false) (connection : ConnectionId)
    (token : String) {queue : QueueId} (known : queue < place.floor.opened) :
    place.Replies given (AtTable.join connection token queue)
      (fun _ => given.put connection queue) := by
  refine (join_yields mirrored connection token queue).mono ?_ ?_
  · rintro session place' ⟨mid, welcomes, stirs⟩
    have first := attended.welcomes open' known welcomes
    have even : mid.IsEven := by
      refine isEven_of_session first.mirrored (welcomes.isClosed.trans open') welcomes.joined.seated ?_
      rw [welcomes.joined.here, welcomes.name]
    exact ⟨first.trans (first.attended.stirs first.mirrored stirs), stirs.isEven even⟩
  · intro _ place' stirs
    exact ⟨attended.stirs mirrored stirs, stirs.isEven⟩

theorem setReady_replies (even : place.IsEven) (connection : ConnectionId) (ready : Bool) :
    place.Replies given (AtTable.setReady connection ready) (fun _ => given) := by
  refine replies_of_stirs attended mirrored ((setReady_yields mirrored connection ready).mono ?_ ?_)
  · exact fun _ _ stirs => ⟨stirs, even⟩
  · exact fun _ _ stirs => stirs

theorem startHand_replies (open' : place.table.isClosed = false) (connection : ConnectionId)
    (vira : Option Rank) : place.Replies given (AtTable.startHand connection vira) (fun _ => given) := by
  refine replies_of_stirs attended mirrored ((startHand_yields mirrored connection vira).mono ?_ ?_)
  · rintro _ place' ⟨stirs, session, found, here⟩
    exact ⟨stirs, isEven_of_session mirrored open' found here⟩
  · exact fun _ _ stirs => stirs

theorem playCard_replies (open' : place.table.isClosed = false) (connection : ConnectionId)
    (card : Card) : place.Replies given (AtTable.playCard connection card) (fun _ => given) := by
  refine replies_of_stirs attended mirrored ((playCard_yields mirrored connection card).mono ?_ ?_)
  · rintro _ place' ⟨stirs, session, found, here⟩
    exact ⟨stirs, isEven_of_session mirrored open' found here⟩
  · exact fun _ _ stirs => stirs

theorem getState_replies (even : place.IsEven) :
    place.Replies given AtTable.getState (fun _ => given) := by
  refine replies_of_stirs attended mirrored ((getState_yields mirrored).mono ?_ ?_)
  · exact fun _ _ stirs => ⟨stirs, even⟩
  · exact fun _ _ stirs => stirs

/-- A table serves those that stay when one of its players leaves, and the one that leaves has no
seat. -/
theorem leave_serves (connection : ConnectionId)
    (here : ∀ session, place.floor.lobby.session connection = some session →
      session.matchId = place.table.matchId) :
    place.Serves given (place.leave connection).2 given ∧
      (place.leave connection).2.floor.lobby.session connection = none := by
  obtain ⟨_, mid, loses, stirs⟩ := leave_loses mirrored connection
  have first := attended.loses mirrored here loses
  have gone : mid.floor.lobby.session connection = none := by rw [loses.session, if_pos rfl]
  refine ⟨first.trans (first.attended.stirs first.mirrored stirs), ?_⟩
  rcases stirs.session connection with same | ⟨gone, _⟩
  · rw [same, gone]
  · exact gone

end Replies

end AtTable

end TrucoPaulista
