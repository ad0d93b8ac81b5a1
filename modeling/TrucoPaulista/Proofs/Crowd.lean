import TrucoPaulista.Proofs.Guests

namespace TrucoPaulista

namespace Crowd

/-- Whether word to close waits at a table, or a call is about to send it. -/
def isDoomed (crowd : Crowd) (table : TableId) : Bool :=
  (crowd.inbox table).contains .close ||
    crowd.calls.values.any (fun progress => progress.stage = .dismissing table)

/-- Whether a table is to be closed no matter how far one call has come. -/
def IsDoomedBeside (crowd : Crowd) (number : Nat) (table : TableId) : Prop :=
  Letter.close ∈ crowd.inbox table ∨ ∃ other progress, other ≠ number ∧
    crowd.calls.get? other = some progress ∧ progress.stage = .dismissing table

/-- Whether everything is in order in the hall. -/
def Sound (crowd : Crowd) (guests : Guests) : Prop :=
  crowd.hall.Hosts (fun table => crowd.isDoomed table) guests

section Doomed

variable {crowd : Crowd} {number : Nat} {table : TableId} {progress : Progress}

theorem isDoomed_iff : crowd.isDoomed table ↔ Letter.close ∈ crowd.inbox table ∨
    ∃ number progress, crowd.calls.get? number = some progress ∧
      progress.stage = .dismissing table := by
  unfold isDoomed
  simp only [Bool.or_eq_true, List.contains_iff_mem, List.any_eq_true, decide_eq_true_eq,
    Dict.mem_values]
  refine or_congr_right ?_
  constructor
  · rintro ⟨progress, ⟨number, found⟩, stage⟩
    exact ⟨number, progress, found, stage⟩
  · rintro ⟨number, progress, found, stage⟩
    exact ⟨progress, ⟨number, found⟩, stage⟩

theorem isDoomed_iff_of_call (found : crowd.calls.get? number = some progress) :
    crowd.isDoomed table ↔ crowd.IsDoomedBeside number table ∨ progress.stage = .dismissing table := by
  rw [isDoomed_iff, IsDoomedBeside, or_assoc]
  refine or_congr_right ?_
  constructor
  · rintro ⟨other, progress', found', stage⟩
    by_cases same : other = number
    · subst same
      obtain rfl := Option.some.inj (found.symm.trans found')
      exact Or.inr stage
    · exact Or.inl ⟨other, progress', same, found', stage⟩
  · rintro (⟨other, progress', _, found', stage⟩ | stage)
    · exact ⟨other, progress', found', stage⟩
    · exact ⟨number, progress, found, stage⟩

theorem isDoomed_iff_of_none (missing : crowd.calls.get? number = none) :
    crowd.isDoomed table ↔ crowd.IsDoomedBeside number table := by
  rw [isDoomed_iff, IsDoomedBeside]
  refine or_congr_right ?_
  constructor
  · rintro ⟨other, progress, found, stage⟩
    refine ⟨other, progress, ?_, found, stage⟩
    rintro rfl
    simp [missing] at found
  · rintro ⟨other, progress, _, found, stage⟩
    exact ⟨other, progress, found, stage⟩

theorem isDoomed_goOn (errand : Errand) (stage : Option Stage) :
    (crowd.goOn number errand stage).isDoomed table ↔
      crowd.IsDoomedBeside number table ∨ stage = some (.dismissing table) := by
  have inbox : (crowd.goOn number errand stage).inbox table = crowd.inbox table := rfl
  have calls : ∀ other, (crowd.goOn number errand stage).calls.get? other =
      if other = number then stage.map (fun stage => ⟨errand, stage⟩) else crowd.calls.get? other := by
    intro other
    cases stage <;> simp [goOn]
  rw [isDoomed_iff, inbox, IsDoomedBeside, or_assoc]
  refine or_congr_right ?_
  constructor
  · rintro ⟨other, progress, found, there⟩
    rw [calls] at found
    split at found
    next =>
      obtain ⟨_, rfl, rfl⟩ := Option.map_eq_some_iff.mp found
      exact Or.inr (congrArg some there)
    next apart => exact Or.inl ⟨other, progress, apart, found, there⟩
  · rintro (⟨other, progress, apart, found, there⟩ | rfl)
    · exact ⟨other, progress, by rw [calls, if_neg apart, found], there⟩
    · exact ⟨number, ⟨errand, .dismissing table⟩, by simp [calls], rfl⟩

end Doomed

section Steps

variable {crowd crowd' : Crowd} {guests : Guests} {hall : Hall} {number : Nat} {errand : Errand}
  {stage : Option Stage}

/-- A call that did not have the registry, and does not come to have it, concerns no table. -/
theorem sound_goOn (hosts : hall.Hosts (fun table => crowd.isDoomed table) guests)
    (before : ∀ table, crowd.isDoomed table ↔ crowd.IsDoomedBeside number table)
    (after : ∀ table, stage ≠ some (.dismissing table)) :
    (({ crowd with hall } : Crowd).goOn number errand stage).Sound guests := by
  refine Hall.Hosts.mono hosts ?_ ?_
  · intro table doomed
    rcases (isDoomed_goOn errand stage).mp doomed with beside | same
    · exact (before table).mpr beside
    · exact absurd same (after table)
  · intro table doomed
    exact Or.inl ((isDoomed_goOn errand stage).mpr (Or.inl ((before table).mp doomed)))

/-- A call takes the table of a match in which nobody sits out of the registry. -/
theorem Sound.retire (sound : crowd.Sound guests) {matchId : MatchId} {table : TableId}
    (before : ∀ table, crowd.isDoomed table ↔ crowd.IsDoomedBeside number table)
    (empty : crowd.hall.floor.lobby.hasRoom matchId = false)
    (registered : crowd.hall.registry.get? matchId = some table) :
    (({ crowd with hall := { crowd.hall with
        registry := crowd.hall.registry.erase matchId } } : Crowd).goOn number errand
      (some (.dismissing table))).Sound guests := by
  refine Hall.Hosts.mono (Hall.Hosts.unregister sound empty registered) ?_ ?_
  · intro query doomed
    rcases (isDoomed_goOn errand _).mp doomed with beside | same
    · exact Or.inr ((before query).mpr beside)
    · cases same
      exact Or.inl rfl
  · rintro query (rfl | doomed)
    · exact Or.inl ((isDoomed_goOn errand _).mpr (Or.inr rfl))
    · exact Or.inl ((isDoomed_goOn errand _).mpr (Or.inl ((before query).mp doomed)))

theorem inbox_post (table query : TableId) (letter : Letter) : (crowd.post table letter).inbox query =
    if query = table then crowd.inbox table ++ [letter] else crowd.inbox query := by
  unfold post inbox
  rw [Dict.get?_insert]
  split <;> rfl

theorem inbox_leaveLetters (table query : TableId) (letters : List Letter) :
    (crowd.leaveLetters table letters).inbox query =
      if query = table then (if crowd.hall.isRunning table then letters else [])
      else crowd.inbox query := by
  unfold leaveLetters inbox
  rw [Dict.get?_insert]
  split <;> rfl

theorem mem_post {table query : TableId} {letter posted : Letter} :
    letter ∈ (crowd.post table posted).inbox query ↔
      letter ∈ crowd.inbox query ∨ query = table ∧ letter = posted := by
  rw [inbox_post]
  by_cases same : query = table <;> simp [same]

/-- Word to close has been sent, or the table is closed already. -/
theorem Sound.dismiss (sound : crowd.Sound guests) {table : TableId}
    (found : crowd.calls.get? number = some ⟨errand, .dismissing table⟩) :
    (crowd.hall.isRunning table = false → (crowd.goOn number errand none).Sound guests) ∧
      ((crowd.post table .close).goOn number errand none).Sound guests := by
  have before : ∀ query, crowd.isDoomed query ↔ crowd.IsDoomedBeside number query ∨
      Stage.dismissing table = .dismissing query := fun query => isDoomed_iff_of_call found
  constructor
  · intro closed
    refine Hall.Hosts.mono sound ?_ ?_
    · intro query doomed
      rcases (isDoomed_goOn errand none).mp doomed with beside | same
      · exact (before query).mpr (Or.inl beside)
      · cases same
    · intro query doomed
      rcases (before query).mp doomed with beside | same
      · exact Or.inl ((isDoomed_goOn errand none).mpr (Or.inl beside))
      · cases same
        exact Or.inr closed
  · refine Hall.Hosts.mono sound ?_ ?_
    · intro query doomed
      rcases (isDoomed_goOn errand none).mp doomed with (waits | held) | same
      · rcases mem_post.mp waits with waits' | ⟨rfl, _⟩
        · exact (before query).mpr (Or.inl (Or.inl waits'))
        · exact (before query).mpr (Or.inr rfl)
      · exact (before query).mpr (Or.inl (Or.inr held))
      · cases same
    · intro query doomed
      refine Or.inl ((isDoomed_goOn errand none).mpr (Or.inl ?_))
      rcases (before query).mp doomed with (waits | held) | same
      · exact Or.inl (mem_post.mpr (Or.inl waits))
      · exact Or.inr held
      · cases same
        exact Or.inl (mem_post.mpr (Or.inr ⟨rfl, rfl⟩))

/-- A letter other than word to close leaves the tables as they are. -/
theorem Sound.post (sound : crowd.Sound guests) {table : TableId}
    (before : ∀ table, crowd.isDoomed table ↔ crowd.IsDoomedBeside number table)
    (after : ∀ table, stage ≠ some (.dismissing table)) :
    ((crowd.post table (.errand number errand)).goOn number errand stage).Sound guests := by
  have same : ∀ query, (crowd.post table (.errand number errand)).IsDoomedBeside number query ↔
      crowd.IsDoomedBeside number query := by
    intro query
    unfold IsDoomedBeside
    rw [mem_post]
    simp [Crowd.post]
  refine Hall.Hosts.mono sound ?_ ?_
  · intro query doomed
    rcases (isDoomed_goOn errand stage).mp doomed with beside | there
    · exact (before query).mpr ((same query).mp beside)
    · exact absurd there (after query)
  · intro query doomed
    refine Or.inl ((isDoomed_goOn errand stage).mpr (Or.inl ?_))
    exact (same query).mpr ((before query).mp doomed)

theorem unanswered_ne {handle : Handle} {table : TableId} :
    errand.unanswered handle ≠ some (.dismissing table) := by
  cases errand <;> simp [Errand.unanswered]

theorem Sound.advance (sound : crowd.Sound guests) {progress : Progress}
    (found : crowd.calls.get? number = some progress)
    (made : crowd.advance number progress = some crowd') : crowd'.Sound guests := by
  obtain ⟨errand, stage⟩ := progress
  have plain : (∀ table, stage ≠ .dismissing table) → ∀ table,
      crowd.isDoomed table ↔ crowd.IsDoomedBeside number table := by
    intro other table
    rw [isDoomed_iff_of_call found]
    exact or_iff_left (other table)
  unfold Crowd.advance at made
  dsimp only at made
  cases stage with
  | begun =>
    dsimp only at made
    split at made
    next => exact Option.some.inj made ▸ sound_goOn sound (plain (by simp)) (by simp)
    next => exact Option.some.inj made ▸ sound_goOn sound (plain (by simp)) (by simp)
  | finding matchId =>
    dsimp only at made
    split at made
    next => cases made
    next =>
      split at made
      next => exact Option.some.inj made ▸ sound_goOn sound (plain (by simp)) (by simp)
      next => exact Option.some.inj made ▸ sound_goOn sound (plain (by simp)) (by simp)
  | checking matchId =>
    have kept : ((Hall.ofService (Service.doesExist matchId)).apply crowd.hall).2.Hosts
        (fun table => crowd.isDoomed table) guests := Hall.Hosts.ofService sound _
    refine Option.some.inj made ▸ sound_goOn kept (plain (by simp)) ?_
    intro table
    split <;> simp
  | opening matchId =>
    dsimp only at made
    split at made
    next => cases made
    next =>
      refine Option.some.inj made ▸ sound_goOn ?_ (plain (by simp)) (by simp)
      unfold Hall.runningOrOpen
      split
      next => exact sound
      next idle => exact sound.openTable idle
  | sending handle =>
    dsimp only at made
    split at made
    next => exact Option.some.inj made ▸ sound_goOn sound (plain (by simp)) (fun _ => unanswered_ne)
    next =>
      split at made
      next => cases made
      next => exact Option.some.inj made ▸ sound.post (plain (by simp)) (by simp)
  | waiting handle =>
    dsimp only at made
    split at made
    next => cases made
    next => exact Option.some.inj made ▸ sound_goOn sound (plain (by simp)) (fun _ => unanswered_ne)
  | retiring matchId =>
    dsimp only at made
    split at made
    next => cases made
    next =>
      split at made
      next => exact Option.some.inj made ▸ sound_goOn sound (plain (by simp)) (by simp)
      next empty =>
        split at made
        next => exact Option.some.inj made ▸ sound_goOn sound (plain (by simp)) (by simp)
        next table registered =>
          exact Option.some.inj made ▸ sound.retire (plain (by simp)) (by simpa using empty) registered
  | dismissing table =>
    obtain ⟨closed, sent⟩ := sound.dismiss found
    dsimp only at made
    split at made
    next shut => exact Option.some.inj made ▸ closed (by simpa using shut)
    next =>
      split at made
      next => cases made
      next => exact Option.some.inj made ▸ sent

theorem next_ne {reply : Reply} {handle : Handle} {table : TableId} :
    reply.next handle ≠ some (.dismissing table) := by
  cases reply <;> simp [Reply.next]

theorem Sound.receive (sound : crowd.Sound guests) (reply : Reply) :
    (crowd.receive number reply).Sound guests := by
  unfold Crowd.receive
  split
  next errand handle found =>
    refine sound_goOn sound (fun table => ?_) (fun _ => next_ne)
    rw [isDoomed_iff_of_call found]
    exact or_iff_left (by simp)
  next => exact sound

/-- What is left in the inbox of a table that has taken a letter counts as before, unless the table
is closed now. -/
theorem sound_leaveLetters (hosts : hall.Hosts (fun table => crowd.isDoomed table) guests)
    {table : TableId} {letter : Letter} {rest : List Letter} (inbox : crowd.inbox table = letter :: rest)
    (open' : hall.isRunning table → letter ≠ .close) :
    (({ crowd with hall } : Crowd).leaveLetters table rest).Sound guests := by
  have waits : ∀ query, Letter.close ∈ (({ crowd with hall } : Crowd).leaveLetters table rest).inbox
      query ↔ if query = table then hall.isRunning table ∧ Letter.close ∈ rest
        else Letter.close ∈ crowd.inbox query := by
    intro query
    rw [inbox_leaveLetters]
    by_cases same : query = table
    · cases hall.isRunning table <;> simp [same]
    · simp only [if_neg same]
      rfl
  refine Hall.Hosts.mono hosts ?_ ?_
  · intro query doomed
    rw [isDoomed_iff, waits] at doomed
    rw [isDoomed_iff]
    refine doomed.imp_left ?_
    intro there
    split at there
    next same =>
      rw [same, inbox]
      exact List.mem_cons_of_mem _ there.2
    next => exact there
  · intro query doomed
    rw [isDoomed_iff, waits]
    rcases isDoomed_iff.mp doomed with there | held
    · by_cases same : query = table
      · subst same
        cases running : hall.isRunning query with
        | false => exact Or.inr running
        | true =>
          rw [inbox] at there
          rcases List.mem_cons.mp there with first | later
          · exact absurd first.symm (open' running)
          · exact Or.inl (Or.inl (by simpa using later))
      · exact Or.inl (Or.inl (by simpa [same] using there))
    · exact Or.inl (Or.inr held)

end Steps

end Crowd

/-- The guests after a move. -/
def Guests.after (guests : Guests) (crowd : Crowd) (move : Move) : Guests :=
  match move with
  | .serve table =>
    match crowd.hall.tables.get? table, crowd.inbox table with
    | some t, .errand _ errand :: _ =>
      let (reply, hall) := errand.deliver table crowd.hall
      guests.served errand t table (crowd.isDoomed table) reply hall.floor
    | _, _ => guests
  | .hangUp queue => fun connection => (guests connection).filter (fun guest => guest.queue ≠ queue)
  | _ => guests

namespace Crowd

/-- What a crowd becomes by any moves, beginning in an empty hall over any archive, and its guests. -/
inductive Run : Crowd → Guests → Prop where
  | opened (archive : Archive) (dealer : Dealer) (rollCall : RollCall) :
      Run (.empty archive dealer rollCall) (fun _ => none)
  | moved {crowd crowd' : Crowd} {guests : Guests} (before : Run crowd guests) (move : Move)
      (made : crowd.next move = some crowd') : Run crowd' (guests.after crowd move)

section Runs

variable {crowd crowd' : Crowd} {guests : Guests}

theorem sound_empty (archive : Archive) (dealer : Dealer) (rollCall : RollCall) :
    (Crowd.empty archive dealer rollCall).Sound (fun _ => none) := by
  have quiet : ∀ table, (Crowd.empty archive dealer rollCall).isDoomed table = false := fun _ => rfl
  refine ⟨Lobby.mirrored_empty, ?_, ?_, ?_, ?_, nofun, nofun, nofun⟩
  · intro matchId id registered
    cases registered
  · intro id t found
    cases found
  · intro id t found
    cases found
  · intro id doomed
    simp [quiet] at doomed

theorem Sound.serve (sound : crowd.Sound guests) {table : TableId}
    (made : crowd.serve table = some crowd') : crowd'.Sound (guests.after crowd (.serve table)) := by
  unfold Crowd.serve at made
  split at made
  next => cases made
  next runs =>
    obtain ⟨t, found, open'⟩ : ∃ t, crowd.hall.tables.get? table = some t ∧ t.isClosed = false := by
      by_contra none'
      refine runs ?_
      rw [Bool.not_eq_true', Hall.isRunning_eq_false]
      intro t found
      by_contra open'
      exact none' ⟨t, found, by simpa using open'⟩
    unfold Guests.after
    dsimp only
    split at made
    next => cases made
    next rest inbox =>
      have doomed : crowd.isDoomed table := isDoomed_iff.mpr (Or.inl (by simp [inbox]))
      obtain ⟨hosts, shut⟩ := sound.close doomed found open'
      rw [found, inbox]
      refine Option.some.inj made ▸ sound_leaveLetters hosts inbox ?_
      intro runs'
      simp [shut] at runs'
    next number errand rest inbox =>
      have lateness : crowd.isDoomed table = true ↔ crowd.isDoomed table := Iff.rfl
      have hosts := sound.deliver found open' errand lateness
      rw [found, inbox]
      exact Option.some.inj made ▸ (sound_leaveLetters hosts inbox (by simp)).receive _

theorem Sound.next (sound : crowd.Sound guests) {move : Move}
    (made : crowd.next move = some crowd') : crowd'.Sound (guests.after crowd move) := by
  cases move with
  | begin number errand =>
    unfold Crowd.next at made
    dsimp only at made
    split at made
    next => cases made
    next free =>
      have missing : crowd.calls.get? number = none := by
        simp only [Dict.contains, Bool.or_eq_true, not_or] at free
        simpa using free.1
      refine Option.some.inj made ▸ sound_goOn sound ?_ (by simp)
      exact fun table => isDoomed_iff_of_none missing
  | advance number =>
    obtain ⟨progress, found, made'⟩ := Option.bind_eq_some_iff.mp made
    exact sound.advance found made'
  | serve table => exact sound.serve made
  | openQueue capacity =>
    refine Option.some.inj made ▸ sound.onFloor rfl ?_
    intro connection guest is
    exact ⟨is, by rw [Floor.isOpen_openQueue, (sound.seated connection guest is).2.1, Bool.or_true]⟩
  | drain queue =>
    have lobby : (crowd.hall.floor.drain queue).2.lobby = crowd.hall.floor.lobby := by
      unfold Floor.drain
      split <;> rfl
    refine Option.some.inj made ▸ sound.onFloor lobby ?_
    intro connection guest is
    exact ⟨is, by rw [Floor.isOpen_drain, (sound.seated connection guest is).2.1]⟩
  | hangUp queue =>
    refine Option.some.inj made ▸ sound.onFloor rfl ?_
    intro connection guest is
    obtain ⟨is', other⟩ := Option.filter_eq_some_iff.mp is
    refine ⟨is', ?_⟩
    rw [Floor.isOpen_hangUp, (sound.seated connection guest is').2.1, Bool.and_true]
    exact other

theorem Run.sound (run : Run crowd guests) : crowd.Sound guests := by
  induction run with
  | opened archive dealer rollCall => exact sound_empty archive dealer rollCall
  | moved _ move made sound => exact sound.next made

theorem isQuiet_iff : crowd.isQuiet ↔
    (∀ number, crowd.calls.get? number = none) ∧ ∀ table, crowd.inbox table = [] := by
  unfold isQuiet
  rw [Bool.and_eq_true, List.isEmpty_iff, List.all_eq_true]
  refine and_congr ?_ ?_
  · constructor
    · intro nobody number
      simp [Dict.get?, lookupEntry, nobody]
    · intro nobody
      refine List.eq_nil_iff_forall_not_mem.mpr ?_
      rintro ⟨number, progress⟩ member
      have found := Dict.mem_entries.mp member
      simp [nobody] at found
  · constructor
    · intro empty table
      unfold inbox
      cases found : crowd.inboxes.get? table with
      | none => rfl
      | some letters => simpa using empty letters (Dict.mem_values.mpr ⟨table, found⟩)
    · intro empty letters member
      obtain ⟨table, found⟩ := Dict.mem_values.mp member
      have none' := empty table
      simpa [inbox, found] using none'

theorem isDoomed_of_isQuiet (quiet : crowd.isQuiet) (table : TableId) :
    crowd.isDoomed table = false := by
  obtain ⟨nobody, empty⟩ := isQuiet_iff.mp quiet
  rw [← Bool.not_eq_true, isDoomed_iff]
  simp [nobody, empty]

/-- Once no call is in flight and no letter waits, a connection that was given a seat, and has not
gone since, is told of its match by the running table of the match exactly when the table that
served it was not to be closed at that time. -/
theorem Run.guest_told_iff_in_time (run : Run crowd guests) (quiet : crowd.isQuiet)
    {connection : ConnectionId} {guest : Guest} (is : guests connection = some guest) :
    (crowd.hall.running? guest.session.matchId = some ⟨guest.table, guest.session.matchId⟩ ∧
      ∃ t, crowd.hall.tables.get? guest.table = some t ∧
        t.subscribers.get? connection = some guest.queue) ↔ guest.late = false := by
  have sound := run.sound
  constructor
  · rintro ⟨running, _⟩
    by_contra late
    rw [Bool.not_eq_false] at late
    obtain ⟨_, _, t, found, open'⟩ := Hall.running?_eq_some.mp running
    rcases sound.late connection guest is late with doomed | closed
    · simp [isDoomed_of_isQuiet quiet] at doomed
    · simp [Hall.isRunning_eq_false.mp closed t found] at open'
  · intro early
    obtain ⟨registered, t, found, open', hears⟩ := sound.told connection guest is early
    exact ⟨Hall.running?_eq_some.mpr ⟨rfl, registered, t, found, open'⟩, t, found, hears⟩

/-- What moves made one after the other make of a crowd and its guests. -/
def track : List Move → Crowd × Guests → Option (Crowd × Guests)
  | [], place => some place
  | move :: moves, (crowd, guests) =>
    (crowd.next move).bind (fun crowd' => track moves (crowd', guests.after crowd move))

theorem Run.track {moves : List Move} (run : Run crowd guests) {place : Crowd × Guests}
    (made : Crowd.track moves (crowd, guests) = some place) : Run place.1 place.2 := by
  induction moves generalizing crowd guests with
  | nil => exact Option.some.inj made ▸ run
  | cons move moves ih =>
    obtain ⟨crowd', made', rest⟩ := Option.bind_eq_some_iff.mp made
    exact ih (run.moved move made') rest

theorem Run.exists_of_track (run : Run crowd guests) (moves : List Move) (p : Crowd → Guests → Bool)
    (made : (Crowd.track moves (crowd, guests)).any (fun place => p place.1 place.2)) :
    ∃ crowd guests, Run crowd guests ∧ p crowd guests := by
  obtain ⟨place, made', there⟩ := (Option.any_eq_true _ _).mp made
  exact ⟨place.1, place.2, run.track made', there⟩

/-- An archive in which the first match is stored. -/
def storing : Archive := { Archive.empty with
  stored := Dict.empty.insert "match_1" Match.standard.snapshot }

/-- The only player at a table is about to leave it when another, who was shown the way there before,
is about to sit down. -/
def crossing : List Move :=
  [.openQueue 64, .begin 0 (.join "match_1" "a" "ana" 0)] ++ List.replicate 5 (.advance 0) ++
    [.serve 0, .begin 1 (.leave "a"), .advance 1, .advance 1,
      .openQueue 64, .begin 2 (.join "match_1" "b" "bia" 1), .advance 2, .advance 2,
      .advance 1, .advance 2]

/-- The newcomer sits down before the match is looked at. -/
theorem guest_told_iff_in_time_before_retiring : ∃ crowd guests guest, Run crowd guests ∧
    crowd.isQuiet ∧ guests "b" = some guest ∧ guest.late = false ∧
    crowd.hall.running? guest.session.matchId = some ⟨guest.table, guest.session.matchId⟩ ∧
      ∃ t, crowd.hall.tables.get? guest.table = some t ∧
        t.subscribers.get? "b" = some guest.queue := by
  obtain ⟨crowd, guests, run, facts⟩ := (Run.opened storing ⟨fun _ => .four, 0⟩ .byName).exists_of_track
    (crossing ++ [.serve 0, .serve 0, .advance 1])
    (fun crowd guests => crowd.isQuiet && (guests "b").any (fun guest => !guest.late))
    (by decide +kernel)
  obtain ⟨quiet, early⟩ := Bool.and_eq_true_iff.mp facts
  obtain ⟨guest, is, early⟩ := (Option.any_eq_true _ _).mp early
  rw [Bool.not_eq_true'] at early
  exact ⟨crowd, guests, guest, run, quiet, is, early, (run.guest_told_iff_in_time quiet is).mpr early⟩

/-- The match is looked at, and its table struck off, before the newcomer sits down: the table seats
the newcomer, and then closes. -/
theorem guest_untold_after_retiring : ∃ crowd guests guest, Run crowd guests ∧
    crowd.isQuiet ∧ guests "b" = some guest ∧
    crowd.hall.floor.lobby.session "b" = some guest.session ∧
    crowd.hall.running? guest.session.matchId = none := by
  obtain ⟨crowd, guests, run, facts⟩ := (Run.opened storing ⟨fun _ => .four, 0⟩ .byName).exists_of_track
    (crossing ++ [.serve 0, .advance 1, .advance 1, .serve 0, .serve 0])
    (fun crowd guests => crowd.isQuiet && (guests "b").any (fun guest =>
      (crowd.hall.running? guest.session.matchId).isNone))
    (by decide +kernel)
  obtain ⟨quiet, guest⟩ := Bool.and_eq_true_iff.mp facts
  obtain ⟨guest, is, closed⟩ := (Option.any_eq_true _ _).mp guest
  exact ⟨crowd, guests, guest, run, quiet, is, (run.sound.seated "b" guest is).1,
    Option.isNone_iff_eq_none.mp closed⟩

end Runs

end Crowd

end TrucoPaulista
