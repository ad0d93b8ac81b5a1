import TrucoPaulista.Proofs.Restore
import TrucoPaulista.Proofs.Service

namespace TrucoPaulista

namespace Archive

/-- The hand in the match that a player names, if the match can be read and has one. -/
def hand (archive : Archive) (text : String) : Option Hand :=
  (archive.named text).toOption.bind (fun named => named.2.hand)

section Hands

variable {archive : Archive} {text : String} {matchId : MatchId} {m m' : Match}

theorem lookup_eq_ok : archive.lookup matchId = .ok m ↔
    ∃ stored, archive.stored.get? matchId = some stored ∧ stored.restore = .ok m := by
  unfold lookup
  cases archive.stored.get? matchId with
  | none => simp
  | some stored => cases restored : stored.restore <;> simp [restored]

theorem sound_of_named (named : archive.named text = .ok (matchId, m)) : m.Sound := by
  obtain ⟨stored, _, restored⟩ := lookup_eq_ok.mp (named_eq_ok.mp named).2
  exact Match.sound_of_restore restored

theorem hand_of_named (named : archive.named text = .ok (matchId, m)) :
    archive.hand text = m.hand := by
  simp [hand, named, Except.toOption]

theorem hand_put (named : archive.named text = .ok (matchId, m)) (sound : m'.Sound) :
    (archive.put matchId m').hand text = m'.hand := by
  have loaded : (archive.put matchId m').lookup matchId = .ok m' :=
    lookup_eq_ok.mpr ⟨m'.snapshot, by simp, sound.restore_snapshot⟩
  exact hand_of_named (named_eq_ok.mpr ⟨(named_eq_ok.mp named).1, loaded⟩)

theorem hand_congr {archive' : Archive} (same : archive'.stored.get? (Text.trim text) =
    archive.stored.get? (Text.trim text)) : archive'.hand text = archive.hand text := by
  unfold hand named lookup
  cases name : Request.matchId text with
  | error refusal => rfl
  | ok matchId =>
    obtain ⟨rfl, _⟩ := Request.matchId_eq_ok.mp name
    simp only [bind, Except.bind, same]

theorem hand_eq_some {h : Hand} (found : archive.hand text = some h) :
    ∃ stored m, archive.stored.get? (Text.trim text) = some stored ∧ stored.restore = .ok m ∧
      m.state = .inProgress ∧ m.hand = some h := by
  unfold hand at found
  cases named : archive.named text with
  | error refusal => simp [named, Except.toOption] at found
  | ok entry =>
    obtain ⟨matchId, m⟩ := entry
    simp only [named, Except.toOption, Option.bind_some] at found
    obtain ⟨name, loaded⟩ := named_eq_ok.mp named
    obtain ⟨rfl, _⟩ := Request.matchId_eq_ok.mp name
    obtain ⟨stored, there, restored⟩ := lookup_eq_ok.mp loaded
    have state := (Match.sound_of_restore restored).inProgress.mpr (by simp [found])
    exact ⟨stored, m, there, restored, state, found⟩

end Hands

end Archive

namespace Service

section Hands

variable (archive : Archive) (text : String)

/-- A hand that is started is stored and awaits nobody. One that goes on is the one that was stored, and
awaits whom it did. -/
theorem startHand_yields (vira : Rank) :
    Action.Yields (startHand text vira) archive
      (fun start archive' => ∃ h, archive'.hand text = some h ∧ start.awaiting = h.awaiting ∧
        if start.started then h.awaiting = none else archive.hand text = some h)
      (fun _ archive' => archive'.hand text = archive.hand text) := by
  rcases startHand_cases archive text vira with
    ⟨_, _, _, done⟩ | ⟨_, _, _, done⟩ | ⟨_, _, _, _, _, _, done⟩ |
    ⟨matchId, m, m', outcome, named, begun, done⟩
  · exact (Action.yields_iff_of_error done).mpr rfl
  · exact (Action.yields_iff_of_error done).mpr rfl
  · exact (Action.yields_iff_of_error done).mpr rfl
  · rw [Action.yields_iff_of_ok done]
    have sound := Archive.sound_of_named named
    rcases m.start_cases vira with ⟨_, ended⟩ | ⟨state, going⟩ | ⟨_, started⟩
    · simp [ended] at begun
    · rw [going] at begun
      obtain ⟨same, rfl⟩ := Prod.mk.inj begun
      obtain rfl := Except.ok.inj same
      obtain ⟨h, found, _⟩ := sound.hand_of_inProgress state
      have hand := (Archive.hand_of_named named).trans found
      exact ⟨h, hand, by simp [Match.handStart, found], by simpa [Match.handStart] using hand⟩
    · have kept := sound.start vira
      rw [begun] at started
      obtain ⟨same, made⟩ := Prod.mk.inj started
      obtain rfl := Except.ok.inj same
      rw [begun] at kept
      have found : m'.hand = some (.start vira) := by rw [made]
      have fresh : (Hand.start vira).awaiting = none := Hand.awaiting_of_start rfl
      refine ⟨.start vira, ?_, by simp [Match.handStart, found], by simpa [Match.handStart] using fresh⟩
      have later : (archive.after 2).named text = .ok (matchId, m) := named
      rw [if_pos rfl, Archive.hand_put later kept, found]

/-- A card of a side leaves a hand that waits for the other one after the first card of a round,
and for nobody after the second, unless the hand is over. The rules do not refuse a card of a side
for which the hand waits. -/
theorem playCard_yields (side : Side) (card : Card) :
    Action.Yields (playCard text side card) archive
      (fun result archive' => result.outcome.handCompleted = false →
        ∃ h, archive'.hand text = some h ∧
          h.awaiting = if result.outcome.round.isNone then some side.other else none)
      (fun refusal archive' => archive'.hand text = archive.hand text ∧
        ∀ h, archive.hand text = some h → (∀ owed, h.awaiting = some owed → side = owed) →
          ∃ failure, archive.Fails failure ∧ refusal = .archive failure) := by
  rcases playCard_cases archive text side card with
    ⟨failure, _, fails, done⟩ | ⟨_, _, unknown, done⟩ | ⟨matchId, m, _, _, named, refused, done⟩ |
    ⟨matchId, m, m', outcome, named, played, done⟩
  · exact (Action.yields_iff_of_error done).mpr ⟨rfl, fun _ _ _ => ⟨failure, fails, rfl⟩⟩
  · rw [Action.yields_iff_of_error done]
    refine ⟨rfl, ?_⟩
    intro h found
    simp [Archive.hand, unknown, Except.toOption] at found
  · rw [Action.yields_iff_of_error done]
    refine ⟨rfl, ?_⟩
    intro h found allowed
    rw [Archive.hand_of_named named] at found
    have sound := Archive.sound_of_named named
    have free := (sound.running h found).cardOf_eq_none allowed
    rcases sound.play_cases side card with ⟨idle, _⟩ | ⟨_, h', there, laid, _⟩ |
      ⟨_, _, _, _, _, _, _, accepted⟩ | ⟨_, _, _, _, _, _, _, accepted⟩
    · exact absurd (sound.inProgress.mpr (by simp [found])) idle
    · rw [found] at there
      obtain rfl := Option.some.inj there
      simp [free] at laid
    · simp [accepted] at refused
    · simp [accepted] at refused
  · rw [Action.yields_iff_of_ok done]
    intro going
    have sound := Archive.sound_of_named named
    have kept := sound.play side card
    rw [played] at kept
    have later : (archive.after 2).named text = .ok (matchId, m) := named
    rw [Archive.hand_put later kept]
    rcases sound.play_cases side card with ⟨_, refused⟩ | ⟨_, _, _, _, refused⟩ |
      ⟨_, h, h', round, found, laid, unfinished, accepted⟩ | ⟨_, _, _, _, _, _, _, accepted⟩
    · simp [refused] at played
    · simp [refused] at played
    · rw [accepted] at played
      obtain ⟨same, rfl⟩ := Prod.mk.inj played
      obtain rfl := Except.ok.inj same
      exact ⟨h', rfl, (sound.running h found).awaiting_of_play laid unfinished⟩
    · rw [accepted] at played
      obtain ⟨same, rfl⟩ := Prod.mk.inj played
      obtain rfl := Except.ok.inj same
      simp [PlayOutcome.handCompleted] at going

theorem viewState_yields :
    Action.Yields (viewState text) archive (fun _ archive' => archive'.hand text = archive.hand text)
      (fun _ archive' => archive'.hand text = archive.hand text) := by
  rcases viewState_cases archive text with ⟨_, _, done⟩ | ⟨_, _, _, done⟩ | ⟨_, _, _, done⟩
  · exact (Action.yields_iff_of_error done).mpr rfl
  · exact (Action.yields_iff_of_error done).mpr rfl
  · exact (Action.yields_iff_of_ok done).mpr rfl

theorem doesExist_yields :
    Action.Yields (doesExist text) archive (fun _ archive' => archive'.hand text = archive.hand text)
      (fun _ archive' => archive'.hand text = archive.hand text) := by
  rcases doesExist_cases archive text with
    ⟨_, _, done⟩ | ⟨_, _, done⟩ | ⟨_, _, _, _, done⟩ | ⟨_, _, done⟩
  · exact (Action.yields_iff_of_error done).mpr rfl
  · exact (Action.yields_iff_of_error done).mpr rfl
  · exact (Action.yields_iff_of_error done).mpr rfl
  · exact (Action.yields_iff_of_ok done).mpr rfl

end Hands

end Service

end TrucoPaulista
