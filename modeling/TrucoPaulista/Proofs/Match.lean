import TrucoPaulista.Match
import TrucoPaulista.Proofs.Hand

namespace TrucoPaulista

namespace Match

/-- What holds of every match: there is a hand exactly while it is in progress, which is then being
played, and it is over exactly when a side has the points to win. -/
structure Sound (m : Match) : Prop where
  positive : m.pointsToWin ≠ 0
  inProgress : m.state = .inProgress ↔ m.hand.isSome
  running : ∀ h, m.hand = some h → h.Running
  finished : m.state = .finished ↔ (m.score.leaderAt m.pointsToWin).isSome

theorem leaderAt_zero {points : UInt32} (positive : points ≠ 0) :
    Score.zero.leaderAt points = none := by
  have more : ¬points ≤ 0 := by
    intro less
    exact positive (UInt32.le_antisymm less UInt32.zero_le)
  simp [Score.leaderAt, Side.all, Score.of, Score.zero, more]

theorem sound_of_create {points : UInt32} {m : Match} (created : Match.create points = .ok m) :
    m.Sound := by
  unfold create at created
  split at created
  next => contradiction
  next positive =>
    cases created
    have leaderless : Score.zero.leaderAt points = none := leaderAt_zero positive
    exact ⟨positive, by simp [standard], by simp [standard], by simp [leaderless, standard]⟩

theorem sound_standard : standard.Sound := by
  have created : Match.create defaultPointsToWin = .ok standard := rfl
  exact sound_of_create created

section Steps

variable {m : Match}

theorem Sound.hand_of_inProgress (sound : m.Sound) (state : m.state = .inProgress) :
    ∃ h, m.hand = some h ∧ h.Running := by
  obtain ⟨h, found⟩ := Option.isSome_iff_exists.mp (sound.inProgress.mp state)
  exact ⟨h, found, sound.running h found⟩

theorem Sound.hand_eq_none (sound : m.Sound) (state : m.state ≠ .inProgress) : m.hand = none := by
  cases found : m.hand with
  | none => rfl
  | some h => exact absurd (sound.inProgress.mpr (by simp [found])) state

/-- All that the start of a hand comes to, by the state of the match. -/
theorem start_cases (m : Match) (vira : Rank) :
    (m.state = .finished ∧ m.start vira = (.error .matchFinished, m)) ∨
    (m.state = .inProgress ∧ m.start vira = (.ok .alreadyInProgress, m)) ∨
    (m.state = .waiting ∧
      m.start vira = (.ok .started, { m with hand := some (.start vira), state := .inProgress })) := by
  unfold start
  cases m.state <;> simp

theorem eq_of_not_started {m m' : Match} {vira : Rank} {outcome : StartOutcome}
    (begun : m.start vira = (.ok outcome, m')) (going : outcome ≠ .started) : m' = m := by
  rcases m.start_cases vira with ⟨_, done⟩ | ⟨_, done⟩ | ⟨_, done⟩ <;> rw [done] at begun
  · simp at begun
  · exact (Prod.mk.inj begun).2.symm
  · simp [going.symm] at begun

/-- All that a card comes to: the match is not in progress, the side has laid one already, the hand goes
on, or the hand is over and scored. -/
theorem Sound.play_cases (sound : m.Sound) (side : Side) (card : Card) :
    (m.state ≠ .inProgress ∧ m.play side card = (.error .matchNotInProgress, m)) ∨
    (m.state = .inProgress ∧ ∃ h, m.hand = some h ∧ (h.current.cardOf side).isSome ∧
      m.play side card = (.error (.sideAlreadyPlayed side), m)) ∨
    (m.state = .inProgress ∧ ∃ h h' round, m.hand = some h ∧ h.play side card = (.ok round, h') ∧
      h'.finished = false ∧ m.play side card = (.ok ⟨round, none, none⟩, { m with hand := some h' })) ∨
    (m.state = .inProgress ∧ ∃ h h' round, m.hand = some h ∧ h.play side card = (.ok round, h') ∧
      h'.finished = true ∧
      m.play side card =
        (.ok ⟨round, some (h'.result.getD .drawn),
          (m.closeHand (h'.result.getD .drawn)).score.leaderAt m.pointsToWin⟩,
        m.closeHand (h'.result.getD .drawn))) := by
  by_cases state : m.state = .inProgress
  · obtain ⟨h, found, running⟩ := sound.hand_of_inProgress state
    refine Or.inr ?_
    rcases played : h.play side card with ⟨answer, h'⟩
    cases answer with
    | error refusal =>
      obtain ⟨rfl, laid, rfl⟩ := running.eq_of_refused played
      have same : { m with hand := some h' } = m := by
        rw [← found]
      refine Or.inl ⟨state, h', found, laid, ?_⟩
      simp only [play, state, found, played]
      rw [← state, same]
    | ok round =>
      cases ended : h'.finished with
      | false =>
        exact Or.inr (Or.inl ⟨state, h, h', round, found, played, ended,
          by simp [play, state, found, played, ended]⟩)
      | true =>
        exact Or.inr (Or.inr ⟨state, h, h', round, found, played, ended,
          by simp [play, state, found, played, ended, closeHand]⟩)
  · exact Or.inl ⟨state, by simp [play, state]⟩

/-- A match is finished by a hand that gives a side the points to win, and waits for another one
otherwise. -/
theorem state_closeHand (m : Match) (result : HandResult) :
    (m.closeHand result).state =
      if ((m.closeHand result).score.leaderAt m.pointsToWin).isSome then .finished
      else .waiting := rfl

@[simp] theorem hand_closeHand (m : Match) (result : HandResult) :
    (m.closeHand result).hand = none := rfl

@[simp] theorem pointsToWin_closeHand (m : Match) (result : HandResult) :
    (m.closeHand result).pointsToWin = m.pointsToWin := rfl

theorem Sound.closeHand (sound : m.Sound) (result : HandResult) : (m.closeHand result).Sound where
  positive := sound.positive
  inProgress := by
    rw [state_closeHand]
    split <;> simp
  running := by simp
  finished := by
    rw [state_closeHand]
    split
    next ended => simp [ended]
    next going => simpa using going

theorem Sound.start (sound : m.Sound) (vira : Rank) : (m.start vira).2.Sound := by
  rcases m.start_cases vira with ⟨_, ended⟩ | ⟨_, going⟩ | ⟨state, started⟩
  · rw [ended]
    exact sound
  · rw [going]
    exact sound
  · rw [started]
    refine ⟨sound.positive, by simp, ?_, ?_⟩
    · intro h found
      exact Option.some.inj found ▸ Hand.running_start vira
    · have leaderless := sound.finished
      simp only [state, reduceCtorEq, false_iff] at leaderless ⊢
      exact leaderless

theorem Sound.play (sound : m.Sound) (side : Side) (card : Card) :
    (m.play side card).2.Sound := by
  rcases sound.play_cases side card with ⟨_, refused⟩ | ⟨_, _, _, _, refused⟩ |
    ⟨state, h, h', round, found, played, open', accepted⟩ | ⟨_, _, _, _, _, _, _, accepted⟩
  · rw [refused]
    exact sound
  · rw [refused]
    exact sound
  · rw [accepted]
    refine ⟨sound.positive, by simp [state], ?_, sound.finished⟩
    intro next same
    exact Option.some.inj same ▸ (sound.running h found).of_play played open'
  · rw [accepted]
    exact sound.closeHand _

end Steps

end Match

end TrucoPaulista
