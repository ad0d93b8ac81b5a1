import TrucoPaulista.Proofs.Tally

namespace TrucoPaulista

namespace Score

variable {score : Score} {points : UInt32} {side : Side}

/-- A score with a point for a side, and with fewer than some points for the other side, is one more
than a score with fewer for both. -/
theorem exists_addPoint (some' : 0 < score.of side) (most : score.of side ≤ points)
    (fewer : score.of side.other < points) :
    ∃ before : Score, before.addPoint side = score ∧ ∀ query, before.of query < points := by
  have counted {count : UInt32} (positive : 0 < count) :
      count - 1 < count ∧ increment (count - 1) = count := by
    have one : 1 ≤ count.toNat := UInt32.lt_iff_toNat_lt.mp positive
    have less' : (count - 1).toNat = count.toNat - 1 :=
      UInt32.toNat_sub_of_le count 1 (UInt32.le_iff_toNat_le.mpr one)
    have less : count - 1 < count := UInt32.lt_iff_toNat_lt.mpr (by omega)
    have more := toNat_increment less
    exact ⟨less, UInt32.toNat_inj.mp (by omega)⟩
  obtain ⟨less, same⟩ := counted some'
  have below := UInt32.lt_of_lt_of_le less most
  cases side with
  | a =>
    refine ⟨⟨score.a - 1, score.b⟩, congrArg (Score.mk · score.b) same, fun query => ?_⟩
    cases query with
    | a => exact below
    | b => exact fewer
  | b =>
    refine ⟨⟨score.a, score.b - 1⟩, congrArg (Score.mk score.a) same, fun query => ?_⟩
    cases query with
    | a => exact fewer
    | b => exact below

theorem within_of_fewer (fewer : ∀ side, score.of side < points) : score.Within points :=
  fun side => ⟨UInt32.le_of_lt (fewer side), fun _ => fewer side.other⟩

theorem within_of_reached (reached : score.of side = points) (fewer : score.of side.other < points) :
    score.Within points := by
  intro query
  rcases side.eq_or_eq_other query with rfl | rfl
  · exact ⟨UInt32.le_of_eq reached, fun _ => fewer⟩
  · refine ⟨UInt32.le_of_lt fewer, fun both => ?_⟩
    exact absurd fewer (by rw [both]; exact UInt32.lt_irrefl points)

theorem Within.eq_of_reached (within : score.Within points) {other : Side}
    (reached : score.of side = points) (reached' : points ≤ score.of other) : other = side := by
  rcases side.eq_or_eq_other other with same | rfl
  · exact same
  · exact absurd reached' (UInt32.not_le.mpr ((within side).2 reached))

end Score

namespace Match

/-- Whether some deeds lead to a match from a new one for as many points. -/
def IsPlayed (m : Match) : Prop :=
  ∃ new deeds, Match.create m.pointsToWin = .ok new ∧ new.after deeds = m

/-- Whether no side has more points than are needed, at most one has as many, and no other side than
the winner has reached them. -/
structure HasOneWinner (m : Match) : Prop where
  atMost : ∀ side, m.score.of side ≤ m.pointsToWin
  alone : ∀ side other, m.score.of side = m.pointsToWin → m.score.of other = m.pointsToWin →
    other = side
  winner : ∀ side other, m.winner = some side → m.pointsToWin ≤ m.score.of other → other = side

/-- A hand in which a side takes the first two rounds. -/
def wonHand (side : Side) : List Deed :=
  [.start .four, .play side ⟨.three, .clubs⟩, .play side.other ⟨.six, .diamonds⟩,
    .play side ⟨.two, .clubs⟩, .play side.other ⟨.seven, .hearts⟩]

section Played

variable {m : Match} {points : UInt32} {score : Score} {side : Side}

theorem after_append (m : Match) (first second : List Deed) :
    m.after (first ++ second) = (m.after first).after second := List.foldl_append

theorem IsPlayed.regular (played : m.IsPlayed) : m.Regular := by
  obtain ⟨new, deeds, created, rfl⟩ := played
  exact (regular_of_create created).1.after deeds

theorem IsPlayed.after (played : m.IsPlayed) (deeds : List Deed) : (m.after deeds).IsPlayed := by
  have points' := (played.regular.sound.after deeds).2
  obtain ⟨new, earlier, created, same⟩ := played
  refine ⟨new, earlier ++ deeds, points' ▸ created, ?_⟩
  rw [after_append, same]

theorem after_wonHand (points : UInt32) (score : Score) (side : Side) :
    after ⟨points, .waiting, score, none⟩ (wonHand side) =
      closeHand ⟨points, .waiting, score, none⟩ (.won side) := by
  cases side <;> rfl

/-- A hand that is won adds a point, which ends the match if it is the last one needed. -/
theorem IsPlayed.wonHand (played : IsPlayed ⟨points, .waiting, score, none⟩) (side : Side) :
    IsPlayed ⟨points, if ((score.addPoint side).leaderAt points).isSome then .finished else .waiting,
      score.addPoint side, none⟩ := by
  have later := played.after (Match.wonHand side)
  rwa [after_wonHand] at later

theorem isPlayed_waiting (fewer : ∀ side, score.of side < points) :
    IsPlayed ⟨points, .waiting, score, none⟩ := by
  -- every score but the first one is a point more than another
  induction total : score.a.toNat + score.b.toNat generalizing score with
  | zero =>
    have first : score = .zero := by
      obtain ⟨a, b⟩ := score
      have none' : a = 0 ∧ b = 0 :=
        ⟨UInt32.toNat_inj.mp (Nat.eq_zero_of_add_eq_zero_right total),
          UInt32.toNat_inj.mp (Nat.eq_zero_of_add_eq_zero_left total)⟩
      rw [none'.1, none'.2]
      rfl
    have positive : points ≠ 0 := by
      rintro rfl
      exact absurd (fewer .a) UInt32.not_lt_zero
    refine ⟨⟨points, .waiting, .zero, none⟩, [], ?_, by rw [first]; rfl⟩
    rw [create, if_neg positive]
    rfl
  | succ count ih =>
    obtain ⟨side, some'⟩ : ∃ side, 0 < score.of side := by
      have more : 0 < score.a.toNat ∨ 0 < score.b.toNat := by omega
      rcases more with more | more
      · exact ⟨.a, UInt32.lt_iff_toNat_lt.mpr more⟩
      · exact ⟨.b, UInt32.lt_iff_toNat_lt.mpr more⟩
    obtain ⟨before, rfl, fewer'⟩ := Score.exists_addPoint some' (UInt32.le_of_lt (fewer side))
      (fewer side.other)
    have counted := Score.toNat_increment (fewer' side)
    have total' : before.a.toNat + before.b.toNat = count := by
      cases side <;> simp only [Score.addPoint, Score.of] at total counted <;> omega
    have won := (ih fewer' total').wonHand side
    rwa [Score.leaderAt_eq_none.mpr fewer] at won

/-- Cards that leave a hand unfinished can be played in a match that is in progress. -/
theorem after_replay {h h' : Hand} {plays : List (Side × Card)} (replayed : h.replay plays = .ok h')
    (unfinished : h'.finished = false) :
    after ⟨points, .inProgress, score, some h⟩ (plays.map fun play => .play play.1 play.2) =
      ⟨points, .inProgress, score, some h'⟩ := by
  induction plays generalizing h with
  | nil => rw [Except.ok.inj replayed]; rfl
  | cons play rest ih =>
    obtain ⟨side, card⟩ := play
    obtain ⟨round, next, played, others⟩ := Hand.replay_cons_eq_ok.mp replayed
    have going : next.finished = false := by
      cases ended : next.finished with
      | false => rfl
      | true => rwa [Hand.eq_of_replay_finished ended others, ended] at unfinished
    have now : perform ⟨points, .inProgress, score, some h⟩ (.play side card) =
        ⟨points, .inProgress, score, some next⟩ := by
      simp [perform, Match.play, played, going]
    rw [List.map_cons, after_cons, now, ih others]

/-- What could be in a match that is played can be played: points are won one after the other, and
the cards of its hand are played again. -/
theorem Regular.isPlayed (regular : m.Regular) : m.IsPlayed := by
  obtain ⟨points, state, score, hand⟩ := m
  have sound := regular.sound
  cases state with
  | waiting =>
    obtain rfl : hand = none := sound.hand_eq_none (by simp)
    exact isPlayed_waiting (sound.fewer (by simp))
  | inProgress =>
    obtain ⟨h, rfl, running⟩ := sound.hand_of_inProgress rfl
    have begun := (isPlayed_waiting (sound.fewer (by simp))).after [.start h.vira]
    have played := begun.after
      ((h.rounds.flatMap (fun r => r.snapshot.plays)).map fun play => .play play.1 play.2)
    exact (after_replay running.replay_eq running.unfinished) ▸ played
  | finished =>
    obtain rfl : hand = none := sound.hand_eq_none (by simp)
    obtain ⟨side, leads⟩ := Option.isSome_iff_exists.mp (sound.finished.mp rfl)
    have reached := regular.within.leaderAt_eq_some.mp leads
    have positive := UInt32.pos_iff_ne_zero.mpr sound.positive
    obtain ⟨before, rfl, fewer⟩ := Score.exists_addPoint (reached ▸ positive)
      (UInt32.le_of_eq reached) ((regular.within side).2 reached)
    have won := (isPlayed_waiting fewer).wonHand side
    rwa [leads] at won

theorem isPlayed_iff_regular : m.IsPlayed ↔ m.Regular := ⟨IsPlayed.regular, Regular.isPlayed⟩

theorem hasOneWinner_iff : m.HasOneWinner ↔ m.score.Within m.pointsToWin := by
  constructor
  · intro one side
    refine ⟨one.atMost side, fun reached => ?_⟩
    refine UInt32.lt_of_le_of_ne (one.atMost side.other) fun both => ?_
    exact Side.other_ne side (one.alone side side.other reached both)
  · intro within
    refine ⟨fun side => (within side).1, ?_, fun side other wins reached => ?_⟩
    · intro side other reached reached'
      exact within.eq_of_reached reached (UInt32.le_of_eq reached'.symm)
    · have leads : m.score.leaderAt m.pointsToWin = some side := by
        unfold winner at wins
        split at wins
        next => exact wins
        next => cases wins
      exact within.eq_of_reached (within.leaderAt_eq_some.mp leads) reached

end Played

end Match

namespace MatchSnapshot

/-- A match that is restored has one winner at most exactly when it could have been played, that is,
unless it is finished with a side beyond the points needed or with both sides at them. Before its end
no side has reached them; at its end the winner has, and is side A if both have. -/
theorem one_winner_iff_isPlayed {s : MatchSnapshot} {m : Match} (accepted : s.restore = .ok m) :
    (m.HasOneWinner ↔ m.IsPlayed) ∧
    (m.HasOneWinner ↔ (m.state = .finished →
      ∃ side, m.score.of side = m.pointsToWin ∧ m.score.of side.other < m.pointsToWin)) ∧
    (m.state ≠ .finished → m.winner = none ∧ ∀ side, m.score.of side < m.pointsToWin) ∧
    (m.state = .finished → ∃ side, m.winner = some side ∧ m.pointsToWin ≤ m.score.of side ∧
      (side = .b → m.score.of .a < m.pointsToWin)) := by
  have sound := Match.sound_of_restore accepted
  have going (unfinished : m.state ≠ .finished) := sound.fewer unfinished
  refine ⟨?_, ?_, ?_, ?_⟩
  · rw [Match.hasOneWinner_iff, Match.isPlayed_iff_regular]
    exact ⟨fun within => ⟨sound, within⟩, Match.Regular.within⟩
  · rw [Match.hasOneWinner_iff]
    constructor
    · intro within finished
      obtain ⟨side, leads⟩ := Option.isSome_iff_exists.mp (sound.finished.mp finished)
      have reached := within.leaderAt_eq_some.mp leads
      exact ⟨side, reached, (within side).2 reached⟩
    · intro ends
      by_cases finished : m.state = .finished
      · obtain ⟨side, reached, fewer⟩ := ends finished
        exact Score.within_of_reached reached fewer
      · exact Score.within_of_fewer (going finished)
  · intro unfinished
    exact ⟨by simp [Match.winner, Match.isFinished, unfinished], going unfinished⟩
  · intro finished
    obtain ⟨side, leads⟩ := Option.isSome_iff_exists.mp (sound.finished.mp finished)
    refine ⟨side, by simp [Match.winner, Match.isFinished, finished, leads],
      Score.of_leaderAt leads, ?_⟩
    rintro rfl
    refine UInt32.not_le.mp fun reached => ?_
    simp [Score.leaderAt, Side.all, reached] at leads

/-- A finished match that side B has won by one point. -/
def closeFinish : MatchSnapshot where
  version := snapshotVersion
  state := .finished
  pointsToWin := 12
  score := ⟨11, 12⟩
  currentHand := none

theorem one_winner_iff_isPlayed_closeFinish : ∃ m, closeFinish.restore = .ok m ∧
    m.winner = some .b ∧ m.HasOneWinner ∧ m.IsPlayed := by
  obtain ⟨m, accepted, points, score⟩ : ∃ m, closeFinish.restore = .ok m ∧ m.pointsToWin = 12 ∧
      m.score = ⟨11, 12⟩ := ⟨_, rfl, rfl, rfl⟩
  obtain ⟨played, ends, _, _⟩ := one_winner_iff_isPlayed accepted
  have one : m.HasOneWinner := ends.mpr fun _ => ⟨.b, by rw [points, score]; decide⟩
  cases accepted
  exact ⟨_, rfl, by decide, one, played.mp one⟩

/-- A finished match in which both sides have the points to win. -/
def doubleFinish : MatchSnapshot where
  version := snapshotVersion
  state := .finished
  pointsToWin := 12
  score := ⟨12, 12⟩
  currentHand := none

/-- A match with two winners is restored, and side A is named. -/
theorem doubleFinish_restores : ∃ m, doubleFinish.restore = .ok m ∧ m.winner = some .a ∧
    m.score.of .a = m.pointsToWin ∧ m.score.of .b = m.pointsToWin ∧ ¬m.HasOneWinner := by
  refine ⟨_, rfl, by decide, rfl, rfl, fun one => ?_⟩
  exact absurd (one.alone .a .b rfl rfl) (by decide)

end MatchSnapshot

end TrucoPaulista
