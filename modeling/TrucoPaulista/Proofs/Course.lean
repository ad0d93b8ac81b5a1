import TrucoPaulista.Proofs.Restore

namespace TrucoPaulista

theorem Score.isSome_leaderAt_iff {score : Score} {points : UInt32} :
    (score.leaderAt points).isSome ↔ ∃ side, points ≤ score.of side := by
  simp only [Score.leaderAt, List.find?_isSome, decide_eq_true_eq]
  constructor
  · rintro ⟨side, _, reached⟩
    exact ⟨side, reached⟩
  · rintro ⟨side, reached⟩
    exact ⟨side, by cases side <;> simp [Side.all], reached⟩

theorem resultsOf_filter_isFinished (rounds : List Round) :
    resultsOf (rounds.filter Round.isFinished) = resultsOf rounds := by
  induction rounds with
  | nil => rfl
  | cons r rest ih =>
    have split (rounds : List Round) : resultsOf (r :: rounds) = resultsOf [r] ++ resultsOf rounds :=
      resultsOf_append [r] rounds
    cases finished : r.isFinished with
    | true => rw [List.filter_cons_of_pos finished, split, ih, ← split]
    | false =>
      rw [List.filter_cons_of_neg (by simp [finished]), ih, split, resultsOf_open finished,
        List.nil_append]

namespace Hand

variable {h : Hand}

@[simp] theorem dropLast_rounds (h : Hand) : h.rounds.dropLast = h.earlier := by
  simp [rounds]

@[simp] theorem getLast?_rounds (h : Hand) : h.rounds.getLast? = some h.current := by
  simp [rounds]

theorem Running.length_rounds (running : h.Running) :
    1 ≤ h.rounds.length ∧ h.rounds.length ≤ maxRounds := by
  have few := running.few
  simp only [rounds, List.length_append, List.length_singleton]
  omega

end Hand

namespace Match

/-- What may be done in a match: a hand is called for, or a side plays a card. -/
inductive Deed where
  | start (vira : Rank)
  | play (side : Side) (card : Card)

/-- The match after a deed, also after one that is refused. -/
def perform (m : Match) : Deed → Match
  | .start vira => (m.start vira).2
  | .play side card => (m.play side card).2

def after (m : Match) (deeds : List Deed) : Match := deeds.foldl perform m

/-- The matches with which a course begins, and the points that are to be won in them: new ones, and
those that are restored from what is stored. -/
inductive Begins : UInt32 → Match → Prop where
  | created {points : UInt32} {m : Match} (made : Match.create points = .ok m) : Begins points m
  | standard : Begins defaultPointsToWin standard
  | restored {s : MatchSnapshot} {m : Match} (accepted : s.restore = .ok m) :
      Begins s.pointsToWin m

section Course

variable {m : Match} {points : UInt32}

theorem Begins.sound (begins : Begins points m) : m.Sound ∧ m.pointsToWin = points := by
  cases begins with
  | created made =>
    refine ⟨sound_of_create made, ?_⟩
    unfold create at made
    split at made
    next => contradiction
    next => cases made; rfl
  | standard => exact ⟨sound_standard, rfl⟩
  | restored accepted =>
    refine ⟨sound_of_restore accepted, ?_⟩
    obtain ⟨_, _, _, hand, _, rfl⟩ := MatchSnapshot.restore_eq_ok.mp accepted
    rfl

theorem Sound.perform (sound : m.Sound) (deed : Deed) :
    (m.perform deed).Sound ∧ (m.perform deed).pointsToWin = m.pointsToWin := by
  cases deed with
  | start vira =>
    refine ⟨sound.start vira, ?_⟩
    rcases m.start_cases vira with ⟨_, done⟩ | ⟨_, done⟩ | ⟨_, done⟩ <;> simp [Match.perform, done]
  | play side card =>
    refine ⟨sound.play side card, ?_⟩
    rcases sound.play_cases side card with ⟨_, done⟩ | ⟨_, _, _, _, done⟩ |
      ⟨_, _, _, _, _, _, _, done⟩ | ⟨_, _, _, _, _, _, _, done⟩ <;> simp [Match.perform, done]

theorem Sound.after (sound : m.Sound) (deeds : List Deed) :
    (m.after deeds).Sound ∧ (m.after deeds).pointsToWin = m.pointsToWin := by
  induction deeds generalizing m with
  | nil => exact ⟨sound, rfl⟩
  | cons deed rest ih =>
    obtain ⟨sound', points'⟩ := sound.perform deed
    obtain ⟨sound'', points''⟩ := ih sound'
    exact ⟨sound'', points''.trans points'⟩

/-- However a match began and whatever was done in it, the points to win are what they were at first
and more than none, there is a hand exactly while the match is in progress, and it is over exactly
when a side has the points to win. A hand that there is goes on: it has one to three rounds, all
under its vira, of which only the last one lacks a card, and those that are finished do not settle
it. -/
theorem Begins.invariant_after (begins : Begins points m) (deeds : List Deed) :
    (m.after deeds).pointsToWin = points ∧ 0 < points ∧
    ((m.after deeds).state = .inProgress ↔ (m.after deeds).hand.isSome) ∧
    ((m.after deeds).state = .finished ↔ ∃ side, points ≤ (m.after deeds).score.of side) ∧
    ∀ h, (m.after deeds).hand = some h →
      h.finished = false ∧ 1 ≤ h.rounds.length ∧ h.rounds.length ≤ 3 ∧
      (∀ r ∈ h.rounds, r.vira = h.vira) ∧
      (∀ r ∈ h.rounds.dropLast, r.a.isSome ∧ r.b.isSome) ∧
      (∀ r, h.rounds.getLast? = some r → r.a = none ∨ r.b = none) ∧
      resolve (resultsOf (h.rounds.filter Round.isFinished)) = none := by
  obtain ⟨sound, same⟩ := begins.sound
  obtain ⟨sound', same'⟩ := sound.after deeds
  have unchanged := same'.trans same
  have positive := sound'.positive
  have finished := sound'.finished
  rw [unchanged] at positive finished
  refine ⟨unchanged, UInt32.pos_iff_ne_zero.mpr positive, sound'.inProgress, ?_, ?_⟩
  · exact finished.trans Score.isSome_leaderAt_iff
  · intro h found
    have running := sound'.running h found
    obtain ⟨some', few⟩ := running.length_rounds
    refine ⟨running.unfinished, some', few, running.sameVira, ?_, ?_, ?_⟩
    · intro r earlier
      rw [Hand.dropLast_rounds] at earlier
      exact Bool.and_eq_true_iff.mp (running.closed r earlier)
    · intro r last
      rw [Hand.getLast?_rounds] at last
      obtain rfl := Option.some.inj last
      have lacking := running.ongoing
      unfold Round.isFinished at lacking
      simpa only [Bool.and_eq_false_iff, Option.isSome_eq_false_iff, Option.isNone_iff_eq_none]
        using lacking
    · rw [resultsOf_filter_isFinished, ← Hand.results_eq]
      exact running.undecided

/-- A match that is restored in the second round of a hand, in which side B has played. -/
def secondRound : MatchSnapshot where
  version := 1
  state := .inProgress
  pointsToWin := 12
  score := ⟨3, 11⟩
  currentHand := some ⟨.four, false,
    [⟨some ⟨.three, .clubs⟩, some ⟨.six, .diamonds⟩⟩, ⟨none, some ⟨.king, .hearts⟩⟩]⟩

/-- Side B plays again and a hand is called for, both to no avail. -/
theorem Begins.invariant_after_refused : ∃ m h, secondRound.restore = .ok m ∧
    (m.after [.play .b ⟨.ace, .hearts⟩, .start .king]).hand = some h ∧
    h.vira = .four ∧ h.rounds.length = 2 ∧ h.finished = false ∧
    resolve (resultsOf (h.rounds.filter Round.isFinished)) = none ∧
    (m.after [.play .b ⟨.ace, .hearts⟩, .start .king]).pointsToWin = 12 := by
  obtain ⟨m, h, accepted, found, vira, two⟩ : ∃ m h, secondRound.restore = .ok m ∧
      (m.after [.play .b ⟨.ace, .hearts⟩, .start .king]).hand = some h ∧
      h.vira = .four ∧ h.rounds.length = 2 :=
    ⟨_, _, rfl, rfl, rfl, rfl⟩
  obtain ⟨points, _, _, _, running⟩ := (Begins.restored accepted).invariant_after
    [.play .b ⟨.ace, .hearts⟩, .start .king]
  obtain ⟨unfinished, _, _, _, _, _, undecided⟩ := running h found
  exact ⟨m, h, accepted, found, vira, two, unfinished, undecided, points⟩

end Course

end Match

end TrucoPaulista
