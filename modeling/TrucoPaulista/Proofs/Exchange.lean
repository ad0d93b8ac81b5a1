import TrucoPaulista.Proofs.Action
import TrucoPaulista.Proofs.BestOfThree
import TrucoPaulista.Proofs.Tally

namespace TrucoPaulista

theorem Card.compare_flip (cardA cardB : Card) (vira : Rank) :
    cardB.compare cardA vira = (cardA.compare cardB vira).flip := by
  have ordered (first second : Nat) : Outcome.ofOrdering (Ord.compare second first) =
      (Outcome.ofOrdering (Ord.compare first second)).flip := by
    rw [← Nat.compare_swap]
    cases Ord.compare first second <;> rfl
  unfold compare
  cases decide (cardA.rank = manilha vira) <;> cases decide (cardB.rank = manilha vira)
  · exact ordered _ _
  · rfl
  · rfl
  · exact ordered _ _

/-- The refusal with the sides exchanged. -/
def GameError.flip : GameError → GameError
  | sideAlreadyPlayed side => sideAlreadyPlayed side.other
  | refusal => refusal

namespace RoundResult

/-- The result with the sides exchanged. -/
def flip : RoundResult → RoundResult
  | won side => won side.other
  | tie => tie

theorem ofOutcome_flip (outcome : Outcome) : ofOutcome outcome.flip = (ofOutcome outcome).flip := by
  cases outcome <;> rfl

end RoundResult

/-- The result with the sides exchanged. -/
def HandResult.flip : HandResult → HandResult
  | won side => won side.other
  | drawn => drawn

theorem resolve_flip {results : List RoundResult} (few : results.length ≤ maxRounds) :
    resolve (results.map RoundResult.flip) = (resolve results).map HandResult.flip := by
  match results, few with
  | [], _ => rfl
  | [first], _ => rcases first.cases_side with rfl | rfl | rfl <;> rfl
  | [first, second], _ =>
    rcases first.cases_side with rfl | rfl | rfl <;>
      rcases second.cases_side with rfl | rfl | rfl <;> rfl
  | [first, second, third], _ =>
    rcases first.cases_side with rfl | rfl | rfl <;>
      rcases second.cases_side with rfl | rfl | rfl <;>
        rcases third.cases_side with rfl | rfl | rfl <;> rfl

namespace Round

/-- The round with the cards of the sides exchanged. -/
def flip (r : Round) : Round := ⟨r.vira, r.b, r.a⟩

variable (r : Round) (side : Side) (card : Card)

@[simp] theorem flip_start (vira : Rank) : (start vira).flip = start vira := rfl

@[simp] theorem cardOf_flip : r.flip.cardOf side.other = r.cardOf side := by
  cases side <;> rfl

@[simp] theorem flip_lay : (r.lay side card).flip = r.flip.lay side.other card := by
  cases side <;> rfl

@[simp] theorem isFinished_flip : r.flip.isFinished = r.isFinished := Bool.and_comm _ _

theorem result_flip : r.flip.result = r.result.map RoundResult.flip := by
  obtain ⟨vira, a, b⟩ := r
  cases a with
  | none => cases b <;> rfl
  | some cardA =>
    cases b with
    | none => rfl
    | some cardB =>
      simp [flip, result, Card.compare_flip cardA cardB, RoundResult.ofOutcome_flip, Except.map]

end Round

theorem resultsOf_flip (rounds : List Round) :
    resultsOf (rounds.map Round.flip) = (resultsOf rounds).map RoundResult.flip := by
  unfold resultsOf
  rw [List.filterMap_map, List.map_filterMap]
  congr 1
  funext r
  rw [Function.comp_apply, Round.result_flip]
  cases r.result <;> rfl

namespace Hand

/-- The hand with the cards of the sides exchanged in every round. -/
def flip (h : Hand) : Hand := ⟨h.vira, h.earlier.map Round.flip, h.current.flip, h.finished⟩

section Play

variable {h : Hand}

@[simp] theorem flip_start (vira : Rank) : (start vira).flip = start vira := rfl

theorem rounds_flip (h : Hand) : h.flip.rounds = h.rounds.map Round.flip := by
  simp [rounds, flip]

theorem results_flip (h : Hand) : h.flip.results = h.results.map RoundResult.flip := by
  rw [results_eq, rounds_flip, resultsOf_flip, results_eq]

theorem result_flip (few : h.results.length ≤ maxRounds) :
    h.flip.result = h.result.map HandResult.flip := by
  unfold result
  rw [results_flip, resolve_flip few]
  cases finished : h.finished <;> simp [flip, finished]

theorem getD_result_flip (few : h.results.length ≤ maxRounds) :
    h.flip.result.getD .drawn = (h.result.getD .drawn).flip := by
  rw [result_flip few]
  cases h.result <;> rfl

theorem advance_flip (few : h.results.length ≤ maxRounds) : h.flip.advance = h.advance.flip := by
  unfold advance
  rw [results_flip, resolve_flip few, rounds_flip, Option.isSome_map, List.length_map]
  split
  next => rfl
  next => split <;> rfl

/-- A card of the other side does in the exchanged hand what the card does in the hand. -/
theorem Running.play_flip (running : h.Running) (side : Side) (card : Card) :
    h.flip.play side.other card =
      (((h.play side card).1.map (Option.map RoundResult.flip)).mapError GameError.flip,
        (h.play side card).2.flip) := by
  have unfinished : h.flip.finished = false := running.unfinished
  have ongoing : h.flip.current.isFinished = false := by
    rw [flip, Round.isFinished_flip, running.ongoing]
  rcases running.play_cases card side with ⟨laid, again⟩ | ⟨fresh, first⟩ | ⟨answer, result, alone, found, second⟩
  · have laid' : (h.flip.current.cardOf side.other).isSome := by
      rwa [flip, Round.cardOf_flip]
    rw [again, play_of_laid card unfinished ongoing laid']
    rfl
  · have fresh' : h.flip.current = .start h.flip.vira := by
      rw [flip, fresh, Round.flip_start]
    rw [first, play_of_start card unfinished fresh']
    simp [flip, Except.map]
  · have alone' : h.flip.current = (Round.start h.flip.vira).lay side.other.other answer := by
      rw [flip, alone, Round.flip_lay, Round.flip_start]
    obtain ⟨result', found', second'⟩ := play_of_answer card unfinished alone'
    have few : (results { h with current := h.current.lay side card }).length ≤ maxRounds := by
      rw [running.results_lay card alone, List.length_append]
      exact running.length_results
    have flipped : { h.flip with current := h.flip.current.lay side.other card } =
        flip { h with current := h.current.lay side card } := by
      simp [flip]
    have same : result' = result.flip := by
      have exchanged : h.flip.current.lay side.other card = (h.current.lay side card).flip := by
        rw [Round.flip_lay]
        rfl
      rw [exchanged, Round.result_flip, found] at found'
      exact (Except.ok.inj found').symm
    rw [second, second', flipped, advance_flip few, same]
    rfl

/-- A card leaves no more results behind than a hand has rounds. -/
theorem Running.length_results_of_play (running : h.Running) {h' : Hand} {side : Side} {card : Card}
    {answer : Except GameError (Option RoundResult)} (played : h.play side card = (answer, h')) :
    h'.results.length ≤ maxRounds := by
  have becomes := running.becomes [⟨side, card⟩]
  have reached : h.after [⟨side, card⟩] = h' := by
    rw [after_cons, played]
    rfl
  exact reached ▸ becomes.few

end Play

end Hand

namespace Score

variable {score : Score} {points : UInt32} {side : Side}

/-- The score with the points of the sides exchanged. -/
def flip (score : Score) : Score := ⟨score.b, score.a⟩

@[simp] theorem of_flip : score.flip.of side.other = score.of side := by
  cases side <;> rfl

theorem addPoint_flip : score.flip.addPoint side.other = (score.addPoint side).flip := by
  cases side <;> rfl

theorem Within.flip (within : score.Within points) : score.flip.Within points := by
  intro side
  have other := within side.other
  rw [← score.of_flip, ← score.of_flip, Side.other_other] at other
  exact other

theorem leaderAt_flip (within : score.Within points) :
    score.flip.leaderAt points = (score.leaderAt points).map Side.other := by
  cases leads : score.leaderAt points with
  | some side =>
    rw [within.leaderAt_eq_some] at leads
    exact within.flip.leaderAt_eq_some.mpr (score.of_flip.trans leads)
  | none =>
    rw [leaderAt_eq_none] at leads
    refine leaderAt_eq_none.mpr (fun side => ?_)
    have fewer := leads side.other
    rwa [← score.of_flip, Side.other_other] at fewer

end Score

/-- What a card brought to an end, with the sides exchanged. -/
def PlayOutcome.flip (outcome : PlayOutcome) : PlayOutcome where
  round := outcome.round.map RoundResult.flip
  hand := outcome.hand.map HandResult.flip
  matchWinner := outcome.matchWinner.map Side.other

namespace Match

/-- The match with the sides exchanged in its score and in its hand. -/
def flip (m : Match) : Match := { m with score := m.score.flip, hand := m.hand.map Hand.flip }

/-- The deed done by the other side. A hand is called for by neither. -/
def Deed.flip : Deed → Deed
  | start vira => start vira
  | play side card => play side.other card

/-- The answer with the sides exchanged. -/
def Reply.flip : Reply → Reply
  | begun answer => begun (answer.mapError GameError.flip)
  | played answer => played ((answer.map PlayOutcome.flip).mapError GameError.flip)

section Steps

variable {m : Match}

theorem start_flip (m : Match) (vira : Rank) : m.flip.start vira =
    ((m.start vira).1.mapError GameError.flip, (m.start vira).2.flip) := by
  obtain ⟨points, state, score, hand⟩ := m
  cases state <;> rfl

theorem Regular.leaderAt_closeHand_flip (regular : m.Regular) (going : m.state = .inProgress)
    (result : HandResult) : (m.closeHand result).score.flip.leaderAt m.pointsToWin =
      ((m.closeHand result).score.leaderAt m.pointsToWin).map Side.other := by
  have within := (regular.closeHand going result).within
  rw [pointsToWin_closeHand] at within
  exact Score.leaderAt_flip within

theorem Regular.closeHand_flip (regular : m.Regular) (going : m.state = .inProgress)
    (result : HandResult) : m.flip.closeHand result.flip = (m.closeHand result).flip := by
  have score : (m.flip.closeHand result.flip).score = (m.closeHand result).score.flip := by
    cases result with
    | drawn => rfl
    | won side => exact Score.addPoint_flip
  have leader := regular.leaderAt_closeHand_flip going result
  have state : (m.flip.closeHand result.flip).state = (m.closeHand result).state := by
    rw [state_closeHand, state_closeHand, score]
    simp [flip, leader]
  calc m.flip.closeHand result.flip
      = ⟨m.pointsToWin, (m.flip.closeHand result.flip).state,
          (m.flip.closeHand result.flip).score, none⟩ := rfl
    _ = (m.closeHand result).flip := by
      rw [score, state]
      rfl

/-- A card of the other side does in the exchanged match what the card does in the match. -/
theorem Regular.play_flip (regular : m.Regular) (side : Side) (card : Card) :
    m.flip.play side.other card =
      (((m.play side card).1.map PlayOutcome.flip).mapError GameError.flip,
        (m.play side card).2.flip) := by
  by_cases going : m.state = .inProgress
  · obtain ⟨h, found, running⟩ := regular.sound.hand_of_inProgress going
    have going' : m.flip.state = .inProgress := going
    have found' : m.flip.hand = some h.flip := by simp [flip, found]
    have flipped := running.play_flip side card
    rcases played : h.play side card with ⟨answer, h'⟩
    have few := running.length_results_of_play played
    rw [played] at flipped
    unfold play
    simp only [going, going', found, found', played]
    cases answer with
    | error refusal =>
      rw [flipped]
      rfl
    | ok round =>
      have flipped : h.flip.play side.other card = (.ok (round.map RoundResult.flip), h'.flip) :=
        flipped
      have finished : h'.flip.finished = h'.finished := rfl
      rw [flipped]
      simp only [finished]
      split
      next =>
        have result := Hand.getD_result_flip few
        have closed := regular.closeHand_flip going (h'.result.getD .drawn)
        have winner := regular.leaderAt_closeHand_flip going (h'.result.getD .drawn)
        rw [result, closed]
        simp [Except.map, PlayOutcome.flip, flip, winner]
      next => rfl
  · have going' : m.flip.state ≠ .inProgress := going
    simp [play, going, going', Except.map, GameError.flip]

theorem Regular.reply_flip (regular : m.Regular) (deed : Deed) :
    m.flip.reply deed.flip = (m.reply deed).flip ∧
      m.flip.perform deed.flip = (m.perform deed).flip := by
  cases deed with
  | start vira => simp [reply, Match.perform, Deed.flip, Reply.flip, start_flip]
  | play side card => simp [reply, Match.perform, Deed.flip, Reply.flip, regular.play_flip]

end Steps

section Runs

variable {m : Match}

theorem Regular.replies_flip (regular : m.Regular) (deeds : List Deed) :
    m.flip.replies (deeds.map Deed.flip) = (m.replies deeds).map Reply.flip ∧
      m.flip.after (deeds.map Deed.flip) = (m.after deeds).flip := by
  induction deeds generalizing m with
  | nil => exact ⟨rfl, rfl⟩
  | cons deed rest ih =>
    obtain ⟨replied, performed⟩ := regular.reply_flip deed
    obtain ⟨replies, after⟩ := ih (regular.perform deed)
    rw [List.map_cons, after_cons, after_cons, performed]
    refine ⟨?_, after⟩
    simp only [Match.replies, List.map_cons, replied, performed, replies]

theorem Regular.winner_flip (regular : m.Regular) : m.flip.winner = m.winner.map Side.other := by
  have finished : m.flip.isFinished = m.isFinished := rfl
  have leader := Score.leaderAt_flip regular.within
  unfold winner
  rw [finished]
  split
  next => exact leader
  next => rfl

/-- In a match that begins anew no side is favoured: when every card is played by the other side instead,
each step is answered in the same way with the sides exchanged, and leaves the same match with the
sides exchanged, also in its winner. -/
theorem no_side_is_favoured {points : UInt32} (positive : 1 ≤ points) (deeds : List Deed) :
    ∃ new, Match.create points = .ok new ∧
      new.replies (deeds.map Deed.flip) = (new.replies deeds).map Reply.flip ∧
      ∀ k, new.after ((deeds.map Deed.flip).take k) = (new.after (deeds.take k)).flip ∧
        (new.after ((deeds.map Deed.flip).take k)).winner =
          (new.after (deeds.take k)).winner.map Side.other := by
  obtain ⟨new, created⟩ := create_eq_ok positive
  obtain ⟨regular, _, _⟩ := regular_of_create created
  have even : new.flip = new := by
    unfold create at created
    split at created
    next => contradiction
    next => cases created; rfl
  have course := fun deeds => regular.replies_flip deeds
  rw [even] at course
  refine ⟨new, created, (course deeds).1, fun k => ?_⟩
  rw [← List.map_take, (course (deeds.take k)).2]
  exact ⟨rfl, (regular.after (deeds.take k)).winner_flip⟩

/-- A match for one point, in which side A plays once too often, wins both rounds and with them the
match. -/
def quickMatch : List Deed :=
  [.start .four, .play .a ⟨.three, .clubs⟩, .play .a ⟨.two, .clubs⟩, .play .b ⟨.six, .diamonds⟩,
    .play .b ⟨.seven, .hearts⟩, .play .a ⟨.two, .clubs⟩]

/-- With the sides exchanged it is side B that plays once too often and wins. -/
theorem no_side_is_favoured_quick_match : (1 : UInt32) ≤ 1 ∧ ∃ new, Match.create 1 = .ok new ∧
    (new.after quickMatch).winner = some .a ∧
    (new.after (quickMatch.map Deed.flip)).winner = some .b ∧
    new.replies (quickMatch.map Deed.flip) = (new.replies quickMatch).map Reply.flip ∧
    (new.replies (quickMatch.map Deed.flip))[2]? =
      some (.played (.error (.sideAlreadyPlayed .b))) := by
  refine ⟨by decide, ?_⟩
  obtain ⟨new, created, replies, course⟩ := no_side_is_favoured (by decide : (1 : UInt32) ≤ 1)
    quickMatch
  cases created
  have won : (Match.after ⟨1, .waiting, .zero, none⟩ quickMatch).winner = some .a := by decide
  refine ⟨_, rfl, won, ?_, replies, ?_⟩
  · have exchanged := (course quickMatch.length).2
    rw [List.take_length] at exchanged
    exact exchanged.trans (congrArg (Option.map Side.other) won)
  · rw [replies]
    rfl

end Runs

end Match

end TrucoPaulista
