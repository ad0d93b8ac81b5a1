import TrucoPaulista.RateLimit

namespace TrucoPaulista

namespace SlidingWindow

/-- A window that has taken so many requests, all at one time. -/
def holding (limit span count now : Nat) : SlidingWindow := ⟨limit, span, List.replicate count now⟩

/-- The window after so many checks at one time. -/
def after (window : SlidingWindow) (now : Nat) : Nat → SlidingWindow
  | 0 => window
  | count + 1 => ((window.after now count).check now).2

section Holding

variable (limit span count now : Nat)

/-- What came at this very time does not lie too far back, however short the span is. -/
@[simp] theorem evict_holding : (holding limit span count now).evict now = holding limit span count now := by
  unfold evict holding
  congr 1
  cases count with
  | zero => rfl
  | succ count => simp [List.replicate_succ]

@[simp] theorem hasRoom_holding : (holding limit span count now).hasRoom = decide (count < limit) := by
  simp [hasRoom, holding]

@[simp] theorem record_holding :
    (holding limit span count now).record now = holding limit span (count + 1) now := by
  simp [record, holding, List.replicate_succ']

@[simp] theorem remaining_holding : (holding limit span count now).remaining = limit - count := by
  simp [remaining, holding]

theorem check_holding : (holding limit span count now).check now =
    if count < limit then (true, holding limit span (count + 1) now)
    else (false, holding limit span count now) := by
  unfold check
  rw [evict_holding]
  by_cases room : count < limit <;> simp [room]

theorem after_empty :
    (empty limit span).after now count = holding limit span (min count limit) now := by
  induction count with
  | zero => simp [after, empty, holding]
  | succ count ih =>
    rw [after, ih, check_holding]
    split
    next room =>
      have next : min count limit + 1 = min (count + 1) limit := by omega
      rw [next]
    next full =>
      have still : min count limit = min (count + 1) limit := by omega
      rw [still]

end Holding

end SlidingWindow

namespace RateLimiter

/-- A limiter that has taken nothing yet. -/
def opened (limit span limit' span' : Nat) : RateLimiter := ⟨.empty limit span, .empty limit' span'⟩

/-- The limiter with a request counted in both windows. -/
def record (limiter : RateLimiter) (now : Nat) : RateLimiter :=
  ⟨limiter.burst.record now, limiter.sustained.record now⟩

/-- The limiter after so many checks at one time. -/
def after (limiter : RateLimiter) (now : Nat) : Nat → RateLimiter
  | 0 => limiter
  | count + 1 => ((limiter.after now count).check now).2

section After

open SlidingWindow

variable (limit span limit' span' count now : Nat)

/-- A limiter that has taken so many requests at one time takes another under the smaller limit.
Otherwise it names the limit that is reached, the burst first. -/
theorem check_holding :
    (⟨holding limit span count now, holding limit' span' count now⟩ : RateLimiter).check now =
      if count < min limit limit' then
        (.ok (), ⟨holding limit span (count + 1) now, holding limit' span' (count + 1) now⟩)
      else
        (.error (if limit ≤ count then .burst else .sustained),
          ⟨holding limit span count now, holding limit' span' count now⟩) := by
  unfold check
  dsimp only
  rw [evict_holding, evict_holding, hasRoom_holding, hasRoom_holding]
  by_cases burst : count < limit
  · have early : ¬ limit ≤ count := by omega
    by_cases sustained : count < limit'
    · have room : count < min limit limit' := by omega
      simp [burst, sustained, room]
    · have full : ¬ count < min limit limit' := by omega
      rw [if_neg full]
      simp [burst, sustained, early]
  · have late : limit ≤ count := by omega
    have full : ¬ count < min limit limit' := by omega
    rw [if_neg full]
    simp [burst, late]

/-- The two windows of a limiter fill together. -/
theorem after_opened : (opened limit span limit' span').after now count =
    ⟨holding limit span (min count (min limit limit')) now,
      holding limit' span' (min count (min limit limit')) now⟩ := by
  induction count with
  | zero => simp [after, opened, SlidingWindow.empty, holding]
  | succ count ih =>
    rw [after, ih, check_holding]
    split
    next room =>
      have next : min count (min limit limit') + 1 = min (count + 1) (min limit limit') := by omega
      rw [next]
    next full =>
      have still : min count (min limit limit') = min (count + 1) (min limit limit') := by omega
      rw [still]

/-- While the clock stands still, a new limiter takes as many requests as the smaller of its two limits
says and refuses all others, which leave both windows as they are: for the short window's sake where
its limit is not the larger one, else for the long window's. A single window takes as many as its limit
says. -/
theorem takes_up_to_smaller_limit :
    ((opened limit span limit' span').after now count).check now =
      (if count < min limit limit' then
        (.ok (), ((opened limit span limit' span').after now count).record now)
      else
        (.error (if limit ≤ limit' then .burst else .sustained),
          (opened limit span limit' span').after now count)) ∧
    ((opened limit span limit' span').after now count).burst.remaining =
      limit - min count (min limit limit') ∧
    ((opened limit span limit' span').after now count).sustained.remaining =
      limit' - min count (min limit limit') ∧
    ((SlidingWindow.empty limit span).after now count).check now =
      (if count < limit then (true, ((SlidingWindow.empty limit span).after now count).record now)
      else (false, (SlidingWindow.empty limit span).after now count)) ∧
    ((SlidingWindow.empty limit span).after now count).remaining = limit - min count limit := by
  rw [after_opened, SlidingWindow.after_empty, check_holding, SlidingWindow.check_holding]
  simp only [record, record_holding, remaining_holding, and_true, true_and]
  constructor
  · have room : min count (min limit limit') < min limit limit' ↔ count < min limit limit' := by omega
    by_cases fits : count < min limit limit'
    · rw [if_pos (room.mpr fits), if_pos fits]
    · have first : limit ≤ min count (min limit limit') ↔ limit ≤ limit' := by omega
      rw [if_neg (mt room.mp fits), if_neg fits]
      simp only [first]
  · have room : min count limit < limit ↔ count < limit := by omega
    simp only [room]

end After

end RateLimiter

end TrucoPaulista
