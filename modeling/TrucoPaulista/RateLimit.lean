namespace TrucoPaulista

/-- A window that slides over time: how many requests it takes within how much time, and when those
that it took came, the oldest first. -/
structure SlidingWindow where
  limit : Nat
  span : Nat
  stamps : List Nat
  deriving DecidableEq

namespace SlidingWindow

def empty (limit span : Nat) : SlidingWindow := ⟨limit, span, []⟩

/-- The window without the requests that lie too far back. -/
def evict (window : SlidingWindow) (now : Nat) : SlidingWindow :=
  { window with stamps := window.stamps.dropWhile (fun stamp => window.span < now - stamp) }

/-- Whether there is room for a request. -/
def hasRoom (window : SlidingWindow) : Bool := window.stamps.length < window.limit

/-- The window with a request taken. -/
def record (window : SlidingWindow) (now : Nat) : SlidingWindow :=
  { window with stamps := window.stamps ++ [now] }

/-- Takes a request if there is room for it. -/
def check (window : SlidingWindow) (now : Nat) : Bool × SlidingWindow :=
  let window := window.evict now
  if window.hasRoom then (true, window.record now) else (false, window)

/-- The number of requests for which there is room. -/
def remaining (window : SlidingWindow) : Nat := window.limit - window.stamps.length

end SlidingWindow

/-- The window that has no room for a request. -/
inductive Limit where
  | burst
  | sustained
  deriving DecidableEq

def Limit.message : Limit → String
  | burst => "Rate limit exceeded. Please slow down."
  | sustained => "Too many messages. Please wait before sending more."

/-- Two windows, a short one and a long one. -/
structure RateLimiter where
  burst : SlidingWindow
  sustained : SlidingWindow
  deriving DecidableEq

namespace RateLimiter

def standard : RateLimiter := ⟨.empty 10 1000, .empty 100 60000⟩

/-- Takes a request if both windows have room for it. One that is not taken counts in neither. -/
def check (limiter : RateLimiter) (now : Nat) : Except Limit Unit × RateLimiter :=
  let burst := limiter.burst.evict now
  if !burst.hasRoom then (.error .burst, { limiter with burst })
  else
    let sustained := limiter.sustained.evict now
    if !sustained.hasRoom then (.error .sustained, ⟨burst, sustained⟩)
    else (.ok (), ⟨burst.record now, sustained.record now⟩)

end RateLimiter

end TrucoPaulista
