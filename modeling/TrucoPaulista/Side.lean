namespace TrucoPaulista

/-- One of the two parties of a match. -/
inductive Side where
  | a
  | b
  deriving DecidableEq

namespace Side

def all : List Side := [.a, .b]

def other : Side → Side
  | .a => .b
  | .b => .a

def code : Side → String
  | .a => "A"
  | .b => "B"

@[simp] theorem other_other (side : Side) : side.other.other = side := by
  cases side <;> rfl

end Side

end TrucoPaulista
