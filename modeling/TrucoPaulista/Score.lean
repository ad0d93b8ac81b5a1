import TrucoPaulista.Side

namespace TrucoPaulista

/-- The points of the two sides. -/
structure Score where
  a : UInt32
  b : UInt32
  deriving DecidableEq

namespace Score

def zero : Score := ⟨0, 0⟩

/-- The points of a side. -/
def of (score : Score) : Side → UInt32
  | .a => score.a
  | .b => score.b

/-- One more than a number of points, or the same number when it is the largest one. -/
def increment (points : UInt32) : UInt32 :=
  if points = UInt32.ofNat 4294967295 then points else points + 1

/-- The score with one more point for a side. -/
def addPoint (score : Score) : Side → Score
  | .a => { score with a := increment score.a }
  | .b => { score with b := increment score.b }

/-- The side that has reached a number of points; side A is looked at first. -/
def leaderAt (score : Score) (points : UInt32) : Option Side :=
  Side.all.find? (fun side => points ≤ score.of side)

end Score

end TrucoPaulista
