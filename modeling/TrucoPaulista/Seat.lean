import TrucoPaulista.Side

namespace TrucoPaulista

/-- One of the two teams. -/
inductive Team where
  | t1
  | t2
  deriving DecidableEq

namespace Team

def all : List Team := [.t1, .t2]

def side : Team → Side
  | t1 => .a
  | t2 => .b

def code : Team → String
  | t1 => "T1"
  | t2 => "T2"

end Team

/-- One of the four seats of a room, two for each team. -/
inductive Seat where
  | t1a
  | t1b
  | t2a
  | t2b
  deriving DecidableEq

namespace Seat

def all : List Seat := [.t1a, .t1b, .t2a, .t2b]

def team : Seat → Team
  | t1a | t1b => .t1
  | t2a | t2b => .t2

def side (seat : Seat) : Side := seat.team.side

def code : Seat → String
  | t1a => "T1A"
  | t1b => "T1B"
  | t2a => "T2A"
  | t2b => "T2B"

/-- The seats after this one in the order of play, in which the teams take turns; the seat itself is
the last one. -/
def successors : Seat → List Seat
  | t1a => [.t2a, .t1b, .t2b, .t1a]
  | t2a => [.t1b, .t2b, .t1a, .t2a]
  | t1b => [.t2b, .t1a, .t2a, .t1b]
  | t2b => [.t1a, .t2a, .t1b, .t2b]

end Seat

end TrucoPaulista
