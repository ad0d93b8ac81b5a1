namespace TrucoPaulista.Text

/-- The code points `first`, `first + stride`, … up to `last`, each moved by `offset`. -/
structure CaseRun where
  first : Nat
  last : Nat
  stride : Nat
  offset : Int

/-- Whether a code point belongs to a run. -/
def CaseRun.covers (run : CaseRun) (point : Nat) : Bool :=
  run.first ≤ point && point ≤ run.last && (point - run.first) % run.stride == 0

/-- Where a code point of a run is moved to. -/
def CaseRun.target (run : CaseRun) (point : Nat) : Nat := (point + run.offset).toNat

/-- The image of a character under a mapping given by its exceptions, which have several
characters, and its runs. A character in neither stands for itself. -/
def mapCase (exceptions : List (Nat × List Nat)) (runs : List CaseRun) (c : Char) : List Char :=
  match exceptions.find? (fun entry => entry.1 == c.toNat) with
  | some entry => entry.2.map Char.ofNat
  | none =>
    match runs.find? (fun run => run.covers c.toNat) with
    | some run => [Char.ofNat (run.target c.toNat)]
    | none => [c]

end TrucoPaulista.Text
