/-! Runs of a case table: code points that one shift maps.

Case tables are long but regular: most letters of a script map by one constant shift, either
contiguously (A to Z) or every second code point (the Latin Extended pairs). A run records
`count` code points from `start`, `step` apart, each moved by `shift`. Looking a character up
finds the first run that holds it. -/
namespace FlowSelect.Text.Case

/-- Code points `start`, `start + step`, ... (`count` of them), each mapped by adding `shift`. -/
structure Run where
  /-- The first code point of the run. -/
  start : Nat
  /-- How many code points the run holds. -/
  count : Nat
  /-- The distance between two neighbouring code points of the run. -/
  step : Nat
  /-- What the mapping adds to each code point of the run. -/
  shift : Int

/-- Whether a code point is one of the run's. -/
def Run.holds (r : Run) (n : Nat) : Bool :=
  r.start ≤ n && (n - r.start) % r.step == 0 && (n - r.start) / r.step < r.count

/-- The image of a character under the first run that holds it, if any. -/
def Run.lookup (rs : List Run) (c : Char) : Option Char :=
  (rs.find? fun r => r.holds c.toNat).map fun r => Char.ofNat (Int.ofNat c.toNat + r.shift).toNat

/-- Whether a code point lies in one of a list of inclusive ranges. -/
def inRanges (rs : List (Nat × Nat)) (c : Char) : Bool :=
  rs.any fun r => r.1 ≤ c.toNat && c.toNat ≤ r.2

end FlowSelect.Text.Case
