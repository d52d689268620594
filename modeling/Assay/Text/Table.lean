/-!
# Character tables

A property of characters is written as the ordered list of the closed ranges of code points that
have it. A mapping of characters is written as runs: the code points `first`, `first + step`, …,
`last` are each moved by the same signed offset.

## Main definitions

* `inRanges`: Whether a code point lies in one of the ranges.
* `Run`: A run of code points that a mapping moves alike.
* `moved?`: Where the runs send a code point.
-/

namespace Assay.Text

/-- Whether `n` lies in one of the closed ranges. -/
def inRanges (ranges : List (Nat × Nat)) (n : Nat) : Bool :=
  ranges.any fun (low, high) => low ≤ n && n ≤ high

/-- Every `step`-th code point from `first` to `last`, moved by `offset`. -/
structure Run where
  first : Nat
  last : Nat
  step : Nat
  offset : Int

/-- Whether the run holds a code point. -/
def Run.holds (r : Run) (n : Nat) : Bool :=
  r.first ≤ n && n ≤ r.last && (n - r.first) % r.step == 0

/-- Where the runs send a code point, or `none` where no run holds it. -/
def moved? (runs : List Run) (n : Nat) : Option Nat :=
  (runs.find? fun r => r.holds n).map fun r => (Int.ofNat n + r.offset).toNat

end Assay.Text
