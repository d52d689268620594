import Assay.Schema.Basic

/-!
# The order of places

Violations are reported by place: items by number and keys as keys are ordered, texts by code
point, numbers by size, dates and moments by time. Keys of different kinds have no order, and
violations that would have to be ordered by such keys break the report off.

## Main definitions

* `Value.compareKeys?`: The order of two keys, where they have one.
* `Schema.report`: The reports on a value's violations, in order.
-/

namespace Assay

open Number

/-- A number on one scale with the infinities. -/
inductive Magnitude
  | below
  | ratio (num : Int) (den : Nat)
  | above
  /-- What is not a number lies nowhere on the scale. -/
  | nowhere

namespace Magnitude

/-- The order on the scale; what lies nowhere counts as equal to everything. -/
def compare : Magnitude → Magnitude → Ordering
  | nowhere, _ => .eq
  | _, nowhere => .eq
  | below, below => .eq
  | below, _ => .lt
  | _, below => .gt
  | above, above => .eq
  | above, _ => .gt
  | _, above => .lt
  | ratio a b, ratio c d => Ord.compare (a * (d : Int)) (c * (b : Int))

end Magnitude

namespace Value

/-- Where a value lies as a number. -/
def magnitude? : Value → Option Magnitude
  | bool b => some (.ratio (if b then 1 else 0) 1)
  | int n => some (.ratio n 1)
  | float .notANumber => some .nowhere
  | float (.infinite negative) => some (if negative then .below else .above)
  | float (.finite negative mantissa exponent) =>
    let (num, den) := Binary64.signedRatio negative mantissa exponent
    some (.ratio num den)
  | _ => none

/-- The order of two timestamps, where both have a zone or neither has. -/
def compareTimestamps? (t u : Timestamp) : Option Ordering :=
  if t.offset.isSome = u.offset.isSome then
    some ((compare t.seconds u.seconds).then (compare t.microsecond u.microsecond))
  else none

/-- The order of two keys, where they have one. -/
def compareKeys? (a b : Value) : Option Ordering :=
  if a.sameKey b then some .eq
  else match a, b with
    | text s, text t => some (compare s t)
    | bytes s, bytes t => some (compare (s.map UInt8.toNat) (t.map UInt8.toNat))
    | date d, date e => some (compare d.ordinal e.ordinal)
    | timestamp t, timestamp u => compareTimestamps? t u
    | a, b =>
      match a.magnitude?, b.magnitude? with
      | some m, some n => some (m.compare n)
      | _, _ => none

end Value

namespace Violation

/-- The order of two turns, where they have one. -/
def compareTurns? : Turn → Turn → Option Ordering
  | .item m, .item n => some (compare m n)
  | .key a, .key b => a.compareKeys? b
  | _, _ => none

/-- The order of two places, where they have one: the first difference decides, and a place comes
    before those inside of it. -/
def comparePlaces? : List Turn → List Turn → Option Ordering
  | [], [] => some .eq
  | [], _ :: _ => some .lt
  | _ :: _, [] => some .gt
  | t :: ts, u :: us =>
    match compareTurns? t u with
    | some .eq => comparePlaces? ts us
    | order => order

/-- Whether a turn is not to a text key, so that its order may be missing. -/
def isUnordered : Turn → Bool
  | .key (.text _) => false
  | .key _ => true
  | .item _ => false

/-- Whether some violation stands at a place that has no order with the place of another. -/
def haveIncomparable (vs : List Violation) : Bool :=
  (vs.filter fun v => v.place.any isUnordered).any fun v =>
    vs.any fun w => (comparePlaces? v.place w.place).isNone

/-- Whether a violation is reported no later than another one that was found after it. -/
def le (v w : Violation) : Bool :=
  comparePlaces? v.place w.place != some .gt

end Violation

/-- The reports on the violations of a value, in order. -/
def Schema.report (schema : Schema) (v : Value) : Except Fault (List String) :=
  let found := schema.violations v
  if Violation.haveIncomparable found then .error .incomparablePlaces
  else .ok ((found.mergeSort Violation.le).map Violation.message)

end Assay
