import Assay.Number.Binary64

/-!
# Shortest decimals

A floating-point number is written with the fewest significant digits that read back as the same
number, and among those with the digits nearest to it. The search goes over grids of 1, 2, …, 17
digits: on each grid only the two neighbours of the number have to be tried, because if any point
of the grid reads back, one of them does.

The decimal is written positionally when the exponent of its first digit is from -4 to 15, and
with an exponent of at least two digits otherwise; a positional integer keeps one zero after the
point.

## Main definitions

* `shortest`: The shortest digits of a number and the power of ten of the last of them.
* `Binary64.render`: The text of a number.
-/

namespace Assay.Number

/-- Whether `digits * 10 ^ e` reads back as `m * 2 ^ q`: it lies within half a gap, an end of the
    interval counting only for an even mantissa. Below a power of two the gap is half as wide. -/
def readsBack (m : Nat) (q : Int) (digits : Nat) (e : Int) : Bool :=
  let below := if m = Nat.pow 2 52 ∧ -1074 < q then 1 else 2
  -- Everything in units of `2 ^ (q - 2)`, over a common denominator.
  let (n, d) : Nat × Nat := match e with
    | .ofNat k => (digits * Nat.pow 10 k, 1)
    | .negSucc k => (digits, Nat.pow 10 (k + 1))
  let (n, d) : Nat × Nat := match q - 2 with
    | .ofNat k => (n, d * Nat.pow 2 k)
    | .negSucc k => (n * Nat.pow 2 (k + 1), d)
  let low := (4 * m - below) * d
  let high := (4 * m + 2) * d
  if m % 2 = 0 then low ≤ n && n ≤ high else low < n && n < high

/-- The exponent `k` with `10 ^ (k - 1) ≤ num / den < 10 ^ k`, found from below. -/
def decimalPlace (num den : Nat) : Int :=
  if den ≤ num then ((Nat.toDigits 10 (num / den)).length : Int)
  else
    -- `10 ^ j` is the least power that lifts the ratio to 1.
    let guess := (den / num).log2 * 3 / 10
    let rec climb : Nat → Nat → Nat
      | 0, j => j
      | fuel + 1, j => if den ≤ num * Nat.pow 10 j then j else climb fuel (j + 1)
    1 - (climb 400 guess : Int)

/-- The first grid of at least `n` digits, among `fuel` of them, on which a neighbour of the number
    reads back, with the nearer neighbour. -/
def shortestFrom (m : Nat) (q : Int) (num den : Nat) (place : Int) : Nat → Nat → Nat × Int
  | 0, n => (m, (n : Int))
  | fuel + 1, n =>
    let step := place - (n : Int)
    let (a, b) : Nat × Nat := match step with
      | .ofNat k => (num, den * Nat.pow 10 k)
      | .negSucc k => (num * Nat.pow 10 (k + 1), den)
    let low := a / b
    let rest := a % b
    let lowFits := readsBack m q low step
    let highFits := readsBack m q (low + 1) step
    if lowFits && highFits then
      (if 2 * rest < b ∨ (2 * rest = b ∧ low % 2 = 0) then low else low + 1, step)
    else if lowFits then (low, step)
    else if highFits then (low + 1, step)
    else shortestFrom m q num den place fuel (n + 1)

/-- A number without its trailing zeros, and the exponent raised for each of them. -/
def dropZeros : Nat → Nat → Int → Nat × Int
  | 0, n, e => (n, e)
  | fuel + 1, n, e => if n % 10 = 0 ∧ n ≠ 0 then dropZeros fuel (n / 10) (e + 1) else (n, e)

/-- The shortest digits of `m * 2 ^ q` for a positive mantissa, and the power of ten of the last
    digit. -/
def shortest (m : Nat) (q : Int) : Nat × Int :=
  let (num, den) := shifted m q
  let (digits, e) := shortestFrom m q num den (decimalPlace num den) 17 1
  dropZeros 20 digits e

/-- Digits with the point placed after the first `point` of them, zeros being supplied on either
    side. -/
def positional (digits : List Char) (point : Int) : String :=
  if point ≤ 0 then
    "0." ++ String.ofList (List.replicate point.natAbs '0' ++ digits)
  else
    let k := point.toNat
    let whole := digits.take k ++ List.replicate (k - digits.length) '0'
    let fraction := digits.drop k
    String.ofList whole ++ "." ++ (if fraction.isEmpty then "0" else String.ofList fraction)

/-- Digits in the notation with an exponent. -/
def scientific (digits : List Char) (exponent : Int) : String :=
  let fraction := digits.drop 1
  let mantissa := String.ofList (digits.take 1) ++
    (if fraction.isEmpty then "" else "." ++ String.ofList fraction)
  let size := Nat.toDigits 10 exponent.natAbs
  mantissa ++ "e" ++ (if exponent < 0 then "-" else "+") ++
    String.ofList (List.replicate (2 - size.length) '0' ++ size)

/-- The text of a number. -/
def Binary64.render : Binary64 → String
  | .notANumber => "nan"
  | .infinite negative => if negative then "-inf" else "inf"
  | .finite negative m q =>
    let sign := if negative then "-" else ""
    if m = 0 then sign ++ "0.0"
    else
      let (n, e) := shortest m q
      let digits := Nat.toDigits 10 n
      let point : Int := (digits.length : Int) + e
      sign ++ (if -4 < point ∧ point ≤ 16 then positional digits point
        else scientific digits (point - 1))

end Assay.Number
