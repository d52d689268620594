/-!
# Binary floating point

Floating-point numbers with a 53-bit mantissa, as exact data: a sign, a mantissa and an exponent.
Every operation is a rational computation on natural numbers followed by one rounding to nearest,
ties to even, so that each result can be reasoned about without the machine's floating point.

A finite number stands for `mantissa * 2 ^ exponent`. It is in canonical form: the exponent is at
least -1074, and above that the mantissa is at least `2 ^ 52`; the mantissa is below `2 ^ 53`.

## Main definitions

* `Binary64`: A number, an infinity, or the value that is not a number.
* `Binary64.ofRatio`: The number nearest a ratio.
* `Binary64.ofDecimal`: The number nearest a decimal.
* `Binary64.add`, `Binary64.scale`: A sum, and a product with a natural number.
* `Binary64.truncated?`: The integer part.
-/

namespace Assay.Number

/-- A floating-point number of 64 bits. -/
inductive Binary64
  | notANumber
  | infinite (negative : Bool)
  | finite (negative : Bool) (mantissa : Nat) (exponent : Int)
  deriving DecidableEq, Repr, Inhabited

/-- A natural number times a power of two, as a numerator and a denominator. -/
def shifted (n : Nat) (e : Int) : Nat × Nat :=
  match e with
  | .ofNat k => (n * Nat.pow 2 k, 1)
  | .negSucc k => (n, Nat.pow 2 (k + 1))

/-- The quotient nearest `num / den`, a tie going to the even neighbour. -/
def roundRatio (num den : Nat) : Nat :=
  let q := num / den
  let r := num % den
  if 2 * r < den then q
  else if den < 2 * r then q + 1
  else if q % 2 = 0 then q else q + 1

namespace Binary64

/-- Zero. -/
def zero (negative : Bool) : Binary64 :=
  .finite negative 0 (-1074)

/-- The number nearest `num / den`. -/
def ofRatio (negative : Bool) (num den : Nat) : Binary64 :=
  if num = 0 then zero negative
  else
    let guess : Int := (num.log2 : Int) - (den.log2 : Int) - 52
    -- The ratio over `2 ^ guess` lies between `2 ^ 51` and `2 ^ 53`.
    let scaled (e : Int) : Nat × Nat :=
      match e with
      | .ofNat k => (num, den * Nat.pow 2 k)
      | .negSucc k => (num * Nat.pow 2 (k + 1), den)
    let (n, d) := scaled guess
    let e := max (if n / d < Nat.pow 2 52 then guess - 1 else guess) (-1074)
    let (n, d) := scaled e
    let m := roundRatio n d
    let (m, e) := if m = Nat.pow 2 53 then (Nat.pow 2 52, e + 1) else (m, e)
    if 971 < e then .infinite negative else .finite negative m e

/-- The number nearest `digits * 10 ^ exponent`. Decimals beyond the range of the format are
    settled by their length, so that no large power is computed for them. -/
def ofDecimal (negative : Bool) (digits : Nat) (exponent : Int) : Binary64 :=
  if digits = 0 then zero negative
  else
    let size : Int := exponent + ((Nat.toDigits 10 digits).length : Int)
    if 400 < size then .infinite negative
    else if size < -400 then zero negative
    else match exponent with
      | .ofNat k => ofRatio negative (digits * Nat.pow 10 k) 1
      | .negSucc k => ofRatio negative digits (Nat.pow 10 (k + 1))

/-- The opposite number. -/
def neg : Binary64 → Binary64
  | .notANumber => .notANumber
  | .infinite s => .infinite (!s)
  | .finite s m e => .finite (!s) m e

/-- Whether a number is zero, of either sign. -/
def isZero : Binary64 → Bool
  | .finite _ m _ => m == 0
  | _ => false

/-- A finite number as a signed numerator over a denominator. -/
def signedRatio (negative : Bool) (mantissa : Nat) (exponent : Int) : Int × Nat :=
  let (n, d) := shifted mantissa exponent
  (if negative then -(n : Int) else (n : Int), d)

/-- The sum of two numbers. -/
def add : Binary64 → Binary64 → Binary64
  | .notANumber, _ => .notANumber
  | _, .notANumber => .notANumber
  | .infinite s, .infinite t => if s = t then .infinite s else .notANumber
  | .infinite s, _ => .infinite s
  | _, .infinite t => .infinite t
  | .finite s m e, .finite t n f =>
    let (a, c) := signedRatio s m e
    let (b, d) := signedRatio t n f
    let sum := a * (d : Int) + b * (c : Int)
    if sum = 0 then zero (s && t) else ofRatio (sum < 0) sum.natAbs (c * d)

/-- A number times a positive natural number. -/
def scale (k : Nat) : Binary64 → Binary64
  | .finite s m e =>
    let (n, d) := shifted m e
    ofRatio s (n * k) d
  | x => x

/-- The integer that a finite number is equal to, if there is one. -/
def integer? : Binary64 → Option Int
  | .finite s m e =>
    let (n, d) := shifted m e
    if n % d = 0 then some (if s then -((n / d : Nat) : Int) else ((n / d : Nat) : Int)) else none
  | _ => none

/-- The integer part of a finite number, toward zero. -/
def truncated? : Binary64 → Option Int
  | .finite s m e =>
    let (n, d) := shifted m e
    some (if s then -((n / d : Nat) : Int) else ((n / d : Nat) : Int))
  | _ => none

/-- Whether two numbers are equal as numbers: the zeros are, and what is not a number is equal to
    nothing. -/
def same : Binary64 → Binary64 → Bool
  | .finite s m e, .finite t n f => (m == 0 && n == 0) || (s == t && m == n && e == f)
  | .infinite s, .infinite t => s == t
  | _, _ => false

end Binary64

end Assay.Number
