import Assay.Number.Binary64
import Assay.Number.Integer

/-!
# Reading decimals

A decimal is written with an optional sign, digits with at most one point among or beside them,
and an optional exponent; the words for infinity and for what is not a number are accepted in any
case. Blanks around it do not count.

## Main definitions

* `readDecimal`: The floating-point number that a text writes.
-/

namespace Assay.Number

open Assay.Text

/-- An exponent: the letter `e`, an optional sign and digits, and nothing after them. The absence of
    an exponent is the exponent 0. -/
def readExponent : List Char → Option Int
  | [] => some 0
  | c :: cs =>
    if c = 'e' ∨ c = 'E' then
      let (negative, digits) := takeSign cs
      if digits.isEmpty || !digits.all isAsciiDigit then none
      else
        let n := decimalValue digits
        some (if negative then -(n : Int) else (n : Int))
    else none

/-- An unsigned decimal. -/
def readUnsigned (negative : Bool) (cs : List Char) : Option Binary64 :=
  let (whole, rest) := cs.span isAsciiDigit
  let (fraction, rest) := match rest with
    | '.' :: r => r.span isAsciiDigit
    | _ => ([], rest)
  if whole.isEmpty && fraction.isEmpty then none
  else (readExponent rest).map fun e =>
    .ofDecimal negative (decimalValue (whole ++ fraction)) (e - (fraction.length : Int))

/-- The floating-point number that the characters write. -/
def readDecimal (cs : List Char) : Option Binary64 :=
  let (negative, body) := takeSign (plainChars cs)
  let word := String.ofList (body.map Char.toLower)
  if word = "inf" ∨ word = "infinity" then some (.infinite negative)
  else if word = "nan" then some .notANumber
  else readUnsigned negative body

end Assay.Number
