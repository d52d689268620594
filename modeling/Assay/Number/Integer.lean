import Assay.Text.Blank
import Assay.Text.Digit

/-!
# Reading integers

An integer is written with an optional sign and digits of any script, single underscores between
digits being allowed, with blanks around it. In base 2, 8 or 16 the mark `0b`, `0o` or `0x` may
precede the digits. The separators `U+001C` to `U+001F` do not count as blanks here.

## Main definitions

* `readInteger`: The integer that a text writes in a base.
-/

namespace Assay.Number

open Assay.Text

/-- A character as numbers see it: digits of any script become ASCII digits, blanks beyond ASCII
    become spaces, and whatever else is beyond ASCII can be part of no number. -/
def plainChar (c : Char) : Char :=
  if c.toNat < 127 then c
  else if isBlank c then ' '
  else match digitValue? c with
    | some d => Char.ofNat (48 + d)
    | none => '?'

/-- Whether a character is a blank of ASCII. -/
def isPlainBlank (c : Char) : Bool :=
  c == ' ' || (9 ≤ c.toNat && c.toNat ≤ 13)

/-- Characters as numbers see them, without the blanks around them. -/
def plainChars (cs : List Char) : List Char :=
  (((cs.map plainChar).dropWhile isPlainBlank).reverse.dropWhile isPlainBlank).reverse

/-- The value of a digit in a base. -/
def baseDigit? (base : Nat) (c : Char) : Option Nat :=
  match hexValue? c with
  | some d => if d < base then some d else none
  | none => none

/-- The number that the characters go on to write after `n`, a digit being due next when `due`
    holds. -/
def readDigits (base n : Nat) (due : Bool) : List Char → Option Nat
  | [] => if due then none else some n
  | c :: cs =>
    if c = '_' then if due then none else readDigits base n true cs
    else match baseDigit? base c with
      | some d => readDigits base (n * base + d) false cs
      | none => none

/-- The letter that marks a base. -/
def baseMark? : Nat → Option Char
  | 2 => some 'b'
  | 8 => some 'o'
  | 16 => some 'x'
  | _ => none

/-- The characters after the mark of the base and one underscore, if the mark is there. -/
def dropBaseMark (base : Nat) (cs : List Char) : List Char :=
  match cs, baseMark? base with
  | '0' :: m :: r, some mark =>
    if m.toLower = mark then
      match r with
      | '_' :: r => r
      | _ => r
    else cs
  | _, _ => cs

/-- The sign at the head of the characters and what follows it. -/
def takeSign : List Char → Bool × List Char
  | '-' :: cs => (true, cs)
  | '+' :: cs => (false, cs)
  | cs => (false, cs)

/-- The integer that the characters write in a base. -/
def readInteger (base : Nat) (cs : List Char) : Option Int :=
  let (negative, digits) := takeSign (plainChars cs)
  (readDigits base 0 true (dropBaseMark base digits)).map fun n =>
    if negative then -(n : Int) else (n : Int)

end Assay.Number
