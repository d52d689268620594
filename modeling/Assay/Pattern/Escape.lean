import Assay.Pattern.Source

/-!
# Escapes

What a backslash and the characters after it mean, outside and inside a set. Outside a set a number
refers to a group unless it is written as an octal code point; inside a set it can only be octal.

## Main definitions

* `readEscape`: An escape outside a set.
* `readSetEscape`: An escape inside a set.
-/

namespace Assay.Pattern

open Text

/-- The code points of the escapes that name a control character. -/
def controlEscape? : Char → Option Nat
  | 'a' => some 7
  | 'f' => some 12
  | 'n' => some 10
  | 'r' => some 13
  | 't' => some 9
  | 'v' => some 11
  | '\\' => some 92
  | _ => none

/-- The classes that an escape can name, and whether it names the complement. -/
def classEscape? : Char → Option (CharClass × Bool)
  | 'd' => some (.digit, false)
  | 'D' => some (.digit, true)
  | 's' => some (.blank, false)
  | 'S' => some (.blank, true)
  | 'w' => some (.word, false)
  | 'W' => some (.word, true)
  | _ => none

/-- Whether a character is an octal digit. -/
def isOctal (c : Char) : Bool :=
  '0' ≤ c && c ≤ '7'

/-- The value of octal digits. -/
def octalValue (digits : List Char) : Nat :=
  digits.foldl (fun n c => 8 * n + (c.toNat - 48)) 0

/-- A code point of exactly `count` hexadecimal digits after the escape letter. -/
def readHexEscape (letter : Char) (count : Nat) : Reading Nat := do
  let digits ← takeSome (fun c => (hexValue? c).isSome) count
  let escape := '\\' :: letter :: digits
  if digits.length ≠ count then failAt (.incompleteEscape escape) escape.length
  let n := hexadecimalValue digits
  if 0x110000 ≤ n then failAt (.badEscape escape) escape.length
  return n

/-- A character by its name. No names are known here, so each is refused as unknown. -/
def readNamedEscape : Reading Nat := do
  unless ← accept '\x7b' do failAt .missingBrace 0
  let name ← takeName '\x7d' "character name"
  failAt (.unknownCharacter name) (name.length + 4)

/-- The escapes of a code point that are the same everywhere: `x`, `u`, `U` and `N`, and punctuation
    for itself. -/
def readPointEscape (c : Char) : Reading Nat := do
  if c = 'x' then readHexEscape c 2
  else if c = 'u' then readHexEscape c 4
  else if c = 'U' then readHexEscape c 8
  else if c = 'N' then readNamedEscape
  else if isAsciiLetter c || isAsciiDigit c then failAt (.badEscape ['\\', c]) 2
  else return c.toNat

/-- A reference to a group by number; the escape that wrote it has been taken. -/
def readReference (escape : List Char) (flags : Flags) : Reading Node := do
  let number := decimalValue (escape.drop 1)
  if number < (← get).widths.length then
    match ← groupWidth? number with
    | none => failAt .openGroup escape.length
    | some width =>
      checkLookBehind number
      return .again number flags.caseRule width
  else failAt (.invalidReference number) (escape.length - 1)

/-- An escape that begins with a digit other than 0: three octal digits are a code point, and all else
    refers to a group. -/
def readNumberEscape (c : Char) (flags : Flags) : Reading (Sum Nat Node) := do
  match ← peek with
  | some [d] =>
    if isAsciiDigit d then
      advance
      let escape := ['\\', c, d]
      match ← peek with
      | some [e] =>
        if isOctal c && isOctal d && isOctal e then
          advance
          let value := octalValue [c, d, e]
          let escape := escape ++ [e]
          if 0o377 < value then failAt (.octalTooLarge escape) escape.length
          return .inl value
        else return .inr (← readReference escape flags)
      | _ => return .inr (← readReference escape flags)
    else return .inr (← readReference ['\\', c] flags)
  | _ => return .inr (← readReference ['\\', c] flags)

/-- The part of a pattern that matches one code point. -/
def pointNode (flags : Flags) (n : Nat) : Node :=
  .one (.single flags.caseRule n)

/-- What an escape outside a set stands for, and whether it is an anchor. -/
def readEscape (c : Char) (flags : Flags) : Reading (Node × Bool) := do
  if c = 'A' then return (.anchor .textStart, true)
  if c = 'Z' then return (.anchor .veryEnd, true)
  if c = 'b' then return (.anchor (.wordEdge false flags.ascii), true)
  if c = 'B' then return (.anchor (.wordEdge true flags.ascii), true)
  match classEscape? c with
  | some (kind, negated) =>
    return (.one ⟨false, [.ofClass kind negated flags.ascii], flags.caseRule⟩, false)
  | none =>
    match controlEscape? c with
    | some n => return (pointNode flags n, false)
    | none =>
      if c = '0' then
        let digits ← takeSome isOctal 2
        return (pointNode flags (octalValue digits), false)
      else if isAsciiDigit c then
        match ← readNumberEscape c flags with
        | .inl n => return (pointNode flags n, false)
        | .inr node => return (node, false)
      else return (pointNode flags (← readPointEscape c), false)

/-- What an escape inside a set stands for: a code point or a class. -/
def readSetEscape (c : Char) (flags : Flags) : Reading ClassItem := do
  let point (n : Nat) : ClassItem := .range n n
  if c = 'b' then return point 8
  match controlEscape? c with
  | some n => return point n
  | none =>
    match classEscape? c with
    | some (kind, negated) => return .ofClass kind negated flags.ascii
    | none =>
      if isOctal c then
        let digits := c :: (← takeSome isOctal 2)
        let value := octalValue digits
        let escape := '\\' :: digits
        if 0o377 < value then failAt (.octalTooLarge escape) escape.length
        return point value
      else return point (← readPointEscape c)

end Assay.Pattern
