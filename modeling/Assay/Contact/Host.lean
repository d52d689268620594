import Assay.Text.Digit
import Assay.Text.Search

/-!
# Numeric hosts

A host in brackets is a numeric one: eight groups of hexadecimal digits between colons, of which
one run of zeros may be left out and the last two may be written as four decimal numbers, or an
address of a later version, which says so.

## Main definitions

* `isQuad`: Whether characters are four decimal numbers between points.
* `isGroups`: Whether characters are eight groups between colons, one run of zeros left out or not.
* `isBracketed`: Whether characters may stand in brackets as a host.
-/

namespace Assay.Contact

open Text

/-- Whether characters are a number below 256 without needless zeros. -/
def isOctet (cs : List Char) : Bool :=
  !cs.isEmpty && cs.length ≤ 3 && cs.all isAsciiDigit && decimalValue cs < 256 &&
    (cs == ['0'] || cs.head? != some '0')

/-- Whether characters are four decimal numbers between points. -/
def isQuad (cs : List Char) : Bool :=
  let parts := splitChars '.' cs
  parts.length == 4 && parts.all isOctet

/-- Whether characters are a group of one to four hexadecimal digits. -/
def isGroup (cs : List Char) : Bool :=
  !cs.isEmpty && cs.length ≤ 4 && cs.all fun c => (hexValue? c).isSome

/-- The parts between colons, four decimal numbers at the end counting as two groups; none where the
    end has points and is not made of four such numbers. -/
def groupParts (cs : List Char) : Option (List (List Char)) :=
  let parts := splitChars ':' cs
  match parts.getLast? with
  | some last =>
    if last.contains '.' then
      if isQuad last then some (parts.dropLast ++ [['0'], ['0']]) else none
    else some parts
  | none => none

/-- Whether parts are groups around one run of zeros that was left out, which may be at either end. -/
def isShortened (parts : List (List Char)) : Bool :=
  let before := parts.takeWhile fun p => !p.isEmpty
  match parts.drop before.length with
  | [[], [], []] => before.isEmpty
  | [] :: [] :: after =>
    if before.isEmpty then after.length < 8 && after.all isGroup
    else after.isEmpty && before.length < 8 && before.all isGroup
  | [] :: after =>
    !before.isEmpty && !after.isEmpty && before.length + after.length < 8 && before.all isGroup &&
      after.all isGroup
  | _ => false

/-- Whether characters are eight groups between colons, one run of zeros left out or not. A zone may
    follow after a percent sign. -/
def isGroups (cs : List Char) : Bool :=
  let zoned := match partitionChars '%' cs with
    | some (_, zone) => !zone.isEmpty && !zone.contains '%'
    | none => true
  zoned && 3 ≤ (splitChars ':' (cs.takeWhile (· != '%'))).length &&
    match groupParts (cs.takeWhile (· != '%')) with
    | some parts => (parts.length == 8 && parts.all isGroup) || isShortened parts
    | none => false

/-- Whether characters are an address of a later version: `v`, hexadecimal digits, a point and
    something more. -/
def isFuture (cs : List Char) : Bool :=
  match cs with
  | 'v' :: r =>
    let digits := r.takeWhile fun c => (hexValue? c).isSome
    match r.drop digits.length with
    | '.' :: more => !digits.isEmpty && !more.isEmpty
    | _ => false
  | _ => false

/-- Whether characters may stand in brackets as a host. -/
def isBracketed (cs : List Char) : Bool :=
  if cs.head? = some 'v' then isFuture cs else isGroups cs

/-- Whether the brackets of a host, past the name of a user, stand around a numeric host, with nothing
    before them, and after them nothing or what a colon begins. -/
def bracketsFit (host : List Char) : Bool :=
  let place := match partitionLastChars '@' host with
    | some (_, place) => place
    | none => host
  match partitionChars '[' place with
  | some (before, inner) =>
    match partitionChars ']' inner with
    | some (numeric, after) =>
      before.isEmpty && (after.isEmpty || after.head? == some ':') && isBracketed numeric
    | none => before.isEmpty && isBracketed inner
  | none => isBracketed (place.takeWhile (· != ':'))

end Assay.Contact
