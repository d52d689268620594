import Assay.Json.Basic
import Assay.Number.Decimal

/-!
# Reading JSON

Documents as their writers may produce them: beside JSON proper, the words `NaN`, `Infinity` and
`-Infinity` are numbers, a decimal too large for floating point is infinite, and of members with
one name the last gives the value while the first gives the place.

## Main definitions

* `Json.read?`: The document that a text writes, or `none` where it writes none.
-/

namespace Assay.Json

open Text Number

/-- Whether a character may stand between the parts of a document. -/
def isSpace (c : Char) : Bool :=
  c == ' ' || c == '\t' || c == '\n' || c == '\r'

/-- The characters after leading space. -/
def skip (cs : List Char) : List Char :=
  cs.dropWhile isSpace

/-- The value of four hexadecimal digits and what follows them. -/
def readUnit : List Char → Option (Nat × List Char)
  | a :: b :: c :: d :: r =>
    if (hexValue? a).isSome && (hexValue? b).isSome && (hexValue? c).isSome && (hexValue? d).isSome
    then some (hexadecimalValue [a, b, c, d], r)
    else none
  | _ => none

/-- The character that a two-character escape stands for. -/
def escaped? : Char → Option Char
  | '"' => some '"'
  | '\\' => some '\\'
  | '/' => some '/'
  | 'b' => some '\x08'
  | 'f' => some '\x0c'
  | 'n' => some '\n'
  | 'r' => some '\r'
  | 't' => some '\t'
  | _ => none

/-- The second unit of a pair, when one follows. -/
def readLowUnit : List Char → Option (Nat × List Char)
  | '\\' :: 'u' :: r =>
    match readUnit r with
    | some (n, r) => if 0xDC00 ≤ n ∧ n ≤ 0xDFFF then some (n, r) else none
    | none => none
  | _ => none

/-- The rest of a string after its opening quote, given what has been read of it in reverse. A unit
    without its partner becomes the replacement character. -/
def readText : Nat → List Char → List Char → Option (String × List Char)
  | 0, _, _ => none
  | _ + 1, _, [] => none
  | _ + 1, read, '"' :: r => some (String.ofList read.reverse, r)
  | fuel + 1, read, '\\' :: 'u' :: r =>
    match readUnit r with
    | none => none
    | some (n, r) =>
      if 0xD800 ≤ n ∧ n ≤ 0xDBFF then
        match readLowUnit r with
        | some (m, r) =>
          readText fuel (Char.ofNat (0x10000 + (n - 0xD800) * 0x400 + (m - 0xDC00)) :: read) r
        | none => readText fuel (Char.ofNat 0xFFFD :: read) r
      else if 0xDC00 ≤ n ∧ n ≤ 0xDFFF then readText fuel (Char.ofNat 0xFFFD :: read) r
      else readText fuel (Char.ofNat n :: read) r
  | fuel + 1, read, '\\' :: c :: r =>
    match escaped? c with
    | some e => readText fuel (e :: read) r
    | none => none
  | fuel + 1, read, c :: r => if c.toNat < 32 then none else readText fuel (c :: read) r

/-- The fraction at the head of the characters: a point and at least one digit. -/
def takeFraction : List Char → List Char × List Char
  | '.' :: r =>
    let (digits, rest) := r.span isAsciiDigit
    if digits.isEmpty then ([], '.' :: r) else ('.' :: digits, rest)
  | cs => ([], cs)

/-- The exponent at the head of the characters: a letter, an optional sign and at least one
    digit. -/
def takeExponent : List Char → List Char × List Char
  | e :: r =>
    if e = 'e' ∨ e = 'E' then
      let (sign, body) : List Char × List Char := match r with
        | '+' :: b => (['+'], b)
        | '-' :: b => (['-'], b)
        | b => ([], b)
      let (digits, rest) := body.span isAsciiDigit
      if digits.isEmpty then ([], e :: r) else (e :: (sign ++ digits), rest)
    else ([], e :: r)
  | [] => ([], [])

/-- The number at the head of the characters, after its sign. -/
def readNumber (negative : Bool) (cs : List Char) : Option (Json × List Char) :=
  let (whole, rest) : List Char × List Char := match cs with
    -- A leading zero stands alone; digits behind it belong to no number.
    | '0' :: r => (['0'], r)
    | _ => cs.span isAsciiDigit
  if whole.isEmpty then none
  else
    let (fraction, rest) := takeFraction rest
    let (exponent, rest) := takeExponent rest
    -- Only a number without a fraction and an exponent is whole.
    if fraction.isEmpty && exponent.isEmpty then
      let n : Int := (decimalValue whole : Nat)
      some (.int (if negative then -n else n), rest)
    else
      (readUnsigned negative (whole ++ fraction ++ exponent)).map fun x => (.float x, rest)

/-- Members with one more: a name that is there already takes the new value in its old place. -/
def putMember (name : String) (j : Json) : List (String × Json) → List (String × Json)
  | [] => [(name, j)]
  | (k, v) :: rest => if k = name then (k, j) :: rest else (k, v) :: putMember name j rest

/-- What is being read: a document, the rest of an array whose items so far are given in reverse,
    or the rest of an object whose members so far are given in reverse. -/
inductive Open
  | array (items : List Json)
  | object (members : List (String × Json)) (name : String)

/-- The members of an object from those read, last first. -/
def closeMembers (members : List (String × Json)) : List (String × Json) :=
  members.reverse.foldl (fun ms (name, j) => putMember name j ms) []

/-- A member's name and the colon after it. -/
def readName (cs : List Char) : Option (String × List Char) :=
  match cs with
  | '"' :: r =>
    match readText (r.length + 1) [] r with
    | some (name, r) =>
      match skip r with
      | ':' :: r => some (name, skip r)
      | _ => none
    | none => none
  | _ => none

mutual

/-- The document at the head of the characters, inside the open collections given innermost
    first. -/
def readDocument : Nat → List Open → List Char → Option (Json × List Char)
  | 0, _, _ => none
  | fuel + 1, outer, cs =>
    match cs with
    | '"' :: r =>
      match readText (r.length + 1) [] r with
      | some (s, r) => finish fuel outer (.text s) r
      | none => none
    | '[' :: r =>
      match skip r with
      | ']' :: r => finish fuel outer (.array []) r
      | r => readDocument fuel (.array [] :: outer) r
    | '\x7b' :: r =>
      match skip r with
      | '\x7d' :: r => finish fuel outer (.object []) r
      | r =>
        match readName r with
        | some (name, r) => readDocument fuel (.object [] name :: outer) r
        | none => none
    | 'n' :: 'u' :: 'l' :: 'l' :: r => finish fuel outer .null r
    | 't' :: 'r' :: 'u' :: 'e' :: r => finish fuel outer (.bool true) r
    | 'f' :: 'a' :: 'l' :: 's' :: 'e' :: r => finish fuel outer (.bool false) r
    | 'N' :: 'a' :: 'N' :: r => finish fuel outer (.float .notANumber) r
    | 'I' :: 'n' :: 'f' :: 'i' :: 'n' :: 'i' :: 't' :: 'y' :: r =>
      finish fuel outer (.float (.infinite false)) r
    | '-' :: 'I' :: 'n' :: 'f' :: 'i' :: 'n' :: 'i' :: 't' :: 'y' :: r =>
      finish fuel outer (.float (.infinite true)) r
    | '-' :: r =>
      match readNumber true r with
      | some (j, r) => finish fuel outer j r
      | none => none
    | _ =>
      match readNumber false cs with
      | some (j, r) => finish fuel outer j r
      | none => none

/-- What follows a finished document: nothing more of it at the outermost level, else the rest of
    the innermost open collection. -/
def finish : Nat → List Open → Json → List Char → Option (Json × List Char)
  | 0, _, _, _ => none
  | _ + 1, [], j, r => some (j, r)
  | fuel + 1, .array items :: outer, j, r =>
    match skip r with
    | ']' :: r => finish fuel outer (.array (j :: items).reverse) r
    | ',' :: r => readDocument fuel (.array (j :: items) :: outer) (skip r)
    | _ => none
  | fuel + 1, .object members name :: outer, j, r =>
    match skip r with
    | '\x7d' :: r => finish fuel outer (.object (closeMembers ((name, j) :: members))) r
    | ',' :: r =>
      match readName (skip r) with
      | some (next, r) => readDocument fuel (.object ((name, j) :: members) next :: outer) r
      | none => none
    | _ => none

end

/-- The document that a text writes, with space around it. -/
def read? (s : String) : Option Json :=
  let cs := skip s.toList
  match readDocument (2 * cs.length + 2) [] cs with
  | some (j, r) => if (skip r).isEmpty then some j else none
  | none => none

end Assay.Json
