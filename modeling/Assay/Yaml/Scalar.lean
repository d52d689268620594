import Assay.Number.Decimal
import Assay.Text.Search
import Assay.Value.Basic
import Assay.Yaml.Node

/-!
# Scalars as values

Which value a scalar has. A scalar without a tag is classed by its text, by the forms of truth
words, numbers, nothing, and dates; one that has none of these forms is text. A scalar with a tag
is read as what the tag says, and the reading of a number, a truth word or a date breaks off when
the text has not got the form.

## Main definitions

* `classOf`: The class of a scalar's text.
* `Class.read`: The value of a text in a class.
-/

namespace Assay.Yaml

open Text Number

/-- The classes of scalars, by their standard tags. -/
inductive Class
  | null
  | bool
  | int
  | float
  | binary
  | timestamp
  | text
  /-- The mark that merges mappings. -/
  | merge
  /-- The mark of a default value. -/
  | default
  /-- A mark of the language itself. -/
  | markup
  deriving DecidableEq, Repr

/-! ## The forms of plain text -/

/-- Digits and underscores after a first digit. -/
def isDigitRun (cs : List Char) : Bool :=
  match cs with
  | [] => false
  | c :: r => isAsciiDigit c && r.all fun c => isAsciiDigit c || c == '_'

/-- The characters without a leading sign. -/
def dropSign : List Char → List Char
  | '+' :: r => r
  | '-' :: r => r
  | cs => cs

/-- Whether the parts after the first of a number in base sixty are right: one or two digits each, the
    first of two below 6. -/
def isBaseSixty (parts : List (List Char)) : Bool :=
  !parts.isEmpty && parts.all fun p =>
    match p with
    | [a] => isAsciiDigit a
    | [a, b] => '0' ≤ a && a ≤ '5' && isAsciiDigit b
    | _ => false

/-- The forms of integers: binary, octal, decimal, hexadecimal and base sixty. -/
def isIntForm (cs : List Char) : Bool :=
  let body := dropSign cs
  let tail (test : Char → Bool) (r : List Char) : Bool :=
    !r.isEmpty && r.all fun c => test c || c == '_'
  let byPrefix := match body with
    | '0' :: 'b' :: r => tail (fun c => c == '0' || c == '1') r
    | '0' :: 'x' :: r => tail (fun c => (hexValue? c).isSome) r
    | '0' :: r => r.isEmpty || tail (fun c => '0' ≤ c && c ≤ '7') r
    | _ => false
  let byDigits := match body with
    | c :: _ =>
      c != '0' && (match splitChars ':' body with
        | [whole] => isDigitRun whole
        | whole :: parts => isDigitRun whole && isBaseSixty parts
        | [] => false)
    | [] => false
  byPrefix || byDigits

/-- An exponent with a sign, or nothing. -/
def isSignedExponent (cs : List Char) : Bool :=
  match cs with
  | [] => true
  | e :: s :: r => (e == 'e' || e == 'E') && (s == '+' || s == '-') && !r.isEmpty && r.all isAsciiDigit
  | _ => false

/-- The forms of decimals: a number with a point, one in base sixty with a point, infinity, and what is
    not a number. -/
def isFloatForm (cs : List Char) : Bool :=
  let body := dropSign cs
  let isRun (c : Char) : Bool := isAsciiDigit c || c == '_'
  let pointed (cs : List Char) : Bool :=
    match cs.span isRun with
    | (whole, '.' :: r) =>
      isDigitRun whole && isSignedExponent (r.dropWhile isRun)
    | _ => false
  let bare := match cs with
    | '.' :: c :: r => isAsciiDigit c && isSignedExponent (r.dropWhile isRun)
    | _ => false
  let sixty := match partitionChars '.' body with
    | some (before, after) =>
      after.all isRun && (match splitChars ':' before with
        | whole :: parts => isDigitRun whole && isBaseSixty parts
        | [] => false)
    | none => false
  let word (cs : List Char) : String := String.ofList cs
  pointed body || bare || sixty ||
    [".inf", ".Inf", ".INF"].contains (word body) || [".nan", ".NaN", ".NAN"].contains (word cs)

/-- The truth words with their values. -/
def truthWords : List (String × Bool) :=
  [("yes", true), ("no", false), ("true", true), ("false", false), ("on", true), ("off", false)]

/-- A word with a capital first letter. -/
def capitalized (s : String) : String :=
  match s.toList with
  | [] => ""
  | c :: r => String.ofList (c.toUpper :: r)

/-- Whether a text is a truth word, in small letters, in capitals, or with one capital. -/
def isTruthForm (s : String) : Bool :=
  truthWords.any fun (w, _) => s == w || s == w.toUpper || s == capitalized w

/-! ## Dates -/

/-- The parts of a written date. -/
structure DateText where
  year : List Char
  month : List Char
  day : List Char
  time : Option (List Char × List Char × List Char)
  fraction : List Char
  /-- The sign, the hours and the minutes of an offset; a bare `Z` has no digits. -/
  zone : Option (Char × List Char × List Char)
  deriving DecidableEq, Repr

/-- Takes from `least` to `most` digits. -/
def takeDigits (least most : Nat) (cs : List Char) : Option (List Char × List Char) :=
  let digits := (cs.take most).takeWhile isAsciiDigit
  if digits.length < least then none else some (digits, cs.drop digits.length)

/-- Takes a certain character. -/
def takeChar (c : Char) : List Char → Option (List Char)
  | d :: r => if c = d then some r else none
  | [] => none

/-- The zone at the end of a date. -/
def readZone (cs : List Char) : Option (Option (Char × List Char × List Char)) :=
  match cs.dropWhile fun c => c == ' ' || c == '\t' with
  | [] => if cs.isEmpty then some none else none
  | ['Z'] => some (some ('Z', [], []))
  | c :: r =>
    if c = '+' ∨ c = '-' then
      match takeDigits 1 2 r with
      | none => none
      | some (hours, []) => some (some (c, hours, []))
      | some (hours, r) =>
        match takeChar ':' r with
        | none => none
        | some r =>
          match takeDigits 2 2 r with
          | some (minutes, []) => some (some (c, hours, minutes))
          | _ => none
    else none

/-- The time of day and what follows it, after the mark or the space that separates it from the
    date. -/
def readTimeOfDay (cs : List Char) :
    Option ((List Char × List Char × List Char) × List Char × List Char) := do
  let (hour, r) ← takeDigits 1 2 cs
  let (minute, r) ← takeDigits 2 2 (← takeChar ':' r)
  let (second, r) ← takeDigits 2 2 (← takeChar ':' r)
  match r with
  | '.' :: r => return ((hour, minute, second), r.span isAsciiDigit)
  | r => return ((hour, minute, second), [], r)

/-- The characters after the mark or the space between a date and a time. -/
def dropTimeMark (cs : List Char) : Option (List Char) :=
  match cs with
  | [] => none
  | c :: r =>
    if c = 'T' ∨ c = 't' then some r
    else if c = ' ' ∨ c = '\t' then some (r.dropWhile fun c => c == ' ' || c == '\t')
    else none

/-- The parts of a written date. -/
def readDateText (cs : List Char) : Option DateText := do
  let (year, r) ← takeDigits 4 4 cs
  let (month, r) ← takeDigits 1 2 (← takeChar '-' r)
  let (day, r) ← takeDigits 1 2 (← takeChar '-' r)
  if r.isEmpty then return ⟨year, month, day, none, [], none⟩
  let (time, fraction, r) ← readTimeOfDay (← dropTimeMark r)
  let zone ← readZone r
  return ⟨year, month, day, some time, fraction, zone⟩

/-- Whether a text has the form of a date. Without a time, month and day have two digits. -/
def isDateForm (cs : List Char) : Bool :=
  match readDateText cs with
  | some d => d.time.isSome || (d.month.length == 2 && d.day.length == 2)
  | none => false

/-- The value of a written date. -/
def DateText.toValue (d : DateText) : Except Trouble Value :=
  let date : Date := ⟨decimalValue d.year, decimalValue d.month, decimalValue d.day⟩
  match d.time with
  | none => if date.valid then .ok (.date date) else .error (.fault .impossibleDate)
  | some (hour, minute, second) =>
    let micro := (d.fraction.take 6) ++ List.replicate (6 - d.fraction.length) '0'
    let offset := d.zone.map fun (sign, hours, minutes) =>
      let s : Int := ((decimalValue hours * 3600 + decimalValue minutes * 60 : Nat) : Int)
      if sign = '-' then -s else s
    let t : Timestamp :=
      ⟨date, decimalValue hour, decimalValue minute, decimalValue second, decimalValue micro, offset⟩
    if t.valid then .ok (.timestamp t) else .error (.fault .impossibleDate)

/-! ## Classes -/

/-- A text without one line break at its end: the forms of scalars overlook it. -/
def withoutFinalBreak (cs : List Char) : List Char :=
  match cs.reverse with
  | '\n' :: r => r.reverse
  | _ => cs

/-- The class of a scalar's text. The forms are looked at in a fixed order, and each only for texts that
    begin with one of its characters. -/
def classOf (cs : List Char) : Class :=
  let body := withoutFinalBreak cs
  let s := String.ofList body
  match cs with
  | [] => .null
  | c :: _ =>
    let begins (firsts : String) : Bool := firsts.toList.contains c
    if begins "yYnNtTfFoO" && isTruthForm s then .bool
    else if begins "-+0123456789." && isFloatForm body then .float
    else if begins "-+0123456789" && isIntForm body then .int
    else if begins "<" && s == "<<" then .merge
    else if begins "~nN" && ["~", "null", "Null", "NULL"].contains s then .null
    else if begins "0123456789" && isDateForm body then .timestamp
    else if begins "=" && s == "=" then .default
    else if begins "!&*" && ["!", "&", "*"].contains s then .markup
    else .text

/-- The classes by the names of their tags. -/
def Class.ofTag? (tag : String) : Option Class :=
  [("null", Class.null), ("bool", .bool), ("int", .int), ("float", .float), ("binary", .binary),
    ("timestamp", .timestamp), ("str", .text), ("merge", .merge), ("value", .default),
    ("yaml", .markup)].lookup
    (match dropFront? "tag:yaml.org,2002:".toList tag.toList with
      | some name => String.ofList name
      | none => "")

/-! ## Values -/

/-- A number in base sixty from its parts, the last one of least weight. -/
def baseSixty (parts : List Int) : Int :=
  parts.foldl (fun n d => 60 * n + d) 0

/-- The integer that a text writes after its sign. -/
def readIntBody (negative : Bool) (cs : List Char) : Except Trouble Value :=
  let signed (n : Option Int) : Except Trouble Value :=
    match n with
    | some n => .ok (.int (if negative then -n else n))
    | none => .error (.fault .malformedNumber)
  match cs with
  | [] => .error (.fault .noDigits)
  | ['0'] => .ok (.int 0)
  | '0' :: 'b' :: r => signed (readInteger 2 r)
  | '0' :: 'x' :: r => signed (readInteger 16 r)
  | '0' :: _ => signed (readInteger 8 cs)
  | _ =>
    if cs.contains ':' then
      signed (((splitChars ':' cs).mapM (readInteger 10)).map baseSixty)
    else signed (readInteger 10 cs)

/-- The sum of the parts of a decimal in base sixty, the part of least weight first. -/
def sumSixty : List Binary64 → Nat → Binary64 → Binary64
  | [], _, sum => sum
  | x :: xs, base, sum => sumSixty xs (base * 60) (sum.add (x.scale base))

/-- The decimal that a text writes after its sign. -/
def readFloatBody (negative : Bool) (cs : List Char) : Except Trouble Value :=
  let signed (x : Binary64) : Except Trouble Value :=
    .ok (.float (if negative then x.neg else x))
  if cs = ".inf".toList then signed (.infinite false)
  else if cs = ".nan".toList then .ok (.float .notANumber)
  else
    let read := if cs.contains ':' then
        ((splitChars ':' cs).mapM readDecimal).map fun parts =>
          sumSixty parts.reverse 1 (.zero false)
      else readDecimal cs
    match read with
    | some x => signed x
    | none => .error (.fault .malformedNumber)

/-- The value of a base-64 digit. -/
def base64Value? (c : Char) : Option Nat :=
  if 'A' ≤ c ∧ c ≤ 'Z' then some (c.toNat - 65)
  else if 'a' ≤ c ∧ c ≤ 'z' then some (c.toNat - 71)
  else if '0' ≤ c ∧ c ≤ '9' then some (c.toNat + 4)
  else if c = '+' then some 62
  else if c = '/' then some 63
  else none

/-- The bytes of base-64 digits. `count` is the place in the group of four, `left` the bits read of it
    and not yet written, and `pads` the number of padding characters since the last digit. Other
    characters do not count; padding that completes a group ends the text. -/
def base64Bytes : List Char → Nat → Nat → Nat → Option (List UInt8)
  | [], count, _, _ => if count = 0 then some [] else none
  | c :: cs, count, left, pads =>
    if c = '=' then
      if 2 ≤ count ∧ 4 ≤ count + (pads + 1) then some []
      else base64Bytes cs count left (pads + 1)
    else match base64Value? c with
      | none => base64Bytes cs count left pads
      | some v =>
        match count with
        | 0 => base64Bytes cs 1 v 0
        | 1 => (base64Bytes cs 2 (v % 16) 0).map (UInt8.ofNat (left * 4 + v / 16) :: ·)
        | 2 => (base64Bytes cs 3 (v % 4) 0).map (UInt8.ofNat (left * 16 + v / 4) :: ·)
        | _ => (base64Bytes cs 0 0 0).map (UInt8.ofNat (left * 64 + v) :: ·)

/-- The bytes that a text writes in base 64. -/
def readBinary (cs : List Char) : Except Trouble Value :=
  if cs.any fun c => 128 ≤ c.toNat then .error .malformed
  else match base64Bytes cs 0 0 0 with
    | some bytes => .ok (.bytes bytes)
    | none => .error .malformed

/-- The sign of a number with its underscores taken out, and the rest of it. -/
def numberParts (cs : List Char) : Option (Bool × List Char) :=
  match cs.filter fun c => c != '_' with
  | [] => none
  | c :: r =>
    if c = '-' then some (true, r) else if c = '+' then some (false, r) else some (false, c :: r)

/-- The value of a text in a class. -/
def Class.read (k : Class) (cs : List Char) : Except Trouble Value :=
  match k with
  | .null => .ok .null
  | .bool =>
    match truthWords.lookup (String.ofList (cs.map Char.toLower)) with
    | some b => .ok (.bool b)
    | none => .error (.fault .unknownTruthWord)
  | .int =>
    match numberParts cs with
    | none => .error (.fault .noDigits)
    | some (negative, body) => readIntBody negative body
  | .float =>
    match numberParts (cs.map Char.toLower) with
    | none => .error (.fault .noDigits)
    | some (negative, body) => readFloatBody negative body
  | .binary => readBinary cs
  | .timestamp =>
    match readDateText (withoutFinalBreak cs) with
    | some d => d.toValue
    | none => .error (.fault .malformedDate)
  | .text => .ok (.text (String.ofList cs))
  | .merge | .default | .markup => .error .malformed

end Assay.Yaml
