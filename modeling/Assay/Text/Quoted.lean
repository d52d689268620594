import Assay.Text.Printable

/-!
# Quoted text

The quoted form in which a value is shown inside a message. Text stands between apostrophes, or
between quotation marks when it holds an apostrophe and no quotation mark; the quote in use, the
backslash, line breaks and tabs are written as two-character escapes, and every other character
that cannot be printed as its code point in hexadecimal.

## Main definitions

* `hexadecimal`: A number in lower-case hexadecimal with a least width.
* `quoteChars`, `quote`: The quoted form of a text.
* `quoteBytes`: The quoted form of a byte string.
-/

namespace Assay.Text

/-- The lower-case hexadecimal digits of a number, padded with zeros to `width`. -/
def hexadecimal (width n : Nat) : List Char :=
  let digits := Nat.toDigits 16 n
  List.replicate (width - digits.length) '0' ++ digits

/-- Quotation marks surround a text that holds an apostrophe and no quotation mark; apostrophes
    surround every other. -/
def quoteMark (cs : List Char) : Char :=
  if cs.contains '\'' && !cs.contains '"' then '"' else '\''

/-- The escape of a code point by its number: two, four or eight hexadecimal digits. -/
def escapePoint (n : Nat) : List Char :=
  if n < 0x100 then '\\' :: 'x' :: hexadecimal 2 n
  else if n < 0x10000 then '\\' :: 'u' :: hexadecimal 4 n
  else '\\' :: 'U' :: hexadecimal 8 n

/-- One character inside quotes. -/
def quoteChar (mark c : Char) : List Char :=
  if c = mark ∨ c = '\\' then ['\\', c]
  else if c = '\n' then ['\\', 'n']
  else if c = '\r' then ['\\', 'r']
  else if c = '\t' then ['\\', 't']
  else if isPrintable c then [c]
  else escapePoint c.toNat

/-- Characters in their quoted form. -/
def quoteChars (cs : List Char) : List Char :=
  let mark := quoteMark cs
  mark :: (cs.flatMap (quoteChar mark) ++ [mark])

/-- A text in its quoted form. -/
def quote (s : String) : String :=
  String.ofList (quoteChars s.toList)

/-- A byte string in its quoted form: a `b`, then the bytes of printable ASCII as characters and
    all others in hexadecimal. -/
def quoteBytes (bytes : List UInt8) : String :=
  let cs := bytes.map fun b => Char.ofNat b.toNat
  let mark := quoteMark cs
  let body := cs.flatMap fun c =>
    if c.toNat < 127 then quoteChar mark c else escapePoint c.toNat
  String.ofList ('b' :: mark :: (body ++ [mark]))

end Assay.Text
