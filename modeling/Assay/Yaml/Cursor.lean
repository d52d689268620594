import Assay.Fault

/-!
# Places in a YAML text

A place in a text with its line and column, and the operations that move it. The end of the text is
read as the character NUL, which a YAML text cannot hold, so that every question about the next
character has an answer.

A column counts characters from the last line break; a byte order mark takes no column.

## Main definitions

* `Cursor`: A place.
* `Trouble`: Why a text has no value.
* `Lexing`: What reads from a place.
-/

namespace Assay.Yaml

/-- Why a text has no value: it is malformed, which is reported, or one of its scalars breaks the
    reading off. -/
inductive Trouble
  | malformed
  | fault (f : Fault)
  deriving DecidableEq, Repr

/-- A place in a text. -/
structure Cursor where
  rest : List Char
  index : Nat
  line : Nat
  column : Nat
  deriving DecidableEq, Repr

/-- The start of a text. -/
def Cursor.start (text : List Char) : Cursor := ⟨text, 0, 0, 0⟩

/-- What stands for the end of the text. -/
def endMark : Char := Char.ofNat 0

/-- Whether a character breaks a line. -/
def isBreak (c : Char) : Bool :=
  c == '\r' || c == '\n' || c.toNat == 0x85 || c.toNat == 0x2028 || c.toNat == 0x2029

/-- Whether a line or the text ends here. -/
def isBreakOrEnd (c : Char) : Bool :=
  isBreak c || c == endMark

/-- Whether a space stands here or a line or the text ends. -/
def isSpaceOrEnd (c : Char) : Bool :=
  c == ' ' || isBreakOrEnd c

/-- Whether a space or a tab stands here or a line or the text ends. -/
def isGapOrEnd (c : Char) : Bool :=
  c == '\t' || isSpaceOrEnd c

/-- Whether a character may stand in an anchor or in a tag's handle. -/
def isNameChar (c : Char) : Bool :=
  ('0' ≤ c && c ≤ '9') || ('A' ≤ c && c ≤ 'Z') || ('a' ≤ c && c ≤ 'z') || c == '-' || c == '_'

namespace Cursor

/-- The next character. -/
def peek (c : Cursor) : Char :=
  match c.rest with
  | [] => endMark
  | ch :: _ => ch

/-- The character `k` places on. -/
def peekAt (c : Cursor) (k : Nat) : Char :=
  (c.rest[k]?).getD endMark

/-- The place after the next character. -/
def forward (c : Cursor) : Cursor :=
  match c.rest with
  | [] => c
  | ch :: r =>
    if ch = '\r' ∧ r.head? = some '\n' then ⟨r, c.index + 1, c.line, c.column + 1⟩
    else if isBreak ch then ⟨r, c.index + 1, c.line + 1, 0⟩
    else if ch.toNat = 0xFEFF then ⟨r, c.index + 1, c.line, c.column⟩
    else ⟨r, c.index + 1, c.line, c.column + 1⟩

/-- The place after `n` characters. -/
def forwardBy : Nat → Cursor → Cursor
  | 0, c => c
  | n + 1, c => forwardBy n c.forward

/-- The characters up to the first that fails a test, and the place of that one. -/
def span (test : Char → Bool) (c : Cursor) : List Char × Cursor :=
  go c.rest c []
where
  go : List Char → Cursor → List Char → List Char × Cursor
    | [], c, taken => (taken.reverse, c)
    | ch :: r, c, taken =>
      if test ch then go r c.forward (ch :: taken) else (taken.reverse, c)

/-- Whether the marks of a document, three dashes or three points, stand here by themselves. -/
def atDocumentMark (c : Cursor) : Bool :=
  match c.rest with
  | '-' :: '-' :: '-' :: _ => isGapOrEnd (c.peekAt 3)
  | '.' :: '.' :: '.' :: _ => isGapOrEnd (c.peekAt 3)
  | _ => false

/-- The line break here as it counts in a scalar, and the place after it. -/
def lineBreak (c : Cursor) : List Char × Cursor :=
  let ch := c.peek
  if ch = '\r' ∧ c.peekAt 1 = '\n' then (['\n'], c.forwardBy 2)
  else if ch = '\r' ∨ ch = '\n' ∨ ch.toNat = 0x85 then (['\n'], c.forward)
  else if ch.toNat = 0x2028 ∨ ch.toNat = 0x2029 then ([ch], c.forward)
  else ([], c)

end Cursor

/-- What reads from a place. -/
abbrev Lexing := StateT Cursor (Except Trouble)

/-- The text is malformed here. -/
def malformed {α : Type} : Lexing α := throw .malformed

/-- The next character. -/
def peek : Lexing Char := return (← get).peek

/-- The character `k` places on. -/
def peekAt (k : Nat) : Lexing Char := return (← get).peekAt k

/-- Moves on by `n` characters. -/
def forward (n : Nat) : Lexing Unit := modify fun c => c.forwardBy n

/-- Takes the characters up to the first that fails a test. -/
def takeWhile (test : Char → Bool) : Lexing (List Char) := do
  let (taken, c) := (← get).span test
  set c
  return taken

/-- Passes over spaces. -/
def skipSpaces : Lexing Unit := do
  let _ ← takeWhile fun c => c == ' '

/-- Takes the line break here, if there is one. -/
def takeBreak : Lexing (List Char) := do
  let (text, c) := (← get).lineBreak
  set c
  return text

/-- Passes over the rest of a line that may hold only spaces and a comment. -/
def skipRestOfLine : Lexing Unit := do
  skipSpaces
  if (← peek) = '#' then
    let _ ← takeWhile fun c => !isBreakOrEnd c
  unless isBreakOrEnd (← peek) do malformed
  let _ ← takeBreak

end Assay.Yaml
