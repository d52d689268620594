import Assay.Text.Digit
import Assay.Yaml.Cursor

/-!
# Scalars

The three ways to write a scalar: plain, in quotes, and as a block. In each of them a single line
break between two lines of text is folded to a space, except in a literal block, and an empty line
stands for a line break.

## Main definitions

* `lexPlain`: A plain scalar.
* `lexQuoted`: A scalar in quotes.
* `lexBlock`: A block scalar.
-/

namespace Assay.Yaml

open Text

/-- Line breaks joined as text: a first break that is a plain one is folded into a space, or into
    nothing when more breaks follow. -/
def foldBreaks (first : List Char) (more : List Char) : List Char :=
  if first ≠ ['\n'] then first ++ more
  else if more.isEmpty then [' ']
  else more

/-! ## Plain scalars -/

/-- Whether a plain scalar ends before `c`, which `d` follows. -/
def endsPlain (inFlow : Bool) (c d : Char) : Bool :=
  isGapOrEnd c ||
    (c == ':' && (isGapOrEnd d ||
      (inFlow && (d == ',' || d == '[' || d == ']' || d == '\x7b' || d == '\x7d')))) ||
    (inFlow && (c == ',' || c == '?' || c == '[' || c == ']' || c == '\x7b' || c == '\x7d'))

/-- A stretch of a plain scalar without spaces, and the place after it. -/
def plainStretch (inFlow : Bool) (c : Cursor) : List Char × Cursor :=
  go c.rest c []
where
  go : List Char → Cursor → List Char → List Char × Cursor
    | [], c, taken => (taken.reverse, c)
    | ch :: r, c, taken =>
      if endsPlain inFlow ch (r.head?.getD endMark) then (taken.reverse, c)
      else go r c.forward (ch :: taken)

/-- The empty lines between two lines of a plain scalar, or `none` when a document ends among
    them. -/
def plainBreaks : Nat → List Char → Lexing (Option (List Char))
  | 0, breaks => return some breaks
  | fuel + 1, breaks => do
    let c ← peek
    if c = ' ' then
      forward 1
      plainBreaks fuel breaks
    else if isBreak c then
      let b ← takeBreak
      if (← get).atDocumentMark then return none
      plainBreaks fuel (breaks ++ b)
    else return some breaks

/-- The space between two stretches of a plain scalar, or `none` where the scalar ends, and whether a
    line ended in it. -/
def plainSpace : Lexing (Option (List Char) × Bool) := do
  let blanks ← takeWhile fun c => c == ' '
  if isBreak (← peek) then
    let first ← takeBreak
    -- A mark of a document ends the scalar, however it is indented.
    if (← get).atDocumentMark then return (none, true)
    match ← plainBreaks ((← get).rest.length + 1) [] with
    | none => return (none, true)
    | some more => return (some (foldBreaks first more), true)
  else return (if blanks.isEmpty then none else some blanks, false)

/-- The stretches of a plain scalar after `text`, with the space before the next stretch. The second
    result tells whether a line has ended since the last stretch. -/
def plainFrom (inFlow : Bool) (indent : Int) :
    Nat → List Char → List Char → Bool → Lexing (List Char × Bool)
  | 0, text, _, ended => return (text, ended)
  | fuel + 1, text, space, ended => do
    if (← peek) = '#' then return (text, ended)
    let (stretch, after) := plainStretch inFlow (← get)
    if stretch.isEmpty then return (text, ended)
    set after
    let text := text ++ space ++ stretch
    match ← plainSpace with
    | (none, ended) => return (text, ended)
    | (some space, ended) =>
      -- A comment ends the scalar, and so does a line that is indented less.
      if (← peek) = '#' ∨ (¬ inFlow ∧ ((← get).column : Int) < indent) then return (text, ended)
      else plainFrom inFlow indent fuel text space ended

/-- A plain scalar, and whether a line ended after its text. -/
def lexPlain (inFlow : Bool) (indent : Int) : Lexing (List Char × Bool) := do
  plainFrom inFlow indent ((← get).rest.length + 1) [] [] false

/-! ## Scalars in quotes -/

/-- The characters that a two-character escape stands for. -/
def escapes : List (Char × Nat) :=
  [('0', 0), ('a', 7), ('b', 8), ('t', 9), ('\t', 9), ('n', 10), ('v', 11), ('f', 12), ('r', 13),
    ('e', 27), (' ', 32), ('"', 34), ('\\', 92), ('/', 47), ('N', 0x85), ('_', 0xA0), ('L', 0x2028),
    ('P', 0x2029)]

/-- The number of hexadecimal digits after an escape letter. -/
def escapeLength? : Char → Option Nat
  | 'x' => some 2
  | 'u' => some 4
  | 'U' => some 8
  | _ => none

/-- The line breaks and blanks between two lines in quotes. -/
def quotedBreaks : Nat → List Char → Lexing (List Char)
  | 0, breaks => return breaks
  | fuel + 1, breaks => do
    if (← get).atDocumentMark then malformed
    let _ ← takeWhile fun c => c == ' ' || c == '\t'
    if isBreak (← peek) then
      let b ← takeBreak
      quotedBreaks fuel (breaks ++ b)
    else return breaks

/-- An escape after its backslash. -/
def lexEscape : Lexing (List Char) := do
  let c ← peek
  match escapes.lookup c with
  | some n =>
    forward 1
    return [Char.ofNat n]
  | none =>
    match escapeLength? c with
    | some count =>
      forward 1
      let digits := (← get).rest.take count
      unless digits.length = count ∧ digits.all (fun d => (hexValue? d).isSome) do malformed
      let n := hexadecimalValue digits
      if 0x110000 ≤ n then throw (.fault .codePointTooLarge)
      forward count
      return [Char.ofNat n]
    | none =>
      -- An escaped line break is left out together with the blanks behind it.
      if isBreak c then
        let _ ← takeBreak
        quotedBreaks ((← get).rest.length + 1) []
      else malformed

/-- The text in quotes after `text`, up to the closing quote. -/
def quotedFrom (mark : Char) : Nat → List Char → Lexing (List Char)
  | 0, text => return text
  | fuel + 1, text => do
    let plain ← takeWhile fun c =>
      !(c == '\'' || c == '"' || c == '\\' || c == ' ' || c == '\t' || isBreakOrEnd c)
    let text := text ++ plain
    let c ← peek
    if c = mark then
      if mark = '\'' ∧ (← peekAt 1) = '\'' then
        -- Two single quotes stand for one.
        forward 2
        quotedFrom mark fuel (text ++ ['\''])
      else
        forward 1
        return text
    else if c = '\\' ∧ mark = '"' then
      forward 1
      let escaped ← lexEscape
      quotedFrom mark fuel (text ++ escaped)
    -- The other quote, and a backslash between single quotes, stand for themselves.
    else if c = '\'' ∨ c = '"' ∨ c = '\\' then
      forward 1
      quotedFrom mark fuel (text ++ [c])
    else
      let blanks ← takeWhile fun c => c == ' ' || c == '\t'
      let c ← peek
      if c = endMark then malformed
      if isBreak c then
        let first ← takeBreak
        let more ← quotedBreaks ((← get).rest.length + 1) []
        quotedFrom mark fuel (text ++ foldBreaks first more)
      else quotedFrom mark fuel (text ++ blanks)

/-- A scalar in quotes, from its opening quote on. -/
def lexQuoted : Lexing (List Char) := do
  let mark ← peek
  forward 1
  quotedFrom mark ((← get).rest.length + 1) []

/-! ## Block scalars -/

/-- What the header of a block says about the breaks after its last line: none is kept, one is kept,
    or all are. -/
inductive Chomping
  | strip
  | clip
  | keep
  deriving DecidableEq, Repr

/-- The indentation digit of a header. -/
def lexIncrement : Lexing (Option Nat) := do
  match asciiDigitValue? (← peek) with
  | some 0 => malformed
  | some n =>
    forward 1
    return some n
  | none => return none

/-- The chomping mark of a header. -/
def lexChomping : Lexing (Option Chomping) := do
  let c ← peek
  if c = '+' then
    forward 1
    return some .keep
  else if c = '-' then
    forward 1
    return some .strip
  else return none

/-- The header of a block after its first character: the two marks in either order, and nothing
    else but a comment. -/
def lexHeader : Lexing (Chomping × Option Nat) := do
  let (chomping, increment) ←
    match ← lexChomping with
    | some chomping => pure (chomping, ← lexIncrement)
    | none => do
      let increment ← lexIncrement
      match increment with
      | none => pure (Chomping.clip, none)
      | some _ => pure ((← lexChomping).getD .clip, increment)
  unless isSpaceOrEnd (← peek) do malformed
  skipRestOfLine
  return (chomping, increment)

/-- The empty lines before a block whose indentation is not given, and the deepest column of spaces
    among them and before the first text. -/
def blockIndentation : Nat → List Char → Nat → Lexing (List Char × Nat)
  | 0, breaks, deepest => return (breaks, deepest)
  | fuel + 1, breaks, deepest => do
    let c ← peek
    if c = ' ' then
      forward 1
      blockIndentation fuel breaks (max deepest (← get).column)
    else if isBreak c then
      let b ← takeBreak
      blockIndentation fuel (breaks ++ b) deepest
    else return (breaks, deepest)

/-- Passes over spaces up to a column. -/
def skipIndent (indent : Nat) : Nat → Lexing Unit
  | 0 => return ()
  | fuel + 1 => do
    let c ← get
    if c.column < indent ∧ c.peek = ' ' then
      forward 1
      skipIndent indent fuel
    else return ()

/-- The empty lines before a line of a block. -/
def blockBreaks (indent : Nat) : Nat → List Char → Lexing (List Char)
  | 0, breaks => return breaks
  | fuel + 1, breaks => do
    skipIndent indent indent
    if isBreak (← peek) then
      let b ← takeBreak
      blockBreaks indent fuel (breaks ++ b)
    else return breaks

/-- The lines of a block after `text`, with the empty lines before the next one. The results are the
    text, the break after its last line and the empty lines after that. -/
def blockFrom (folded : Bool) (indent : Nat) :
    Nat → List Char → List Char → List Char → Lexing (List Char × List Char × List Char)
  | 0, text, last, breaks => return (text, last, breaks)
  | fuel + 1, text, last, breaks => do
    let c ← get
    if c.column ≠ indent ∨ c.peek = endMark then return (text, last, breaks)
    let startsWithText := !(c.peek == ' ' || c.peek == '\t')
    let line ← takeWhile fun c => !isBreakOrEnd c
    let text := text ++ breaks ++ line
    let last ← takeBreak
    let breaks ← blockBreaks indent ((← get).rest.length + 1) []
    let c ← get
    if c.column = indent ∧ c.peek ≠ endMark then
      let goesOn := !(c.peek == ' ' || c.peek == '\t')
      -- A folded break is a space between two lines of text, but not beside a line that is indented
      -- further.
      if folded && last == ['\n'] && startsWithText && goesOn then
        blockFrom folded indent fuel (if breaks.isEmpty then text ++ [' '] else text) last breaks
      else blockFrom folded indent fuel (text ++ last) last breaks
    else return (text, last, breaks)

/-- A block scalar inside the indentation `outer`, from its first character on. -/
def lexBlock (outer : Int) : Lexing (List Char) := do
  let folded := (← peek) == '>'
  forward 1
  let (chomping, increment) ← lexHeader
  -- The text is indented further than what the block stands in.
  let least := max (outer + 1) 1 |>.toNat
  let fuel := (← get).rest.length + 1
  let (indent, breaks) ←
    match increment with
    | some n => do
      let indent := least + n - 1
      pure (indent, ← blockBreaks indent fuel [])
    | none => do
      let (breaks, deepest) ← blockIndentation fuel [] 0
      pure (max least deepest, breaks)
  let (text, last, breaks) ← blockFrom folded indent fuel [] [] breaks
  return match chomping with
    | .strip => text
    | .clip => text ++ last
    | .keep => text ++ last ++ breaks

end Assay.Yaml
