import Assay.Yaml.Token.Property
import Assay.Yaml.Token.Scalar

/-!
# The tokens of a text

Turning a text into its tokens needs to know the indentation of the open block collections, the
depth of the open flow collections, and the places where a key may have begun: a key is recognised
only at the colon after it, and then the tokens that announce it go in front of what has been read
of it. A key in this sense stays on one line and has at most 1024 characters.

A text that goes wrong somewhere still has tokens up to there; whether anyone notices depends on
what the tokens before say.

## Main definitions

* `Candidate`: A place where a key may have begun.
* `Lexer`: What turning a text into tokens keeps.
* `tokens`: The tokens of a text, and what is wrong after them.
-/

namespace Assay.Yaml

/-- A place where a key may have begun: the number of tokens before it, whether a colon has to
    follow, and its place in the text. -/
structure Candidate where
  number : Nat
  required : Bool
  index : Nat
  line : Nat
  column : Nat
  deriving DecidableEq, Repr

/-- What turning a text into tokens keeps. -/
structure Lexer where
  cursor : Cursor
  /-- The tokens so far, last first. -/
  tokens : List Token
  /-- The number of tokens so far. -/
  count : Nat
  /-- The number of open flow collections. -/
  depth : Nat
  /-- The indentation of the innermost block collection, -1 outside of all. -/
  indent : Int
  /-- The indentations of the collections around it, innermost first. -/
  outer : List Int
  /-- Whether a key may begin here. -/
  keyAllowed : Bool
  /-- The places where a key may have begun, by the depth of flow collections. -/
  candidates : List (Nat × Candidate)
  deriving DecidableEq, Repr

namespace Lexer

/-- A text before its first token. -/
def start (text : List Char) : Lexer :=
  ⟨.start text, [], 0, 0, -1, [], true, []⟩

/-- One more token. -/
def emit (l : Lexer) (t : Token) : Lexer :=
  { l with tokens := t :: l.tokens, count := l.count + 1 }

/-- One more token, put behind the first `number` tokens. -/
def emitAt (l : Lexer) (number : Nat) (t : Token) : Lexer :=
  let later := l.count - number
  { l with
    tokens := l.tokens.take later ++ t :: l.tokens.drop later
    count := l.count + 1 }

/-- The column of the next character. -/
def column (l : Lexer) : Int := (l.cursor.column : Int)

/-- Runs a reading of characters. -/
def lex {α : Type} (l : Lexer) (reading : Lexing α) : Except Trouble (α × Lexer) :=
  match reading.run l.cursor with
  | .ok (a, c) => .ok (a, { l with cursor := c })
  | .error e => .error e

/-- Closes the block collections that are indented further than a column. -/
def unwindFrom (column : Int) : List Int → Lexer → Lexer
  | [], l => l
  | i :: outer, l =>
    if column < l.indent then unwindFrom column outer { l.emit .blockEnd with indent := i, outer := outer }
    else l

/-- Closes the block collections that are indented further than a column; inside a flow collection
    indentation means nothing. -/
def unwind (l : Lexer) (column : Int) : Lexer :=
  if l.depth = 0 then unwindFrom column l.outer l else l

/-- Opens a block collection at a column if it is indented further; the token that opens it goes behind
    the first `number` tokens. -/
def openBlock (l : Lexer) (column : Int) (number : Nat) (t : Token) : Lexer :=
  if l.indent < column then
    { l with indent := column, outer := l.indent :: l.outer }.emitAt number t
  else l

/-- Drops the candidates that lie on an earlier line or too far back; one that is required cannot be
    dropped. -/
def dropStale (l : Lexer) : Except Trouble Lexer :=
  let stale (c : Candidate) : Bool :=
    c.line != l.cursor.line || 1024 < l.cursor.index - c.index
  if l.candidates.any fun (_, c) => stale c && c.required then .error .malformed
  else .ok { l with candidates := l.candidates.filter fun (_, c) => !stale c }

/-- Drops the candidate of the present depth; one that is required cannot be dropped. -/
def dropCandidate (l : Lexer) : Except Trouble Lexer :=
  match l.candidates.lookup l.depth with
  | none => .ok l
  | some c =>
    if c.required then .error .malformed
    else .ok { l with candidates := l.candidates.filter fun (d, _) => d != l.depth }

/-- Notes that a key may begin here, where one may. -/
def noteCandidate (l : Lexer) : Except Trouble Lexer := do
  if l.keyAllowed then
    let required := l.depth == 0 && l.indent == l.column
    let l' ← l.dropCandidate
    let c := l.cursor
    return { l' with
      candidates := (l.depth, ⟨l.count, required, c.index, c.line, c.column⟩) :: l'.candidates }
  else return l

/-- Moves to the next token: over spaces, comments and line breaks, and over a byte order mark at the
    start of the text. -/
def skipToToken : Nat → Lexer → Lexer
  | 0, l => l
  | fuel + 1, l =>
    let (_, c) := l.cursor.span fun c => c == ' '
    let c := if c.peek = '#' then (c.span fun c => !isBreakOrEnd c).2 else c
    if isBreak c.peek then
      skipToToken fuel
        { l with cursor := c.lineBreak.2, keyAllowed := l.keyAllowed || l.depth == 0 }
    else { l with cursor := c }

/-- Moves over a byte order mark at the start of the text. -/
def skipMark (l : Lexer) : Lexer :=
  if l.cursor.index = 0 ∧ l.cursor.peek.toNat = 0xFEFF then { l with cursor := l.cursor.forward }
  else l

/-- A token that consists of `n` characters. -/
def mark (l : Lexer) (n : Nat) (t : Token) : Lexer :=
  { l with cursor := l.cursor.forwardBy n }.emit t

/-- What ends all block collections before a directive or a mark of a document. -/
def atDocumentLevel (l : Lexer) : Except Trouble Lexer := do
  let l ← (l.unwind (-1)).dropCandidate
  return { l with keyAllowed := false }

/-- The token that opens a flow collection. -/
def openFlow (l : Lexer) (t : Token) : Except Trouble Lexer := do
  let l ← l.noteCandidate
  return { l with depth := l.depth + 1, keyAllowed := true }.mark 1 t

/-- The token that closes a flow collection. -/
def closeFlow (l : Lexer) (t : Token) : Except Trouble Lexer := do
  let l ← l.dropCandidate
  if l.depth = 0 then throw .malformed
  return { l with depth := l.depth - 1, keyAllowed := false }.mark 1 t

/-- The comma of a flow collection. -/
def flowComma (l : Lexer) : Except Trouble Lexer := do
  let l ← { l with keyAllowed := true }.dropCandidate
  return l.mark 1 .flowEntry

/-- The dash of a block sequence. -/
def blockDash (l : Lexer) : Except Trouble Lexer := do
  if l.depth = 0 ∧ ¬ l.keyAllowed then throw .malformed
  let l := if l.depth = 0 then l.openBlock l.column l.count .blockSequenceStart else l
  let l ← { l with keyAllowed := true }.dropCandidate
  return l.mark 1 .blockEntry

/-- The question mark of a key. -/
def keyMark (l : Lexer) : Except Trouble Lexer := do
  if l.depth = 0 ∧ ¬ l.keyAllowed then throw .malformed
  let l := if l.depth = 0 then l.openBlock l.column l.count .blockMappingStart else l
  let l ← { l with keyAllowed := l.depth == 0 }.dropCandidate
  return l.mark 1 .key

/-- The colon of a value. If a key may have begun before, it has; the tokens that announce it go in
    front of it. -/
def valueMark (l : Lexer) : Except Trouble Lexer := do
  match l.candidates.lookup l.depth with
  | some c =>
    let l := { l with candidates := l.candidates.filter fun (d, _) => d != l.depth }
    -- The key was read before it was known to be one.
    let l := l.emitAt c.number .key
    let l := if l.depth = 0 then l.openBlock (c.column : Int) c.number .blockMappingStart else l
    return { l with keyAllowed := false }.mark 1 .value
  | none =>
    if l.depth = 0 ∧ ¬ l.keyAllowed then throw .malformed
    let l := if l.depth = 0 then l.openBlock l.column l.count .blockMappingStart else l
    let l ← { l with keyAllowed := l.depth == 0 }.dropCandidate
    return l.mark 1 .value

/-- A token that may begin a key and after which none may begin. -/
def content (l : Lexer) (reading : Lexing Token) : Except Trouble Lexer := do
  let l ← l.noteCandidate
  let (t, l) ← { l with keyAllowed := false }.lex reading
  return l.emit t

/-- A plain scalar. A key may begin after it if a line has ended. -/
def plainScalar (l : Lexer) : Except Trouble Lexer := do
  let l ← l.noteCandidate
  let ((text, ended), l) ← l.lex (lexPlain (l.depth != 0) (l.indent + 1))
  return { l with keyAllowed := ended }.emit (.scalar text true)

/-- A block scalar. -/
def blockScalar (l : Lexer) : Except Trouble Lexer := do
  let l ← { l with keyAllowed := true }.dropCandidate
  let (text, l) ← l.lex (lexBlock l.indent)
  return l.emit (.scalar text false)

/-- Whether a plain scalar begins here. -/
def beginsPlain (l : Lexer) : Bool :=
  let c := l.cursor.peek
  let special := "-?:,[]\x7b\x7d#&*!|>'\"%@`".toList.contains c || isGapOrEnd c
  !special ||
    (!isGapOrEnd (l.cursor.peekAt 1) && (c == '-' || (l.depth == 0 && (c == '?' || c == ':'))))

/-- The next token from a place where one begins, or `none` at the end of the text. -/
def next (l : Lexer) : Except Trouble (Option Lexer) := do
  let c := l.cursor.peek
  let gap := isGapOrEnd (l.cursor.peekAt 1)
  let atMargin := l.cursor.column = 0
  if c = endMark then return none
  else if c = '%' ∧ atMargin then
    let l ← l.atDocumentLevel
    let (t, l) ← l.lex lexDirective
    return some (l.emit t)
  else if atMargin ∧ l.cursor.atDocumentMark then
    let l ← l.atDocumentLevel
    return some (l.mark 3 (if c = '-' then .documentStart else .documentEnd))
  else if c = '[' then return some (← l.openFlow .flowSequenceStart)
  else if c = '\x7b' then return some (← l.openFlow .flowMappingStart)
  else if c = ']' then return some (← l.closeFlow .flowSequenceEnd)
  else if c = '\x7d' then return some (← l.closeFlow .flowMappingEnd)
  else if c = ',' then return some (← l.flowComma)
  -- A dash, a question mark and a colon that fail these tests may still begin a plain scalar.
  else if c = '-' ∧ gap then return some (← l.blockDash)
  else if c = '?' ∧ (gap ∨ l.depth ≠ 0) then return some (← l.keyMark)
  else if c = ':' ∧ (gap ∨ l.depth ≠ 0) then return some (← l.valueMark)
  else if c = '*' then return some (← l.content (return .reference (← lexName)))
  else if c = '&' then return some (← l.content (return .anchor (← lexName)))
  else if c = '!' then return some (← l.content lexTag)
  else if (c = '|' ∨ c = '>') ∧ l.depth = 0 then return some (← l.blockScalar)
  else if c = '\'' ∨ c = '"' then return some (← l.content (return .scalar (← lexQuoted) false))
  else if l.beginsPlain then return some (← l.plainScalar)
  else throw .malformed

/-- The tokens after those read, and what is wrong after them. `fuel` bounds their number. -/
def tokensFrom : Nat → Lexer → List Token × Option Trouble
  | 0, l => (l.tokens.reverse, some .malformed)
  | fuel + 1, l =>
    let l := skipToToken (l.cursor.rest.length + 1) l.skipMark
    match l.dropStale with
    | .error e => (l.tokens.reverse, some e)
    | .ok l =>
      -- What is indented less ends the blocks around it.
      let l := l.unwind l.column
      match l.next with
      | .error e => (l.tokens.reverse, some e)
      | .ok (some l) => tokensFrom fuel l
      -- At the end of the text all blocks are closed, and no key may be left waiting for its colon.
      | .ok none =>
        match (l.unwind (-1)).dropCandidate with
        | .error e => (l.tokens.reverse, some e)
        | .ok l => (l.tokens.reverse, none)

end Lexer

/-- The tokens of a text, and what is wrong after them. -/
def tokens (text : List Char) : List Token × Option Trouble :=
  (Lexer.start text).tokensFrom (text.length + 1)

end Assay.Yaml
