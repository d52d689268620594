import Assay.Pattern.Syntax
import Assay.Number.Integer
import Assay.Text.Identifier

/-!
# Reading the text of a pattern

The text of a pattern is read token by token. A token is one character, or a backslash with the
character after it, and the next token is always known in advance; so a backslash at the very end
is noticed when the token before it is taken.

Beside the text, a reader keeps what the whole pattern has to know: the flags that govern all of
it, the names and widths of the groups opened so far, and the groups that a condition has asked
for by number.

## Main definitions

* `Flags`: The flags.
* `Reader`: The state of reading, and `Reading`, what reads.
* `take`, `accept`, `failAt`: Taking a token, taking a certain one, and reporting a problem.
-/

namespace Assay.Pattern

open Text

/-- The flags of a pattern or of a part of one. -/
structure Flags where
  ignoreCase : Bool
  multiLine : Bool
  dotAll : Bool
  verbose : Bool
  ascii : Bool
  unicode : Bool
  template : Bool
  deriving DecidableEq, Repr

/-- No flag is set. -/
def Flags.none : Flags := ⟨false, false, false, false, false, false, false⟩

/-- The flags that are in one or the other. -/
def Flags.union (a b : Flags) : Flags :=
  ⟨a.ignoreCase || b.ignoreCase, a.multiLine || b.multiLine, a.dotAll || b.dotAll,
    a.verbose || b.verbose, a.ascii || b.ascii, a.unicode || b.unicode, a.template || b.template⟩

/-- The flags of a part that turns some on and some off. The choice between ASCII and Unicode is
    replaced when the part makes one. -/
def Flags.adjust (flags on off : Flags) : Flags :=
  let typed := on.ascii || on.unicode
  ⟨(flags.ignoreCase || on.ignoreCase) && !off.ignoreCase,
    (flags.multiLine || on.multiLine) && !off.multiLine,
    (flags.dotAll || on.dotAll) && !off.dotAll,
    (flags.verbose || on.verbose) && !off.verbose,
    if typed then on.ascii else flags.ascii,
    if typed then on.unicode else flags.unicode,
    flags.template || on.template⟩

/-- The flag of a letter. The letter for locales names no flag of a pattern on text. -/
def Flags.ofLetter? : Char → Option Flags
  | 'i' => some { Flags.none with ignoreCase := true }
  | 'm' => some { Flags.none with multiLine := true }
  | 's' => some { Flags.none with dotAll := true }
  | 'x' => some { Flags.none with verbose := true }
  | 'a' => some { Flags.none with ascii := true }
  | 'u' => some { Flags.none with unicode := true }
  | 't' => some { Flags.none with template := true }
  | _ => Option.none

/-- Whether a letter stands for a flag, be it one that is refused. -/
def isFlagLetter (c : Char) : Bool :=
  c == 'L' || (Flags.ofLetter? c).isSome

/-- How a part under these flags treats case. -/
def Flags.caseRule (flags : Flags) : CaseRule :=
  if !flags.ignoreCase then .strict else if flags.ascii then .ascii else .unicode

/-- The state of reading a pattern. -/
structure Reader where
  /-- The next token. -/
  next : Option (List Char)
  /-- What follows the next token. -/
  rest : List Char
  /-- The position after the next token. -/
  index : Nat
  /-- The flags that govern the whole pattern. -/
  flags : Flags
  /-- The named groups, last first. -/
  names : List (List Char × Nat)
  /-- The widths of the groups in order, of open groups none. -/
  widths : List (Option (Nat × Nat))
  /-- Inside a look-behind, the number that its first own group has. -/
  lookBehind : Option Nat
  /-- The groups that conditions ask for by number, with the place of the asking, last first. -/
  asked : List (Nat × Nat)

/-- What reads a part of a pattern. -/
abbrev Reading := StateT Reader (Except Stop)

/-- A problem at a position. -/
def problemAt {α : Type} (p : Problem) (position : Nat) : Reading α :=
  throw (.problem ⟨p, some position⟩)

/-- The position of the next token. -/
def position : Reading Nat := do
  let r ← get
  return r.index - (r.next.getD []).length

/-- A problem `back` characters before the next token. -/
def failAt {α : Type} (p : Problem) (back : Nat) : Reading α := do
  problemAt p ((← position) - back)

/-- Moves on by a token. -/
def advance : Reading Unit := do
  let r ← get
  match r.rest with
  | [] => set { r with next := none }
  | ['\\'] => problemAt .endInEscape r.index
  | '\\' :: c :: rest =>
    set { r with next := some ['\\', c], rest := rest, index := r.index + 2 }
  | c :: rest => set { r with next := some [c], rest := rest, index := r.index + 1 }

/-- The next token. -/
def peek : Reading (Option (List Char)) :=
  return (← get).next

/-- Takes the next token. -/
def take : Reading (Option (List Char)) := do
  let t ← peek
  advance
  return t

/-- Takes the next token if it is a certain character. -/
def accept (c : Char) : Reading Bool := do
  if (← peek) = some [c] then
    advance
    return true
  else return false

/-- Takes at most `n` single characters that pass a test. -/
def takeSome (test : Char → Bool) : Nat → Reading (List Char)
  | 0 => return []
  | n + 1 => do
    match ← peek with
    | some [c] =>
      if test c then
        advance
        return c :: (← takeSome test n)
      else return []
    | _ => return []

/-- Takes every single character that passes a test. -/
def takeWhile (test : Char → Bool) : Reading (List Char) := do
  takeSome test ((← get).rest.length + 1)

/-- The rest of a name up to a closing character, given what has been read of it. `fuel` bounds the
    number of tokens. -/
def takeNameFrom (close : Char) (what : String) : Nat → List Char → Reading (List Char)
  | 0, name => return name
  | fuel + 1, name => do
    match ← take with
    | none =>
      if name.isEmpty then failAt (.missingName what) 0
      else failAt (.unterminatedName close) name.length
    | some t =>
      if t = [close] then
        if name.isEmpty then failAt (.missingName what) 1 else return name
      else takeNameFrom close what fuel (name ++ t)

/-- Takes a name and the character that closes it. -/
def takeName (close : Char) (what : String) : Reading (List Char) := do
  takeNameFrom close what ((← get).rest.length + 2) []

/-- Refuses a name that is no identifier; the name and `1` more character have been taken. -/
def checkName (name : List Char) : Reading Unit := do
  unless isIdentifier name do failAt (.badGroupName name) (name.length + 1)

/-- Opens a group and gives its number; a name may be given once. -/
def openGroup (name : Option (List Char)) : Reading Nat := do
  let r ← get
  let number := r.widths.length
  match name with
  | none => set { r with widths := r.widths ++ [none] }
  | some name =>
    match r.names.lookup name with
    | some earlier => failAt (.redefinition name number earlier) (name.length + 1)
    | none =>
      set { r with widths := r.widths ++ [none], names := (name, number) :: r.names }
  return number

/-- Closes a group with its width. -/
def closeGroup (number : Nat) (width : Nat × Nat) : Reading Unit :=
  modify fun r => { r with widths := r.widths.set number (some width) }

/-- The width of a closed group. -/
def groupWidth? (number : Nat) : Reading (Option (Nat × Nat)) := do
  match (← get).widths[number]? with
  | some w => return w
  | none => return none

/-- Refuses inside a look-behind a group that is open or belongs to the same look-behind. -/
def checkLookBehind (number : Nat) : Reading Unit := do
  match (← get).lookBehind with
  | none => return ()
  | some first =>
    if (← groupWidth? number).isNone then failAt .openGroup 0
    if first ≤ number then failAt .sameLookBehind 0

end Assay.Pattern
