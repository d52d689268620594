import Assay.Pattern.Escape
import Assay.Pattern.Matcher

/-!
# Reading patterns

A pattern is a sequence of alternatives between bars, an alternative a sequence of items, and an item
a character, a set, a group or an anchor with the repetition that follows it. A text that is no
pattern is refused with the first problem met from the left; look-behinds without a fixed width are
found only when the whole text has been read.

## Main definitions

* `Pattern.read`: The pattern that a text writes.

-/

namespace Assay.Pattern

open Text

/-- What kind an item is for the repetition that may follow it. -/
inductive ItemKind
  | anchor
  | repeated
  | other
  deriving DecidableEq, Repr

/-- Whether a token is space between the items of a verbose pattern. -/
def isPatternSpace (t : List Char) : Bool :=
  match t with
  | [c] => c == ' ' || (9 ≤ c.toNat && c.toNat ≤ 13)
  | _ => false

/-- Passes over the rest of a line. -/
def skipLine : Nat → Reading Unit
  | 0 => return ()
  | fuel + 1 => do
    match ← take with
    | none => return ()
    | some t => if t = ['\n'] then return () else skipLine fuel

/-- Passes over the rest of a comment that began at `start`. -/
def skipComment (start : Nat) : Nat → Reading Unit
  | 0 => return ()
  | fuel + 1 => do
    match ← peek with
    | none => problemAt .unterminatedComment start
    | some _ => if (← take) = some [')'] then return () else skipComment start fuel

/-- One member of a set, and the token that wrote it. -/
def readMember (t : List Char) (flags : Flags) : Reading ClassItem :=
  match t with
  | ['\\', c] => readSetEscape c flags
  | c :: _ => return .range c.toNat c.toNat
  | [] => return .range 0 0

/-- The members of a set whose opening bracket stands at `start`, up to the closing bracket. A
    bracket that comes first is a member. -/
def readMembers (flags : Flags) (start : Nat) : Nat → List ClassItem → Reading (List ClassItem)
  | 0, items => return items
  | fuel + 1, items => do
    match ← take with
    | none => problemAt .unterminatedSet start
    | some low =>
      -- A closing bracket that comes first is a member itself.
      if low = [']'] ∧ ¬ items.isEmpty then return items
      else
        let first ← readMember low flags
        if ← accept '-' then
          match ← take with
          | none => problemAt .unterminatedSet start
          | some high =>
            -- A dash before the closing bracket is a member, and no range.
            if high = [']'] then return items ++ [first, .range 45 45]
            else
              let last ← readMember high flags
              let bad {α : Type} : Reading α :=
                failAt (.badRange low high) (low.length + 1 + high.length)
              match first, last with
              -- Only single characters bound a range; classes do not.
              | .range a _, .range b _ =>
                if b < a then bad else readMembers flags start fuel (items ++ [.range a b])
              | _, _ => bad
        else readMembers flags start fuel (items ++ [first])

/-- A set after its opening bracket. -/
def readSet (flags : Flags) : Reading Node := do
  let start := (← position) - 1
  let negated ← accept '^'
  let items ← readMembers flags start ((← get).rest.length + 2) []
  return .one ⟨negated, items, flags.caseRule⟩

/-- The bounds of a repetition in braces after the opening one, or `none` where the brace stands for
    itself; then nothing more has been taken. -/
def readBounds : Reading (Option (Nat × Nat)) := do
  if (← peek) = some ['\x7d'] then return none
  let saved ← get
  let start ← position
  let low ← takeWhile isAsciiDigit
  let comma ← accept ','
  let high ← if comma then takeWhile isAsciiDigit else pure low
  -- Without the closing brace the whole of it is read again as characters.
  unless ← accept '\x7d' do
    set saved
    return none
  let least := if low.isEmpty then 0 else decimalValue low
  let most := if high.isEmpty then unbounded else decimalValue high
  if !low.isEmpty && unbounded ≤ least then throw (.fault .repeatTooLarge)
  if !high.isEmpty && unbounded ≤ most then throw (.fault .repeatTooLarge)
  if !high.isEmpty && most < least then problemAt .minExceedsMax start
  return some (least, most)

/-- The bounds that a quantifier sets, or `none` where it is a brace that stands for itself. -/
def readQuantifier (c : Char) : Reading (Option (Nat × Nat)) :=
  if c = '?' then return some (0, 1)
  else if c = '*' then return some (0, unbounded)
  else if c = '+' then return some (1, unbounded)
  else readBounds

/-- The greed mark after a quantifier. -/
def readGreed : Reading Greed := do
  if ← accept '?' then return .lazy
  else if ← accept '+' then return .possessive
  else return .greedy

/-- The letters that turn flags on, after the first of them, with the token that ends them. -/
def readFlagsOn : Nat → Char → Flags → Reading (Flags × Char)
  | 0, c, on => return (on, c)
  | fuel + 1, c, on => do
    match Flags.ofLetter? c with
    | none => failAt .localeFlag 0
    | some flag =>
      let on := on.union flag
      -- The two character sets exclude each other.
      if on.ascii && on.unicode then failAt .incompatibleFlags 0
      match ← take with
      | none => failAt .missingFlagEnd 0
      | some t =>
        match t with
        | [d] =>
          if d = ')' ∨ d = ':' ∨ d = '-' then return (on, d)
          else if isFlagLetter d then readFlagsOn fuel d on
          else
            let letter := isWordChar d && !isDigit d && d != '_'
            failAt (if letter then .unknownFlag else .missingFlagEnd) 1
        | _ => failAt .missingFlagEnd t.length

/-- The letters that turn flags off, up to the colon. -/
def readFlagsOff : Nat → Char → Flags → Reading Flags
  | 0, _, off => return off
  | fuel + 1, c, off => do
    if c = 'a' ∨ c = 'u' ∨ c = 'L' then failAt .typeFlagOff 0
    let off := off.union ((Flags.ofLetter? c).getD Flags.none)
    match ← take with
    | none => failAt .missingColon 0
    | some t =>
      match t with
      | [d] =>
        if d = ':' then return off
        else if isFlagLetter d then readFlagsOff fuel d off
        else
          let letter := isWordChar d && !isDigit d && d != '_'
          failAt (if letter then .unknownFlag else .missingColon) 1
      | _ => failAt .missingColon t.length

/-- Flags after `(?`, beginning with `c`: those turned on and off in a group, or `none` after flags for
    the whole pattern, which have been set. -/
def readFlags (c : Char) : Reading (Option (Flags × Flags)) := do
  let fuel := (← get).rest.length + 2
  let (on, c) ← if c = '-' then pure (Flags.none, c) else readFlagsOn fuel c Flags.none
  -- Flags that are closed at once are flags of the whole pattern.
  if c = ')' then
    modify fun r => { r with flags := r.flags.union on }
    return none
  if on.template then failAt .globalFlagOn 1
  let off ←
    if c = '-' then
      match ← take with
      | none => failAt .missingFlag 0
      | some t =>
        match t with
        | [d] =>
          if isFlagLetter d then readFlagsOff fuel d Flags.none
          else
            let letter := isWordChar d && !isDigit d && d != '_'
            failAt (if letter then .unknownFlag else .missingFlag) 1
        | _ => failAt .missingFlag t.length
    else pure Flags.none
  if off.template then failAt .globalFlagOff 1
  -- A flag cannot be turned on and off in one place.
  if (on.ignoreCase && off.ignoreCase) || (on.multiLine && off.multiLine) ||
      (on.dotAll && off.dotAll) || (on.verbose && off.verbose) then failAt .flagOnAndOff 1
  return some (on, off)

/-- A reference to a group by name, after its opening. -/
def readNamedReference (flags : Flags) : Reading Node := do
  let name ← takeName ')' "group name"
  checkName name
  match (← get).names.lookup name with
  | none => failAt (.unknownGroupName name) (name.length + 1)
  | some number =>
    match ← groupWidth? number with
    | none => failAt .openGroup (name.length + 1)
    | some width =>
      checkLookBehind number
      return .again number flags.caseRule width

/-- The group that a condition asks for, by name or by number. -/
def readCondition : Reading Nat := do
  let name ← takeName ')' "group name"
  if isIdentifier name then
    match (← get).names.lookup name with
    | none => failAt (.unknownGroupName name) (name.length + 1)
    | some number =>
      checkLookBehind number
      return number
  else
    match Number.readInteger 10 name with
    | some (.ofNat number) =>
      if number = 0 then failAt .badGroupNumber (name.length + 1)
      if 1073741823 ≤ number then failAt (.invalidReference number) (name.length + 1)
      -- Whether there is such a group is only known at the end of the pattern.
      let place := (← position) - (name.length + 1)
      modify fun r =>
        if (r.asked.lookup number).isSome then r
        else { r with asked := r.asked ++ [(number, place)] }
      checkLookBehind number
      return number
    | _ => failAt (.badGroupName name) (name.length + 1)

/-- Items, last first, as one part. -/
def joinItems (items : List (Node × ItemKind)) : Node :=
  match items with
  | [] => .empty
  | (node, _) :: rest => rest.foldl (fun after item => .seq item.1 after) node

/-- How a group after `(` is read on: what comes of it directly, or its body. -/
inductive Opening
  /-- A part that is complete. -/
  | complete (node : Node)
  /-- Nothing but a comment or flags for the whole pattern. -/
  | nothing
  | body (name : Option (List Char)) (capture atomic : Bool) (flags : Flags)
  | looking (negated behind : Bool)
  | conditional (group : Nat)

/-- What stands between an opening parenthesis at `start` and the body of the group. `fresh` holds where
    flags for the whole pattern may stand. -/
def readOpening (start : Nat) (flags : Flags) (fresh : Bool) : Reading Opening := do
  unless ← accept '?' do return .body none true false flags
  match ← take with
  | none => failAt .unexpectedEnd 0
  | some t =>
    match t with
    | ['P'] =>
      if ← accept '<' then
        let name ← takeName '>' "group name"
        checkName name
        return .body (some name) true false flags
      else if ← accept '=' then return .complete (← readNamedReference flags)
      else
        match ← take with
        | none => failAt .unexpectedEnd 0
        | some u => failAt (.unknownExtension ('P' :: u)) (u.length + 2)
    | [':'] => return .body none false false flags
    | ['#'] =>
      skipComment start ((← get).rest.length + 2)
      return .nothing
    | ['='] => return .looking false false
    | ['!'] => return .looking true false
    | ['<'] =>
      match ← take with
      | none => failAt .unexpectedEnd 0
      | some u =>
        if u = ['='] then return .looking false true
        else if u = ['!'] then return .looking true true
        else failAt (.unknownExtension ('<' :: u)) (u.length + 2)
    | ['('] => return .conditional (← readCondition)
    | ['>'] => return .body none false true flags
    | [c] =>
      if isFlagLetter c || c == '-' then
        match ← readFlags c with
        | none =>
          unless fresh do problemAt .lateFlags start
          return .nothing
        | some (on, off) => return .body none false false (flags.adjust on off)
      else failAt (.unknownExtension t) 2
    | _ => failAt (.unknownExtension t) (t.length + 1)

/-- Takes the parenthesis that closes a group opened at `start`. -/
def closeParenthesis (start : Nat) : Reading Unit := do
  unless ← accept ')' do problemAt .unterminatedGroup start

/-- The part that a quantifier applies to, taken off the items. -/
def repeatLast (quantifier : Nat) (items : List (Node × ItemKind)) (least most : Nat) :
    Reading (List (Node × ItemKind)) := do
  match items with
  | [] => problemAt .nothingToRepeat quantifier
  | (_, .anchor) :: _ => problemAt .nothingToRepeat quantifier
  | (_, .repeated) :: _ => problemAt .multipleRepeat quantifier
  | (node, .other) :: rest =>
    let greed ← readGreed
    return (.rounds greed least most node, .repeated) :: rest

/-- The part that any character but a line break matches, or any character at all. -/
def anyNode (flags : Flags) : Node :=
  if flags.dotAll then .one ⟨false, [.range 0 0x10FFFF], .strict⟩
  else .one ⟨true, [.range 10 10], .strict⟩

mutual

/-- Alternatives between bars. `scope` holds the flags inside a group, and `first` whether flags for the
    whole pattern may still come. -/
def readAlternatives : Nat → Option Flags → Bool → Reading Node
  | 0, _, _ => return .empty
  | fuel + 1, scope, first => do
    let a ← readItems fuel scope first []
    if ← accept '|' then return .alt a (← readAlternatives fuel scope false)
    else return a

/-- The items of an alternative after those read, which are given last first. -/
def readItems : Nat → Option Flags → Bool → List (Node × ItemKind) → Reading Node
  | 0, _, _, items => return joinItems items
  | fuel + 1, scope, first, items => do
    match ← peek with
    | none => return joinItems items
    | some t =>
      if t = ['|'] ∨ t = [')'] then return joinItems items
      else
        advance
        let flags := scope.getD (← get).flags
        if flags.verbose && isPatternSpace t then readItems fuel scope first items
        -- A comment ends with its line.
        else if flags.verbose && t == ['#'] then
          skipLine ((← get).rest.length + 2)
          readItems fuel scope first items
        else
          let go (node : Node) (kind : ItemKind) : Reading Node :=
            readItems fuel scope first ((node, kind) :: items)
          match t with
          | ['\\', c] =>
            let (node, isAnchor) ← readEscape c flags
            go node (if isAnchor then .anchor else .other)
          | ['['] => go (← readSet flags) .other
          | ['.'] => go (anyNode flags) .other
          | ['^'] => go (.anchor (if flags.multiLine then .lineStart else .textStart)) .anchor
          | ['$'] => go (.anchor (if flags.multiLine then .lineEnd else .textEnd)) .anchor
          | ['('] =>
            let start := (← position) - 1
            match ← readOpening start flags (first && items.isEmpty) with
            | .nothing => readItems fuel scope first items
            | .complete node => go node .other
            | .body name capture atomic inner =>
              if capture then
                -- Groups are numbered by their opening parentheses, so the number is taken before the
                -- body.
                let number ← openGroup name
                let body ← readAlternatives fuel (some inner) false
                closeParenthesis start
                closeGroup number body.width
                go (.group number body) .other
              else
                let body ← readAlternatives fuel (some inner) false
                closeParenthesis start
                go (if atomic then .atomic body else body) .other
            | .looking negated behind =>
              -- The outermost look back decides which groups may be referred to inside.
              let outer := (← get).lookBehind
              if behind && outer.isNone then
                modify fun r => { r with lookBehind := some r.widths.length }
              let body ← readAlternatives fuel (some flags) false
              if behind then modify fun r => { r with lookBehind := outer }
              closeParenthesis start
              go (.look negated behind body) .other
            | .conditional number =>
              let yes ← readItems fuel (some flags) false []
              let no ←
                if ← accept '|' then
                  let no ← readItems fuel (some flags) false []
                  -- A condition has two branches at most.
                  if (← peek) = some ['|'] then failAt .threeBranches 0
                  pure no
                else pure .empty
              closeParenthesis start
              go (.choice number yes no) .other
          | [c] =>
            if c = '?' ∨ c = '*' ∨ c = '+' ∨ c = '\x7b' then
              let quantifier := (← position) - 1
              match ← readQuantifier c with
              -- A brace that sets no bounds stands for itself.
              | none => go (pointNode flags c.toNat) .other
              | some (least, most) =>
                readItems fuel scope first (← repeatLast quantifier items least most)
            else go (pointNode flags c.toNat) .other
          | _ => readItems fuel scope first items

end

/-- The state before the first token. -/
def Reader.start (text : List Char) : Reader :=
  ⟨none, text, 0, Flags.none, [], [none], none, []⟩

/-- The first group that a condition asks for and the pattern lacks. -/
def missingGroup? (groups : Nat) : List (Nat × Nat) → Option (Nat × Nat)
  | [] => none
  | (number, place) :: rest =>
    if groups ≤ number then some (number, place) else missingGroup? groups rest

/-- Reads a whole pattern. -/
def readWhole (length : Nat) : Reading Pattern := do
  advance
  let node ← readAlternatives (2 * length + 4) none true
  let r ← get
  if r.flags.ascii && r.flags.unicode then throw (.fault .conflictingFlags)
  if r.next.isSome then failAt .unbalanced 0
  -- The groups that conditions ask for may stand behind them, so they are looked for now.
  match missingGroup? r.widths.length r.asked with
  | some (number, place) => problemAt (.invalidReference number) place
  | none =>
    match node.problem? r.flags.template with
    | some p => throw (.problem ⟨p, none⟩)
    | none => return ⟨node, r.widths.length - 1⟩

end Assay.Pattern

namespace Assay.Pattern

/-- The pattern that a text writes. -/
def read (text : String) : Except Stop Pattern :=
  let cs := text.toList
  match (readWhole cs.length).run (Reader.start cs) with
  | .ok (p, _) => .ok p
  | .error stop => .error stop

end Assay.Pattern
