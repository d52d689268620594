import Assay.Pattern.Syntax

/-!
# Matching

A search tries the places of a text from the left and takes the first one where the pattern
matches. At one place the pattern's choices are tried in its own order of preference, and each part
is run with what is to happen after it: `run node place next` gives the first outcome of `next`
over the places where `node` can end.

A round of a repetition that is not among the required ones must end elsewhere than the last such
round began, so the rounds are bounded by the required number and the characters left, and the
recursion needs no other measure.

## Main definitions

* `Place`: A place in a text with the groups matched on the way to it.
* `run`: The outcome of a part followed by what comes next.
* `search`: The groups of the first match in a text.
-/

namespace Assay.Pattern

open Text

/-- A place in a text: the number of characters before it, those characters, last first, what lies
    after it, and the texts of the groups matched so far. -/
structure Place where
  position : Nat
  before : List Char
  after : List Char
  captures : List (Nat × List Char)

/-- What comes after a part: from a place to the outcome, if there is one. -/
abbrev Next := Place → Option Place

/-- The place one character on. -/
def Place.step? (p : Place) : Option (Char × Place) :=
  match p.after with
  | [] => none
  | c :: r => some (c, ⟨p.position + 1, c :: p.before, r, p.captures⟩)

/-- The place one character back. -/
def Place.back? (p : Place) : Option Place :=
  match p.before with
  | [] => none
  | c :: r => some ⟨p.position - 1, r, c :: p.after, p.captures⟩

/-- The place `n` characters back. -/
def Place.retreat? : Nat → Place → Option Place
  | 0, p => some p
  | n + 1, p =>
    match p.back? with
    | some q => q.retreat? n
    | none => none

/-- Whether a word edge lies at a place. A text without characters has none, and no place that is
    none either. -/
def Place.atWordEdge (p : Place) (negated ascii : Bool) : Bool :=
  let isWord (c : Option Char) : Bool := c.any fun c => CharClass.word.holds ascii c
  let edge := isWord p.before.head? != isWord p.after.head?
  !(p.before.isEmpty && p.after.isEmpty) && edge != negated

/-- Whether an anchor holds at a place. -/
def Anchor.holds (a : Anchor) (p : Place) : Bool :=
  match a with
  | .textStart => p.before.isEmpty
  | .lineStart => p.before.isEmpty || p.before.head? == some '\n'
  | .textEnd => p.after.isEmpty || p.after == ['\n']
  | .lineEnd => p.after.isEmpty || p.after.head? == some '\n'
  | .veryEnd => p.after.isEmpty
  | .wordEdge negated ascii => p.atWordEdge negated ascii

/-- The text that a group has matched. -/
def Place.capture? (p : Place) (group : Nat) : Option (List Char) :=
  p.captures.lookup group

/-- The place after `text` has been read again under a rule. -/
def Place.reread? (rule : CaseRule) : List Char → Place → Option Place
  | [], p => some p
  | c :: cs, p =>
    match p.step? with
    | some (d, q) =>
      if rule.lower c.toNat = rule.lower d.toNat then q.reread? rule cs else none
    | none => none

/-- The place after as many characters of a set as possible, at most `most`, and their number. -/
def Place.advance (set : CharSet) (most : Nat) (p : Place) : Nat × Place :=
  go p.after p.before most 0
where
  go : List Char → List Char → Nat → Nat → Nat × Place
    | [], before, _, n => (n, ⟨p.position + n, before, [], p.captures⟩)
    | c :: r, before, 0, n => (n, ⟨p.position + n, before, c :: r, p.captures⟩)
    | c :: r, before, k + 1, n =>
      if set.holds c then go r (c :: before) k (n + 1)
      else (n, ⟨p.position + n, before, c :: r, p.captures⟩)

/-- The first outcome of `next` at a place or at one of the `n` places before it, the last first. -/
def tryBack (next : Next) : Nat → Place → Option Place
  | 0, p => next p
  | n + 1, p =>
    match next p with
    | some r => some r
    | none =>
      match p.back? with
      | some q => tryBack next n q
      | none => none

/-- The first outcome of `next` at a place or after one to `n` further characters of a set. -/
def tryForth (set : CharSet) (next : Next) : Nat → Place → Option Place
  | 0, p => next p
  | n + 1, p =>
    match next p with
    | some r => some r
    | none =>
      match p.step? with
      | some (c, q) => if set.holds c then tryForth set next n q else none
      | none => none

/-- The rounds of a set: no round needs to be remembered beyond its count. -/
def runSet (set : CharSet) (greed : Greed) (least most : Nat) (p : Place) (next : Next) :
    Option Place :=
  match greed with
  | .greedy =>
    let (n, q) := p.advance set most
    if n < least then none else tryBack next (n - least) q
  | .possessive =>
    let (n, q) := p.advance set most
    if n < least then none else next q
  | .lazy =>
    let (n, q) := p.advance set least
    if n < least then none else tryForth set next (most - least) q

/-- The rounds of a part. `fuel` bounds their number, `done` counts them, and `last` is the
    position where the last optional round began. -/
def runRounds (body : Place → Next → Option Place) (greed : Greed) (least most : Nat) (next : Next) :
    Nat → Nat → Option Nat → Place → Option Place
  | 0, _, _, _ => none
  | fuel + 1, done, last, p =>
    let again (last : Option Nat) : Option Place :=
      body p fun q => runRounds body greed least most next fuel (done + 1) last q
    let here := some p.position
    if done < least then again last
    else match greed with
      | .lazy =>
        match next p with
        | some r => some r
        | none => if most ≤ done ∨ here = last then none else again here
      | _ =>
        -- A round that would begin where the last one did would change nothing.
        if done < most ∧ here ≠ last then
          match again here with
          | some r => some r
          | none => next p
        else next p

/-- The rounds of a part without going back on any of them. -/
def runPossessive (body : Place → Next → Option Place) (least most : Nat) :
    Nat → Nat → Option Nat → Place → Option Place
  | 0, _, _, _ => none
  | fuel + 1, done, last, p =>
    let here := some p.position
    if done < least then
      match body p some with
      | some q => runPossessive body least most fuel (done + 1) last q
      | none => none
    else if done < most ∧ here ≠ last then
      match body p some with
      | some q => runPossessive body least most fuel (done + 1) here q
      | none => some p
    else some p

/-- The first outcome of `next` over the places where a part that starts at a place can end. -/
def run : Node → Place → Next → Option Place
  | .empty, p, next => next p
  | .one set, p, next =>
    match p.step? with
    | some (c, q) => if set.holds c then next q else none
    | none => none
  | .seq a b, p, next => run a p fun q => run b q next
  | .alt a b, p, next =>
    match run a p next with
    | some r => some r
    | none => run b p next
  | .group index body, p, next =>
    run body p fun q =>
      -- The text of a group is what lies between where it begins and where it ends.
      let text := p.after.take (q.position - p.position)
      next { q with captures := (index, text) :: q.captures }
  | .rounds greed least most (.one set), p, next => runSet set greed least most p next
  -- Every optional round moves on, so there are no more of them than characters left.
  | .rounds greed least most body, p, next =>
    let fuel := least + p.after.length + 2
    match greed with
    | .possessive =>
      match runPossessive (run body) least most fuel 0 none p with
      | some q => next q
      | none => none
    | _ => runRounds (run body) greed least most next fuel 0 none p
  | .atomic body, p, next =>
    match run body p some with
    | some q => next q
    | none => none
  | .look negated behind body, p, next =>
    let start := if behind then p.retreat? body.width.1 else some p
    let found := match start with
      | some q => run body q some
      | none => none
    match found, negated with
    -- A look keeps the groups that it matched and goes back to where it began.
    | some q, false => next { p with captures := q.captures }
    | none, true => next p
    | _, _ => none
  | .again group rule _, p, next =>
    match p.capture? group with
    | some text =>
      match p.reread? rule text with
      | some q => next q
      | none => none
    | none => none
  | .choice group yes no, p, next =>
    if (p.capture? group).isSome then run yes p next else run no p next
  | .anchor a, p, next => if a.holds p then next p else none

/-- The end of the first match at a position or after it. -/
def searchFrom (node : Node) : Nat → List Char → List Char → Option Place
  | n, before, [] => run node ⟨n, before, [], []⟩ some
  | n, before, c :: r =>
    match run node ⟨n, before, c :: r, []⟩ some with
    | some q => some q
    | none => searchFrom node (n + 1) (c :: before) r

end Assay.Pattern

namespace Assay.Pattern

/-- The texts of the groups of the first match in a text; a group that took no part has none. -/
def search (p : Pattern) (s : String) : Option (List (Option String)) :=
  (searchFrom p.node 0 [] s.toList).map fun place =>
    (List.range p.groups).map fun i => (place.capture? (i + 1)).map String.ofList

/-- Whether a text holds a match. -/
def occurs (p : Pattern) (s : String) : Bool :=
  (p.search s).isSome

end Assay.Pattern
