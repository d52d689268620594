import Assay.Pattern.CharSet
import Assay.Pattern.Problem

/-!
# Patterns

The syntax of search patterns, with the flags already worked into the parts they govern: a set
knows whether it looks at case, an anchor whether it looks at lines.

The width of a pattern is the least and the greatest number of characters that it can match. A
look-behind needs to know how far back to start, so its body must have one width.

## Main definitions

* `Node`: The parts of a pattern.
* `Pattern`: A pattern with the number of its groups.
* `Node.width`: The least and the greatest width.
* `Node.problem?`: What is wrong with a pattern although its text could be read.
-/

namespace Assay.Pattern

/-- The tests that look at a place between characters. -/
inductive Anchor
  /-- The start of the text. -/
  | textStart
  /-- The start of the text or of a line. -/
  | lineStart
  /-- The end of the text, or the line break that ends it. -/
  | textEnd
  /-- The end of the text or of a line. -/
  | lineEnd
  /-- The very end of the text. -/
  | veryEnd
  /-- An edge of a word, or a place that is none. -/
  | wordEdge (negated ascii : Bool)
  deriving DecidableEq, Repr

/-- How a repetition chooses the number of its rounds. -/
inductive Greed
  /-- As many as possible first. -/
  | greedy
  /-- As few as possible first. -/
  | lazy
  /-- As many as possible, without going back on it. -/
  | possessive
  deriving DecidableEq, Repr

/-- The number of rounds that stands for no bound. -/
def unbounded : Nat := 4294967295

/-- The width that stands for no bound. -/
def widest : Nat := 18446744073709551616

/-- A part of a pattern. -/
inductive Node
  | empty
  | one (set : CharSet)
  | seq (first second : Node)
  | alt (first second : Node)
  | group (index : Nat) (body : Node)
  | rounds (greed : Greed) (least most : Nat) (body : Node)
  | atomic (body : Node)
  /-- A test of what follows, or of what precedes, starting as far back as the body is wide. -/
  | look (negated behind : Bool) (body : Node)
  /-- The text of a group again; `width` is the width of that group. -/
  | again (group : Nat) (rule : CaseRule) (width : Nat × Nat)
  /-- One of two parts, by whether a group has matched. -/
  | choice (group : Nat) (yes no : Node)
  | anchor (a : Anchor)
  deriving DecidableEq

/-- The least and the greatest number of characters that a part can match. -/
def Node.width : Node → Nat × Nat
  | .empty => (0, 0)
  | .one _ => (1, 1)
  | .seq a b =>
    let (l, h) := a.width
    let (m, i) := b.width
    (min (l + m) widest, min (h + i) widest)
  | .alt a b =>
    let (l, h) := a.width
    let (m, i) := b.width
    (min l m, max h i)
  | .group _ body => body.width
  | .rounds _ least most body =>
    let (l, h) := body.width
    (min (l * least) widest, if most = unbounded ∧ h ≠ 0 then widest else min (h * most) widest)
  | .atomic body => body.width
  | .look _ _ _ => (0, 0)
  | .again _ _ w => w
  | .choice _ yes no =>
    let (l, h) := yes.width
    let (m, i) := no.width
    (min l m, max h i)
  | .anchor _ => (0, 0)

/-- What is wrong with the look-behinds of a part, or with its repetitions where `template` forbids
    them; the first problem in the order of the text. -/
def Node.problem? (template : Bool) : Node → Option Problem
  | .empty => none
  | .one _ => none
  | .seq a b =>
    match a.problem? template with
    | some p => some p
    | none => b.problem? template
  | .alt a b =>
    match a.problem? template with
    | some p => some p
    | none => b.problem? template
  | .group _ body => body.problem? template
  | .rounds greed _ _ body =>
    if template then
      some (.templateRepeat (match greed with
        | .greedy => "MAX_REPEAT"
        | .lazy => "MIN_REPEAT"
        | .possessive => "POSSESSIVE_REPEAT"))
    else body.problem? template
  | .atomic body => body.problem? template
  | .look _ behind body =>
    let (l, h) := body.width
    if behind ∧ unbounded < l then some .longLookBehind
    else if behind ∧ l ≠ h then some .variableLookBehind
    else body.problem? template
  | .again _ _ _ => none
  | .choice _ yes no =>
    match yes.problem? template with
    | some p => some p
    | none => no.problem? template
  | .anchor _ => none

end Assay.Pattern

namespace Assay

/-- A search pattern: its parts and the number of its groups. -/
structure Pattern where
  node : Pattern.Node
  groups : Nat
  deriving DecidableEq

end Assay
