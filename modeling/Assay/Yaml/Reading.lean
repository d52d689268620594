import Assay.Yaml.Scalar

/-!
# Reading YAML

The value of a document. A mapping takes its entries in order, the last value under a key being the
one that stays; entries merged into it come before its own.

Whether a document has a value and which value it has are separate questions. Every node has a
value in any case, the part that cannot be read being nothing, and the troubles of a document are
listed level by level: what is wrong with the root comes first, then what is wrong with the parts
of the root, and so on downward, from left to right on each level. The first of them is the
trouble of the document.

## Main definitions

* `Node.toValue`: The value of a node.
* `Node.levels`: The first trouble on each level below a node.
* `read`: The value of a text.
-/

namespace Assay.Yaml

open Text

/-- What a node is built as: a scalar of a class, one of the kinds of collections, or nothing that is
    known. -/
inductive Kind
  | scalar (k : Class)
  | list
  | map
  | set
  | pairs
  | unknown
  deriving DecidableEq, Repr

/-- What a tag asks for. -/
def Kind.ofTag (tag : String) : Kind :=
  match Class.ofTag? tag with
  | some k => .scalar k
  | none =>
    if tag = "tag:yaml.org,2002:seq" then .list
    else if tag = "tag:yaml.org,2002:map" then .map
    else if tag = "tag:yaml.org,2002:set" then .set
    else if tag = "tag:yaml.org,2002:omap" ∨ tag = "tag:yaml.org,2002:pairs" then .pairs
    else .unknown

namespace Node

/-- What a node is built as. -/
def kind : Node → Kind
  | .scalar .byText text => .scalar (classOf text)
  | .scalar .byKind _ => .scalar .text
  | .sequence .byText _ => .list
  | .sequence .byKind _ => .list
  | .mapping .byText _ => .map
  | .mapping .byKind _ => .map
  | .scalar (.named tag) _ => .ofTag tag
  | .sequence (.named tag) _ => .ofTag tag
  | .mapping (.named tag) _ => .ofTag tag
  | .again isMap => if isMap then .map else .list

/-! ## Merging -/

/-- Whether a node is the mark that merges mappings. -/
def isMerge (n : Node) : Bool :=
  n.kind == .scalar .merge

/-- The entries of mappings, those of the last one first, or `none` if one of the nodes is no
    mapping. -/
def gather : List Node → Option (List (Node × Node))
  | [] => some []
  | .mapping _ es :: rest => (gather rest).map fun later => later ++ es
  | .again true :: rest => gather rest
  | _ :: _ => none

/-- The entries that a node brings in under a merge mark, or `none` if it may not stand there. -/
def brought? : Node → Option (List (Node × Node))
  | .sequence _ items => gather items
  | n => gather [n]

/-- Entries with the merge marks replaced by what they bring in, in front of the other entries. A mark
    that cannot be replaced stays, at the very front. -/
def mergeEntries (es : List (Node × Node)) : List (Node × Node) :=
  let marks := es.filter fun (k, _) => k.isMerge
  let lost := marks.filter fun (_, v) => (brought? v).isNone
  let merged := marks.flatMap fun (_, v) => (brought? v).getD []
  let all := merged ++ es.filter fun (k, _) => !k.isMerge
  lost ++ (all.filter fun (k, _) => k.isMerge) ++ all.filter fun (k, _) => !k.isMerge

mutual

/-- A node with all merge marks in it replaced. -/
def flatten : Node → Node
  | .scalar tag text => .scalar tag text
  | .sequence tag items => .sequence tag (flattenItems items)
  | .mapping tag es => .mapping tag (mergeEntries (flattenEntries es))
  | .again isMap => .again isMap

/-- Nodes with all merge marks in them replaced. -/
def flattenItems : List Node → List Node
  | [] => []
  | n :: rest => n.flatten :: flattenItems rest

/-- Entries with all merge marks in their nodes replaced. -/
def flattenEntries : List (Node × Node) → List (Node × Node)
  | [] => []
  | (k, v) :: rest => (k.flatten, v.flatten) :: flattenEntries rest

end

/-! ## Values -/

/-- The text that a node gives to a scalar's tag: its own, or for a mapping that of its default
    value. -/
def scalarText? : Node → Option (List Char)
  | .scalar _ text => some text
  | .mapping _ es =>
    match es.find? fun (k, _) => k.kind == .scalar .default with
    | some (_, .scalar _ text) => some text
    | _ => none
  | _ => none

/-- The value of a node built as a scalar. -/
def scalarValue (k : Class) (n : Node) : Except Trouble Value :=
  match n.scalarText?, k, n with
  | none, _, _ => .error .malformed
  | some _, .timestamp, .mapping _ _ => .error (.fault .collectionForScalar)
  | some text, k, _ => k.read text

/-- The value of a node as a scalar, nothing where it has none. -/
def scalarOrNull (k : Class) (n : Node) : Value :=
  match n.scalarValue k with
  | .ok v => v
  | .error _ => .null

/-- Entries as a mapping: each key is set in turn. -/
def toMap (es : List (Value × Value)) : List (Value × Value) :=
  es.foldl (fun m (k, v) => Value.put k v m) []

mutual

/-- The value of a node without merge marks, nothing standing for what cannot be read. -/
def toValue (n : Node) : Value :=
  match n with
  | .scalar tag text =>
    match (Node.scalar tag text).kind with
    | .scalar k => (Node.scalar tag text).scalarOrNull k
    | _ => .null
  | .sequence tag items =>
    match (Node.sequence tag items).kind with
    | .list => .list (toValues items)
    | .pairs => .list (toPairs items)
    | _ => .null
  | .mapping tag es =>
    match (Node.mapping tag es).kind with
    | .scalar k => (Node.mapping tag es).scalarOrNull k
    | .map => .map (toMap (toEntries es))
    | .set => .set ((toMap (toEntries es)).map fun (k, _) => k)
    | _ => .null
  | .again isMap => .again isMap

/-- The values of nodes. -/
def toValues : List Node → List Value
  | [] => []
  | n :: rest => n.toValue :: toValues rest

/-- The values of entries. The mark of a default value is text as a key. -/
def toEntries : List (Node × Node) → List (Value × Value)
  | [] => []
  | (k, v) :: rest =>
    (if k.kind = .scalar .default then .text "=" else k.toValue, v.toValue) :: toEntries rest

/-- The values of mappings of one entry each, as pairs. -/
def toPairs : List Node → List Value
  | [] => []
  | .mapping _ [(k, v)] :: rest => .pair k.toValue v.toValue :: toPairs rest
  | _ :: rest => toPairs rest

end

/-! ## Troubles -/

/-- What is wrong with a node itself, its parts left aside. -/
def trouble? (n : Node) : Option Trouble :=
  match n.kind with
  | .scalar k =>
    match n.scalarValue k with
    | .ok _ => none
    | .error e => some e
  | .unknown => some .malformed
  | _ => none

/-- What is wrong with a node as a key: only scalars are keys. -/
def keyTrouble? (n : Node) : Option Trouble :=
  match n.kind with
  | .scalar .default => none
  | .scalar _ => n.trouble?
  | _ => some .malformed

/-- The first trouble among some. -/
def firstOf (ts : List (Option Trouble)) : Option Trouble :=
  ts.findSome? id

/-- What is wrong with the parts of a collection, theirs left aside, and with its shape. -/
def partsTrouble? (n : Node) : Option Trouble :=
  match n, n.kind with
  | .again _, _ => none
  | .sequence _ items, .list => firstOf (items.map trouble?)
  | .mapping _ es, .map => firstOf (es.flatMap fun (k, v) => [k.keyTrouble?, v.trouble?])
  | .mapping _ es, .set => firstOf (es.flatMap fun (k, v) => [k.keyTrouble?, v.trouble?])
  | .sequence _ items, .pairs =>
    firstOf (items.flatMap fun
      | .mapping _ [(k, v)] => [k.trouble?, v.trouble?]
      | _ => [some .malformed])
  | _, _ => some .malformed

/-- Two lists of levels as one. -/
def mergeLevels : List (Option Trouble) → List (Option Trouble) → List (Option Trouble)
  | [], b => b
  | a, [] => a
  | x :: xs, y :: ys => (x.or y) :: mergeLevels xs ys

mutual

/-- The first trouble on each level below a node. -/
def levels (n : Node) : List (Option Trouble) :=
  match n with
  | .scalar tag text =>
    match (Node.scalar tag text).kind with
    | .scalar _ | .unknown => []
    | _ => [some .malformed]
  | .sequence tag items =>
    match (Node.sequence tag items).kind with
    | .scalar _ | .unknown => []
    | _ => (Node.sequence tag items).partsTrouble? :: itemLevels items
  | .mapping tag es =>
    match (Node.mapping tag es).kind with
    | .scalar _ | .unknown => []
    | _ => (Node.mapping tag es).partsTrouble? :: entryLevels es
  | .again _ => []

/-- The levels below some nodes. -/
def itemLevels : List Node → List (Option Trouble)
  | [] => []
  | n :: rest => mergeLevels n.levels (itemLevels rest)

/-- The levels below some entries. -/
def entryLevels : List (Node × Node) → List (Option Trouble)
  | [] => []
  | (k, v) :: rest => mergeLevels k.levels (mergeLevels v.levels (entryLevels rest))

end

end Node

/-- Whether a character may stand in a YAML text. -/
def isAllowed (c : Char) : Bool :=
  let n := c.toNat
  n == 9 || n == 10 || n == 13 || (0x20 ≤ n && n ≤ 0x7E) || n == 0x85 ||
    (0xA0 ≤ n && n ≤ 0xFFFD) || 0x10000 ≤ n

/-- The value of a text, nothing for a text that holds no document. -/
def read (text : String) : Except Trouble Value := do
  let cs := text.toList
  if cs.any fun c => !isAllowed c then throw .malformed
  match ← Node.read cs with
  | none => return .null
  | some root =>
    let n := root.flatten
    match Node.firstOf (n.trouble? :: n.levels) with
    | some e => throw e
    | none => return n.toValue

end Assay.Yaml
