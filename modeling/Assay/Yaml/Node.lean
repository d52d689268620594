import Assay.Yaml.Token.Stream

/-!
# Nodes

A document as a tree of nodes, each with its tag. A plain scalar without a tag of its own is left
to be classed by its text; every other node has the tag written for it or the one of its kind.

A reference to an anchor is the anchored node again. A reference to a collection that is still
open stands for a cycle and becomes a leaf.

## Main definitions

* `Node`: The nodes.
* `node`, `document`: The node, and the document, that tokens write.
* `Node.read`: What a text holds: nothing, or one document.
-/

namespace Assay.Yaml

/-- The tag of a node. -/
inductive NodeTag
  /-- The tag follows from the text of the scalar. -/
  | byText
  /-- The plain tag of the kind of the node. -/
  | byKind
  | named (tag : String)
  deriving DecidableEq, Repr

/-- A node of a document. -/
inductive Node
  | scalar (tag : NodeTag) (text : List Char)
  | sequence (tag : NodeTag) (items : List Node)
  | mapping (tag : NodeTag) (entries : List (Node × Node))
  /-- A reference to a collection around it, a mapping or not. -/
  | again (mapping : Bool)
  deriving Inhabited

/-- The scalar that stands where nothing is written. -/
def Node.nothing : Node := .scalar .byText []

/-- What building nodes keeps: the tokens left, what is wrong after them, the handles of tags and the
    nodes of anchors. -/
structure Builder where
  tokens : List Token
  trouble : Option Trouble
  handles : List (List Char × List Char)
  anchors : List (List Char × Node)

/-- What builds nodes. -/
abbrev Building := StateT Builder (Except Trouble)

namespace Building

/-- The tokens do not make a document. -/
def refuse {α : Type} : Building α := throw .malformed

/-- The next token, or `none` at the end of the text. Where the text went wrong there is no next
    token. -/
def peek : Building (Option Token) := do
  let b ← get
  match b.tokens, b.trouble with
  | t :: _, _ => return some t
  | [], none => return none
  | [], some e => throw e

/-- Takes the next token. -/
def drop : Building Unit :=
  modify fun b => { b with tokens := b.tokens.drop 1 }

/-- Takes a certain token if it is the next one. -/
def accept (t : Token) : Building Bool := do
  if (← peek) = some t then
    drop
    return true
  else return false

/-- Whether the next token is one of those given. -/
def nextIs (ts : List Token) : Building Bool := do
  match ← peek with
  | some t => return ts.contains t
  | none => return false

/-- The tag that a token writes, with the handle replaced by what it stands for. -/
def resolveTag (handle : Option (List Char)) (suffix : List Char) : Building (List Char) := do
  match handle with
  | none => return suffix
  | some h =>
    match (← get).handles.lookup h with
    | some start => return start ++ suffix
    | none => refuse

/-- The anchor and the tag before a node, in either order. -/
def properties : Building (Option (List Char) × Option (List Char)) := do
  match ← peek with
  | some (.anchor name) =>
    drop
    match ← peek with
    | some (.tag handle suffix) =>
      drop
      return (some name, some (← resolveTag handle suffix))
    | _ => return (some name, none)
  | some (.tag handle suffix) =>
    drop
    match ← peek with
    | some (.anchor name) =>
      drop
      return (some name, some (← resolveTag handle suffix))
    | _ => return (none, some (← resolveTag handle suffix))
  | _ => return (none, none)

/-- The tag of a collection. -/
def collectionTag (tag : Option (List Char)) : NodeTag :=
  match tag with
  | none => .byKind
  | some t => if t = ['!'] then .byKind else .named (String.ofList t)

/-- The tag of a scalar: one without a tag is classed by its text if it is plain, and one with the bare
    exclamation mark always is. -/
def scalarTag (tag : Option (List Char)) (plain : Bool) : NodeTag :=
  match tag with
  | none => if plain then .byText else .byKind
  | some t => if t = ['!'] then .byText else .named (String.ofList t)

/-- Binds an anchor to a node; an anchor is written once. -/
def bind (anchor : Option (List Char)) (n : Node) : Building Unit :=
  match anchor with
  | none => return ()
  | some name => modify fun b => { b with anchors := (name, n) :: b.anchors }

/-- Refuses an anchor that is bound already. -/
def checkAnchor (anchor : Option (List Char)) : Building Unit := do
  match anchor with
  | none => return ()
  | some name => if ((← get).anchors.lookup name).isSome then refuse

/-- Where a node stands, for what may be written there. -/
inductive Context
  /-- Inside a flow collection. -/
  | flow
  /-- Where a block collection may begin. -/
  | block
  /-- Where moreover the dashes of a sequence need no indentation of their own. -/
  | mappingPart
  deriving DecidableEq

mutual

/-- A node. -/
def node : Nat → Context → Building Node
  | 0, _ => refuse
  | fuel + 1, context => do
    match ← peek with
    | some (.reference name) =>
      drop
      match (← get).anchors.lookup name with
      | some n => return n
      | none => refuse
    | _ =>
      let (anchor, tag) ← properties
      -- Inside a collection its anchor is that of an open one; the collection takes its place at the end.
      let collection (t : Token) (mapping : Bool) (read : Building Node) : Building Node := do
        if t ≠ .blockEntry then drop
        checkAnchor anchor
        bind anchor (.again mapping)
        let n ← read
        bind anchor n
        return n
      let ctag := collectionTag tag
      match ← peek with
      | some (.scalar text plain) =>
        drop
        checkAnchor anchor
        let n := Node.scalar (scalarTag tag plain) text
        bind anchor n
        return n
      | some .flowSequenceStart =>
        collection .flowSequenceStart false (return .sequence ctag (← flowItems fuel true))
      | some .flowMappingStart =>
        collection .flowMappingStart true (return .mapping ctag (← flowEntries fuel true))
      | t =>
        -- Dashes at the indentation of the mapping around them open no sequence of their own.
        if t = some .blockEntry ∧ context = .mappingPart then
          collection .blockEntry false (return .sequence ctag (← dashItems fuel))
        else if t = some .blockSequenceStart ∧ context ≠ .flow then
          collection .blockSequenceStart false (return .sequence ctag (← blockItems fuel))
        else if t = some .blockMappingStart ∧ context ≠ .flow then
          collection .blockMappingStart true (return .mapping ctag (← blockEntries fuel))
        -- An anchor or a tag with nothing behind it stands before an empty scalar.
        else if anchor.isSome || tag.isSome then
          checkAnchor anchor
          let n := Node.scalar (scalarTag tag true) []
          bind anchor n
          return n
        else refuse

/-- A node unless one of some tokens comes next, which means that nothing is written here. -/
def nodeUnless : Nat → Context → List Token → Building Node
  | 0, _, _ => refuse
  | fuel + 1, context, ts => do
    if ← nextIs ts then return .nothing else node fuel context

/-- The items of a block sequence up to its end. -/
def blockItems : Nat → Building (List Node)
  | 0 => refuse
  | fuel + 1 => do
    if ← accept .blockEntry then
      let n ← nodeUnless fuel .block [.blockEntry, .blockEnd]
      return n :: (← blockItems fuel)
    else if ← accept .blockEnd then return []
    else refuse

/-- The items of a sequence whose dashes stand at the indentation of the mapping around it. -/
def dashItems : Nat → Building (List Node)
  | 0 => refuse
  | fuel + 1 => do
    if ← accept .blockEntry then
      let n ← nodeUnless fuel .block [.blockEntry, .key, .value, .blockEnd]
      return n :: (← dashItems fuel)
    else return []

/-- The entries of a block mapping up to its end. -/
def blockEntries : Nat → Building (List (Node × Node))
  | 0 => refuse
  | fuel + 1 => do
    let ends := [Token.key, .value, .blockEnd]
    if ← accept .key then
      let k ← nodeUnless fuel .mappingPart ends
      let v ←
        if ← accept .value then nodeUnless fuel .mappingPart ends else pure .nothing
      return (k, v) :: (← blockEntries fuel)
    else if ← accept .blockEnd then return []
    else refuse

/-- The items of a flow sequence up to its end. -/
def flowItems : Nat → Bool → Building (List Node)
  | 0, _ => refuse
  | fuel + 1, first => do
    if ← accept .flowSequenceEnd then return []
    unless first do
      unless ← accept .flowEntry do refuse
    if ← accept .key then
      -- A single entry of a mapping.
      let k ← nodeUnless fuel .flow [.value, .flowEntry, .flowSequenceEnd]
      let v ←
        if ← accept .value then nodeUnless fuel .flow [.flowEntry, .flowSequenceEnd]
        else pure .nothing
      return .mapping .byKind [(k, v)] :: (← flowItems fuel false)
    else if ← accept .flowSequenceEnd then return []
    else
      let n ← node fuel .flow
      return n :: (← flowItems fuel false)

/-- The entries of a flow mapping up to its end. -/
def flowEntries : Nat → Bool → Building (List (Node × Node))
  | 0, _ => refuse
  | fuel + 1, first => do
    if ← accept .flowMappingEnd then return []
    unless first do
      unless ← accept .flowEntry do refuse
    if ← accept .key then
      let k ← nodeUnless fuel .flow [.value, .flowEntry, .flowMappingEnd]
      let v ←
        if ← accept .value then nodeUnless fuel .flow [.flowEntry, .flowMappingEnd]
        else pure .nothing
      return (k, v) :: (← flowEntries fuel false)
    else if ← accept .flowMappingEnd then return []
    else
      -- A key without a value.
      let k ← node fuel .flow
      return (k, .nothing) :: (← flowEntries fuel false)

end

/-- Passes over the marks that end a document. -/
def skipDocumentEnds : Nat → Building Unit
  | 0 => return ()
  | fuel + 1 => do if ← accept .documentEnd then skipDocumentEnds fuel

/-- The handles that need no directive. -/
def standardHandles : List (List Char × List Char) :=
  [(['!'], ['!']), (['!', '!'], "tag:yaml.org,2002:".toList)]

/-- The directives before a document. The version is given once and is one of 1; each handle is given
    once. -/
def directives : Nat → Bool → List (List Char × List Char) →
    Building (List (List Char × List Char))
  | 0, _, handles => return handles
  | fuel + 1, versioned, handles => do
    match ← peek with
    | some (.versionDirective major _) =>
      drop
      if versioned then refuse
      if major ≠ 1 then refuse
      directives fuel true handles
    | some (.tagDirective handle start) =>
      drop
      if (handles.lookup handle).isSome then refuse
      directives fuel versioned ((handle, start) :: handles)
    | some .otherDirective =>
      drop
      directives fuel versioned handles
    | _ => return handles

/-- The one document of a text, if there is any. -/
def document (fuel : Nat) : Building (Option Node) := do
  let next ← peek
  let isDirective := match next with
    | some (.versionDirective _ _) | some (.tagDirective _ _) | some .otherDirective => true
    | _ => false
  if next.isNone then return none
  let root ←
    if isDirective || next == some .documentStart then do
      let own ← directives fuel false []
      modify fun b => { b with handles := own ++ standardHandles }
      unless ← accept .documentStart do refuse
      let stop ← do
        match ← peek with
        | none | some (.versionDirective _ _) | some (.tagDirective _ _) | some .otherDirective
        | some .documentStart | some .documentEnd => pure true
        | _ => pure false
      if stop then pure Node.nothing else node fuel .block
    else node fuel .block
  -- The document has ended, and nothing but marks of its end may follow.
  skipDocumentEnds fuel
  if (← peek).isSome then refuse
  return some root

end Building

/-- The document that a text writes, or `none` where it writes nothing. -/
def Node.read (text : List Char) : Except Trouble (Option Node) :=
  let (ts, trouble) := tokens text
  match (Building.document (8 * ts.length + 16)).run ⟨ts, trouble, Building.standardHandles, []⟩ with
  | .ok (n, _) => .ok n
  | .error e => .error e

end Assay.Yaml
