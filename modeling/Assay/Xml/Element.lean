import Assay.Xml.Declaration
import Assay.Text.Lines

/-!
# XML documents

A document as the tree of its elements and their text. Names carry the address of their namespace
in braces in front, where they have one; comments and processing instructions leave no trace, and
references to entities are replaced by what the entities hold.

## Main definitions

* `Node`: An element or a piece of text.
* `Node.find?`, `Node.descendants`, `Node.leadingText`: Looking into a tree.
* `read`: The root of the document that a text writes.
-/

namespace Assay.Xml

open Text

/-- A part of a document. -/
inductive Node
  | text (cs : List Char)
  | element (name : String) (attributes : List (String × String)) (parts : List Node)
  deriving Inhabited

namespace Node

/-- The name of an element. -/
def name? : Node → Option String
  | text _ => none
  | element name _ _ => some name

/-- The parts of an element. -/
def parts : Node → List Node
  | text _ => []
  | element _ _ ps => ps

/-- The value of an attribute. -/
def attribute? (n : Node) (name : String) : Option String :=
  match n with
  | text _ => none
  | element _ attributes _ => attributes.lookup name

/-- The first element of a name directly inside an element. -/
def find? (n : Node) (name : String) : Option Node :=
  n.parts.find? fun p => p.name? == some name

mutual

/-- The elements of a name at any depth, in the order of their start tags; an element is its own
    descendant. -/
def descendants (name : String) (n : Node) : List Node :=
  match n with
  | text _ => []
  | element own attributes ps =>
    let below := descendantsOf name ps
    if own = name then element own attributes ps :: below else below

/-- The same for a list of parts. -/
def descendantsOf (name : String) : List Node → List Node
  | [] => []
  | p :: ps => descendants name p ++ descendantsOf name ps

end

/-- The text before the first of some parts that is an element. -/
def textBefore : List Node → List Char
  | text cs :: ps => cs ++ textBefore ps
  | _ => []

/-- The text of an element before the first element in it. -/
def leadingText (n : Node) : String :=
  String.ofList (textBefore n.parts)

end Node

/-! ## Namespaces -/

/-- The address to which the prefix `xml` is bound. -/
def xmlSpace : List Char := "http://www.w3.org/XML/1998/namespace".toList

/-- The address that the attributes which bind prefixes belong to. -/
def xmlnsSpace : List Char := "http://www.w3.org/2000/xmlns/".toList

/-- The addresses bound to prefixes, the empty prefix being that of unprefixed elements. -/
abbrev Bindings := List (List Char × List Char)

/-- The bindings of a document. -/
def Bindings.standard : Bindings := [("xml".toList, xmlSpace)]

/-- The prefix that an attribute binds, if it binds one. -/
def bound? (q : QName) : Option (List Char) :=
  if q.space = some "xmlns".toList then some q.name
  else if q.space = none ∧ q.name = "xmlns".toList then some []
  else none

/-- Whether a prefix may be bound to an address: the prefixes and addresses of XML itself belong to each
    other, and a prefix cannot be unbound. -/
def mayBind (p uri : List Char) : Bool :=
  !(uri.isEmpty && !p.isEmpty) && p != "xmlns".toList &&
    ((p == "xml".toList) == (uri == xmlSpace)) && uri != xmlnsSpace && !uri.contains '\x7d'

/-- The bindings inside an element with some attributes. -/
def Bindings.extend (b : Bindings) : List (QName × List Char) → Option Bindings
  | [] => some b
  | (q, value) :: rest =>
    match bound? q with
    | none => b.extend rest
    | some p => if mayBind p value then Bindings.extend ((p, value) :: b) rest else none

/-- A name with the address of its namespace. -/
def spacedName (uri name : List Char) : String :=
  if uri.isEmpty then String.ofList name
  else String.ofList ('\x7b' :: uri ++ '\x7d' :: name)

/-- The full name of an element. -/
def Bindings.elementName? (b : Bindings) (q : QName) : Option String :=
  match q.space with
  | some p => (b.lookup p).map fun uri => spacedName uri q.name
  | none => some (spacedName ((b.lookup []).getD []) q.name)

/-- The full name of an attribute; one without a prefix belongs to no namespace. -/
def Bindings.attributeName? (b : Bindings) (q : QName) : Option String :=
  match q.space with
  | some p => (b.lookup p).map fun uri => spacedName uri q.name
  | none => some (String.ofList q.name)

/-! ## Start tags -/

/-- The attributes of a start tag up to its end, and whether the tag is empty. -/
def takeTag (d : Declarations) (element : QName) :
    Nat → List (QName × List Char) → List Char →
    Option (List (QName × List Char) × Bool × List Char)
  | 0, _, _ => none
  | fuel + 1, found, cs =>
    match skipSpace cs with
    | '>' :: r => some (found, false, r)
    | '/' :: '>' :: r => some (found, true, r)
    | _ => do
      let (q, r) ← takeQName (← needSpace cs)
      -- An attribute may be given once only.
      if (found.lookup q).isSome then none
      match skipSpace r with
      | '=' :: r =>
        let (written, r) ← takeLiteral (skipSpace r)
        let free := ((d.rule? element q).map fun rule => rule.free).getD true
        let value ← attributeValue d free written
        takeTag d element fuel (found ++ [(q, value)]) r
      | _ => none

/-- Attributes with those that are declared with a default and not given. -/
def withDefaults (d : Declarations) (element : QName) (given : List (QName × List Char)) :
    List (QName × List Char) :=
  given ++ d.attributes.filterMap fun (e, rule) =>
    if e = element ∧ (given.lookup rule.name).isNone then
      rule.default.map fun value => (rule.name, value)
    else none

/-- Whether no name occurs twice. -/
def allDistinct : List String → Bool
  | [] => true
  | x :: xs => !xs.contains x && allDistinct xs

/-- The full name, the attributes and the bindings of an element. -/
def openElement (d : Declarations) (b : Bindings) (q : QName) (given : List (QName × List Char)) :
    Option (String × List (String × String) × Bindings) := do
  let all := withDefaults d q given
  let b ← b.extend all
  let attributes ← (all.filter fun (q, _) => (bound? q).isNone).mapM fun (q, value) =>
    (b.attributeName? q).map fun name => (name, String.ofList value)
  if !allDistinct (attributes.map fun (name, _) => name) then none
  let name ← b.elementName? q
  return (name, attributes, b)

/-! ## Content -/

/-- Text up to the next markup or reference. The end mark of a literal section may not stand in it. -/
def takeText : List Char → Option (List Char × List Char)
  | [] => some ([], [])
  | c :: cs =>
    if c = '<' ∨ c = '&' then some ([], c :: cs)
    else if !isXmlChar c then none
    -- The test is for the end mark as a whole; its characters may stand alone.
    else if c = ']' ∧ [']', '>'].isPrefixOf cs then none
    else match takeText cs with
      | some (text, rest) => some (c :: text, rest)
      | none => none

/-- The parts of an element's content after those read, which are given last first, up to an end tag or the
    end of the characters. `opened` holds the entities being replaced, and `fuel` bounds the number of
    steps. -/
def takeContent (d : Declarations) :
    Nat → List (List Char) → Bindings → List Node → List Char → Option (List Node × List Char)
  | 0, _, _, _, _ => none
  | fuel + 1, opened, b, parts, cs =>
    match cs with
    | [] => some (parts.reverse, [])
    | '<' :: '/' :: _ => some (parts.reverse, cs)
    | '<' :: '!' :: '-' :: '-' :: r => do takeContent d fuel opened b parts (← skipComment r)
    | '<' :: '!' :: '[' :: 'C' :: 'D' :: 'A' :: 'T' :: 'A' :: '[' :: r => do
      let (text, r) ← takeUntil "]]>".toList r
      takeContent d fuel opened b (.text text :: parts) r
    | '<' :: '?' :: r => do takeContent d fuel opened b parts (← skipInstruction r)
    | '<' :: r => do
      let (q, r) ← takeQName r
      let (given, isEmpty, r) ← takeTag d q (r.length + 1) [] r
      let (name, attributes, inner) ← openElement d b q given
      if isEmpty then
        takeContent d fuel opened b (.element name attributes [] :: parts) r
      else
        -- What an element holds is read under its own bindings, up to an end tag of its name.
        let (below, r) ← takeContent d fuel opened inner [] r
        match r with
        | '<' :: '/' :: r =>
          let (close, r) ← takeQName r
          if close ≠ q then none
          match skipSpace r with
          | '>' :: r => takeContent d fuel opened b (.element name attributes below :: parts) r
          | _ => none
        | _ => none
    | '&' :: r => do
      let (ref, r) ← takeReference r
      match ref with
      | .char n => takeContent d fuel opened b (.text [Char.ofNat n] :: parts) r
      | .entity name =>
        match predefined? name, d.entities.lookup name with
        | some c, _ => takeContent d fuel opened b (.text [c] :: parts) r
        | none, some (.internal text) =>
          -- An entity may not hold itself, and its text has to be content on its own.
          if opened.contains name then none
          let (inside, rest) ← takeContent d fuel (name :: opened) b [] text
          if !rest.isEmpty then none
          takeContent d fuel opened b (inside.reverse ++ parts) r
        | none, _ => none
    | _ => do
      let (text, r) ← takeText cs
      takeContent d fuel opened b (.text text :: parts) r

/-! ## Documents -/

/-- The declarations before the root, and the document from the root on. `typed` tells whether the
    document type has been read. -/
def takeProlog : Nat → Bool → Declarations → List Char → Option (Declarations × List Char)
  | 0, _, _, _ => none
  | fuel + 1, typed, d, cs =>
    match skipSpace cs with
    | '<' :: '!' :: '-' :: '-' :: r => do takeProlog fuel typed d (← skipComment r)
    | '<' :: '?' :: r => do takeProlog fuel typed d (← skipInstruction r)
    | '<' :: '!' :: r => do
      -- There is one document type at most.
      if typed then none
      let (d, r) ← takeDoctype d (← dropWord "DOCTYPE" r)
      takeProlog fuel true d r
    | r => some (d, r)

/-- Whether nothing but space, comments and processing instructions follows the root. -/
def endsWell : Nat → List Char → Bool
  | 0, _ => false
  | fuel + 1, cs =>
    match skipSpace cs with
    | [] => true
    | '<' :: '!' :: '-' :: '-' :: r =>
      match skipComment r with
      | some r => endsWell fuel r
      | none => false
    | '<' :: '?' :: r =>
      match skipInstruction r with
      | some r => endsWell fuel r
      | none => false
    | _ => false

/-- The declarations of a document and the rest of it after the XML declaration, if there is one. -/
def takeStart (cs : List Char) : Option (Declarations × List Char) :=
  match cs with
  | '<' :: '?' :: 'x' :: 'm' :: 'l' :: c :: r =>
    if isNameChar c then some (.empty false, cs)
    else do
      let (inside, r) ← takeUntil ['?', '>'] (c :: r)
      let standalone ← readXmlDeclaration inside
      return (.empty standalone, r)
  | _ => some (.empty false, cs)

/-- The characters of a text without a byte order mark in front. -/
def dropMark : List Char → List Char
  | c :: cs => if c.toNat = 0xFEFF then cs else c :: cs
  | [] => []

/-- The root of the document that a text writes, or `none` where it writes none. -/
def read (text : String) : Option Node := do
  let cs := unifyBreaksChars (dropMark text.toList)
  let (d, r) ← takeStart cs
  let (d, r) ← takeProlog (r.length + 1) false d r
  match r with
  | '<' :: r =>
    -- The content up to the end of the root is one element; what follows it is looked at apart.
    let (q, r) ← takeQName r
    let (given, isEmpty, r) ← takeTag d q (r.length + 1) [] r
    let (name, attributes, b) ← openElement d .standard q given
    if isEmpty then
      if endsWell (r.length + 1) r then return .element name attributes [] else none
    else
      let fuel := (cs.length + 2) * (d.entities.length + 2)
      let (below, r) ← takeContent d fuel [] b [] r
      match r with
      | '<' :: '/' :: r =>
        let (close, r) ← takeQName r
        if close ≠ q then none
        match skipSpace r with
        | '>' :: r =>
          if endsWell (r.length + 1) r then return .element name attributes below else none
        | _ => none
      | _ => none
  | _ => none

end Assay.Xml
