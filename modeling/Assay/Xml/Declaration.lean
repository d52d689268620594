import Assay.Xml.Name

/-!
# Declarations

What a document declares before its root: the XML declaration, and in the internal part of the
document type the entities and the attributes with their types and defaults. The external part of
a document type is not read, nor are parameter entities; a document that refers to either may hold
entities that are declared there, and from the first reference on no further declaration counts,
unless the document says that it stands alone.

## Main definitions

* `Entity`, `AttributeRule`, `Declarations`: What is declared.
* `Reference`, `takeReference`: References to entities and characters.
* `expandAttribute`: The value of an attribute.
* `takeDoctype`: A document type.
-/

namespace Assay.Xml

open Text

/-- A general entity. -/
inductive Entity
  | internal (text : List Char)
  | external
  | unparsed
  deriving DecidableEq, Repr

/-- What is declared of an attribute of an element. -/
structure AttributeRule where
  name : QName
  /-- Whether the value is free text rather than a list of tokens. -/
  free : Bool
  default : Option (List Char)
  deriving DecidableEq, Repr

/-- What a document declares. -/
structure Declarations where
  entities : List (List Char × Entity)
  attributes : List (QName × AttributeRule)
  /-- Whether there are declarations that have not been read. -/
  unread : Bool
  standalone : Bool
  /-- Whether declarations still count. -/
  counting : Bool
  deriving DecidableEq, Repr

/-- Nothing is declared. -/
def Declarations.empty (standalone : Bool) : Declarations := ⟨[], [], false, standalone, true⟩

/-- Whether every entity has to be declared among what has been read. -/
def Declarations.complete (d : Declarations) : Bool := !d.unread || d.standalone

/-! ## References -/

/-- A reference: to a character, or to an entity by name. -/
inductive Reference
  | char (n : Nat)
  | entity (name : List Char)
  deriving DecidableEq, Repr

/-- The characters that need no declaration. -/
def predefined? (name : List Char) : Option Char :=
  [("lt", '<'), ("gt", '>'), ("amp", '&'), ("quot", '"'), ("apos", '\'')].lookup (String.ofList name)

/-- The code point of digits in a base, if it is one that may occur. -/
def pointOf? (base : Nat) (digits : List Char) : Option Nat :=
  let n := digits.foldl (fun n c => if 0x110000 ≤ n then n else base * n + (hexValue? c).getD 0) 0
  if isXmlPoint n then some n else none

/-- The reference after an ampersand, and what follows it. -/
def takeReference (cs : List Char) : Option (Reference × List Char) :=
  let close (r : Reference) (digits rest : List Char) : Option (Reference × List Char) :=
    match digits, rest with
    | _ :: _, ';' :: rest => some (r, rest)
    | _, _ => none
  match cs with
  | '#' :: 'x' :: r =>
    let (digits, rest) := r.span fun c => (hexValue? c).isSome
    match pointOf? 16 digits with
    | some n => close (.char n) digits rest
    | none => none
  | '#' :: r =>
    let (digits, rest) := r.span isAsciiDigit
    match pointOf? 10 digits with
    | some n => close (.char n) digits rest
    | none => none
  | _ =>
    match takeName cs with
    | some (name, rest) => close (.entity name) name rest
    | none => none

/-! ## Attribute values -/

/-- The value of an attribute as written: space characters become spaces, and references are replaced,
    those to entities by the value of the entity's text. `opened` holds the entities being replaced,
    and `fuel` bounds the number of steps. -/
def expandAttribute (d : Declarations) : Nat → List (List Char) → List Char → Option (List Char)
  | 0, _, _ => none
  | _ + 1, _, [] => some []
  | fuel + 1, opened, '&' :: r =>
    match takeReference r with
    | none => none
    | some (.char n, r) => (expandAttribute d fuel opened r).map (Char.ofNat n :: ·)
    | some (.entity name, r) =>
      match predefined? name with
      | some c => (expandAttribute d fuel opened r).map (c :: ·)
      | none =>
        match d.entities.lookup name with
        -- Where not all declarations were read, an unknown entity may have been declared in the others.
        | none => if d.complete then none else expandAttribute d fuel opened r
        | some (.internal text) =>
          -- An entity that is being replaced may not occur in its own text.
          if opened.contains name then none
          else
            match expandAttribute d fuel (name :: opened) text, expandAttribute d fuel opened r with
            | some a, some b => some (a ++ b)
            | _, _ => none
        | some _ => none
  | fuel + 1, opened, c :: r =>
    if c = '<' then none
    else (expandAttribute d fuel opened r).map ((if isSpace c then ' ' else c) :: ·)

/-- A list of tokens with single spaces between them. -/
def collapse (cs : List Char) : List Char :=
  let rec go : List Char → Bool → List Char
    | [], _ => []
    | c :: r, fresh =>
      if c = ' ' then if fresh then go r true else ' ' :: go r true
      else c :: go r false
  let once := go cs true
  match once.reverse with
  | ' ' :: r => r.reverse
  | _ => once

/-- The value of an attribute from the characters between its quotes. -/
def attributeValue (d : Declarations) (free : Bool) (written : List Char) : Option (List Char) :=
  -- The recursion goes through what is written, and through the text of each entity once at most.
  let fuel := (written.length + 2) * ((d.entities.map fun (_, e) =>
    match e with
    | .internal text => text.length + 2
    | _ => 2).foldl (· + ·) 0 + 2)
  (expandAttribute d fuel [] written).map fun value => if free then value else collapse value

/-! ## The XML declaration -/

/-- A pseudo-attribute of the XML declaration after some space. -/
def takePseudo (cs : List Char) : Option (List Char × List Char × List Char) := do
  let cs ← needSpace cs
  let (name, r) := cs.span isAsciiLetter
  let r ← match skipSpace r with
    | '=' :: r => some (skipSpace r)
    | _ => none
  let (value, r) ← takeLiteral r
  if value.all fun c => isAsciiLetter c || isAsciiDigit c || c == '.' || c == '-' || c == '_' then
    return (name, value, r)
  else none

/-- Whether the document stands alone, from what is between `<?xml` and `?>`. -/
def readXmlDeclaration (cs : List Char) : Option Bool := do
  let (name, _, r) ← takePseudo cs
  if name ≠ "version".toList then none
  if (skipSpace r).isEmpty then return false
  let (name, value, r) ← takePseudo r
  let (name, value, r, done) ←
    if name = "encoding".toList then
      match value with
      | c :: _ =>
        if !isAsciiLetter c then none
        else if (skipSpace r).isEmpty then some (name, value, r, true)
        else (takePseudo r).map fun (name, value, r) => (name, value, r, false)
      | [] => none
    else some (name, value, r, false)
  if done then return false
  if name ≠ "standalone".toList then none
  if !(skipSpace r).isEmpty then none
  if value = "yes".toList then return true
  else if value = "no".toList then return false
  else none

/-! ## Processing instructions and comments -/

/-- What follows a processing instruction, from after `<?`. Its target may not be the word `xml`. -/
def skipInstruction (cs : List Char) : Option (List Char) := do
  let (target, r) ← takeName cs
  if target.map Char.toLower = "xml".toList then none
  match r with
  | '?' :: '>' :: r => return r
  | _ =>
    let r ← needSpace r
    let (_, r) ← takeUntil ['?', '>'] r
    return r

/-- What follows a comment, from after `<!--`. Two dashes in it can only end it. -/
def skipComment (cs : List Char) : Option (List Char) := do
  let (_, r) ← takeUntil ['-', '-'] cs
  match r with
  | '>' :: r => return r
  | _ => none

/-! ## The document type -/

/-- Whether a character may stand in a public identifier. -/
def isPublicChar (c : Char) : Bool :=
  isAsciiLetter c || isAsciiDigit c || " \n\r-'()+,./:=?;!*#@$_%".toList.contains c

/-- The characters after a certain word. -/
def dropWord (word : String) (cs : List Char) : Option (List Char) :=
  if word.toList.isPrefixOf cs then some (cs.drop word.length) else none

/-- Whether what follows a literal may follow it: literals are set off from all but brackets. -/
def endsLiteral (cs : List Char) : Bool :=
  match cs with
  | c :: _ => isSpace c || c == '>' || c == '[' || c == '%'
  | [] => false

/-- A literal set off from what follows it. -/
def takeSetOff (cs : List Char) : Option (List Char × List Char) := do
  let (value, r) ← takeLiteral cs
  if endsLiteral r then return (value, r) else none

/-- An external identifier, and what follows it. With `publicAlone`, a public identifier need not be
    followed by a system identifier. -/
def takeExternal (publicAlone : Bool) (cs : List Char) : Option (List Char) :=
  match dropWord "SYSTEM" cs with
  | some r => do
    let (_, r) ← takeSetOff (← needSpace r)
    return r
  | none => do
    let r ← dropWord "PUBLIC" cs
    let (id, r) ← takeSetOff (← needSpace r)
    if !id.all isPublicChar then none
    match takeSetOff (skipSpace r) with
    | some (_, r) => return r
    | none => if publicAlone then return r else none

/-- The closing bracket of a declaration, after optional space. -/
def closeDeclaration (cs : List Char) : Option (List Char) :=
  match skipSpace cs with
  | '>' :: r => some r
  | _ => none

/-- The text of an entity from its literal: references to characters are replaced, those to entities
    stay, and there may be none to parameter entities. -/
def entityText : Nat → List Char → Option (List Char)
  | 0, _ => none
  | _ + 1, [] => some []
  | fuel + 1, '&' :: r =>
    match takeReference r with
    | none => none
    | some (.char n, r) => (entityText fuel r).map (Char.ofNat n :: ·)
    | some (.entity name, r) =>
      (entityText fuel r).map fun rest => '&' :: (name ++ ';' :: rest)
  | fuel + 1, c :: r => if c = '%' then none else (entityText fuel r).map (c :: ·)

/-- One more general entity; the first declaration of a name counts, and the predefined names keep their
    meaning. -/
def Declarations.addEntity (d : Declarations) (name : List Char) (e : Entity) : Declarations :=
  if !d.counting || (predefined? name).isSome || (d.entities.lookup name).isSome then d
  else { d with entities := (name, e) :: d.entities }

/-- The rule declared for an attribute of an element. -/
def Declarations.rule? (d : Declarations) (element name : QName) : Option AttributeRule :=
  (d.attributes.find? fun (e, r) => e = element ∧ r.name = name).map fun (_, r) => r

/-- One more attribute of an element; the first declaration counts. -/
def Declarations.addAttribute (d : Declarations) (element : QName) (r : AttributeRule) :
    Declarations :=
  if !d.counting || (d.rule? element r.name).isSome then d
  else { d with attributes := d.attributes ++ [(element, r)] }

/-- An entity declaration after its keyword. -/
def takeEntity (d : Declarations) (cs : List Char) : Option (Declarations × List Char) := do
  let cs ← needSpace cs
  let (parameter, cs) ← match cs with
    | '%' :: r => (needSpace r).map fun r => (true, r)
    | _ => some (false, cs)
  let (name, r) ← takeName cs
  let r ← needSpace r
  match takeSetOff r with
  | some (literal, r) =>
    let text ← entityText (literal.length + 1) literal
    let r ← closeDeclaration r
    return (if parameter then d else d.addEntity name (.internal text), r)
  | none =>
    let r ← takeExternal false r
    match closeDeclaration r with
    | some r => return (if parameter then d else d.addEntity name .external, r)
    | none =>
      if parameter then none
      let r ← dropWord "NDATA" (← needSpace r)
      let (_, r) ← takeName (← needSpace r)
      let r ← closeDeclaration r
      return (d.addEntity name .unparsed, r)

/-- Names or name tokens between bars up to the closing parenthesis. -/
def takeChoices (names : Bool) : Nat → List Char → Option (List Char)
  | 0, _ => none
  | fuel + 1, cs => do
    let cs := skipSpace cs
    let (token, r) ← if names then takeName cs else some (cs.span isNameChar)
    if token.isEmpty then none
    match skipSpace r with
    | '|' :: r => takeChoices names fuel r
    | ')' :: r => return r
    | _ => none

/-- The type of an attribute: whether it is free text, and what follows it. -/
def takeAttributeType (cs : List Char) : Option (Bool × List Char) :=
  match cs with
  | '(' :: r => (takeChoices false (r.length + 1) r).map fun r => (false, r)
  | _ => do
    let (word, r) ← takeName cs
    let word := String.ofList word
    if word = "CDATA" then return (true, r)
    else if word = "NOTATION" then
      match ← needSpace r with
      | '(' :: r => return (false, ← takeChoices true (r.length + 1) r)
      | _ => none
    else if ["ID", "IDREF", "IDREFS", "ENTITY", "ENTITIES", "NMTOKEN", "NMTOKENS"].contains word then
      return (false, r)
    else none

/-- The attributes of an attribute declaration, up to its end. -/
def takeAttributes (element : QName) :
    Nat → Declarations → List Char → Option (Declarations × List Char)
  | 0, _, _ => none
  | fuel + 1, d, cs =>
    match closeDeclaration cs with
    | some r => some (d, r)
    | none => do
      let (name, r) ← takeQName (← needSpace cs)
      let (free, r) ← takeAttributeType (← needSpace r)
      let r ← needSpace r
      let without (r : List Char) : Option (Declarations × List Char) :=
        takeAttributes element fuel (d.addAttribute element ⟨name, free, none⟩) r
      let withDefault (r : List Char) : Option (Declarations × List Char) := do
        let (literal, r) ← takeSetOff r
        let value ← attributeValue d free literal
        takeAttributes element fuel (d.addAttribute element ⟨name, free, some value⟩) r
      match dropWord "#IMPLIED" r, dropWord "#REQUIRED" r, dropWord "#FIXED" r with
      | some r, _, _ => without r
      | _, some r, _ => without r
      | _, _, some r => withDefault (← needSpace r)
      | _, _, _ => withDefault r

/-- The marks of repetition after a part of a content model. -/
def dropRepetition : List Char → List Char
  | '?' :: r => r
  | '*' :: r => r
  | '+' :: r => r
  | cs => cs

/-- A content model after its opening parenthesis, up to the closing one: parts between bars or between
    commas, not both. -/
def takeModel : Nat → Option Char → List Char → Option (List Char)
  | 0, _, _ => none
  | fuel + 1, mark, cs => do
    let r ← match skipSpace cs with
      | '(' :: r => takeModel fuel none r
      | r => (takeQName r).map fun (_, r) => r
    match skipSpace (dropRepetition r) with
    | ')' :: r => return r
    | c :: r =>
      if (c = '|' ∨ c = ',') ∧ (mark = none ∨ mark = some c) then takeModel fuel (some c) r else none
    | [] => none

/-- The rest of a model of mixed content after `#PCDATA`, with its closing parenthesis and mark. -/
def takeMixed : Nat → Bool → List Char → Option (List Char)
  | 0, _, _ => none
  | fuel + 1, any, cs => do
    match skipSpace cs with
    | ')' :: '*' :: r => return r
    | ')' :: r => if any then none else return r
    | '|' :: r =>
      let (_, r) ← takeQName (skipSpace r)
      takeMixed fuel true r
    | _ => none

/-- An element declaration after its keyword. -/
def takeElement (cs : List Char) : Option (List Char) := do
  let (_, r) ← takeQName (← needSpace cs)
  let r ← needSpace r
  match r with
  | '(' :: r =>
    match dropWord "#PCDATA" (skipSpace r) with
    | some r => closeDeclaration (← takeMixed (r.length + 1) false r)
    | none => closeDeclaration (dropRepetition (← takeModel (r.length + 1) none r))
  | _ =>
    match dropWord "EMPTY" r, dropWord "ANY" r with
    | some r, _ => closeDeclaration r
    | _, some r => closeDeclaration r
    | _, _ => none

/-- A notation declaration after its keyword. -/
def takeNotation (cs : List Char) : Option (List Char) := do
  let (_, r) ← takeName (← needSpace cs)
  let r ← takeExternal true (← needSpace r)
  closeDeclaration r

/-- The internal part of a document type, up to its closing bracket. -/
def takeSubset : Nat → Declarations → List Char → Option (Declarations × List Char)
  | 0, _, _ => none
  | fuel + 1, d, cs =>
    match skipSpace cs with
    | ']' :: r => some (d, r)
    | '%' :: r => do
      let (_, r) ← takeName r
      match r with
      | ';' :: r =>
        takeSubset fuel { d with unread := true, counting := d.counting && d.standalone } r
      | _ => none
    | '<' :: '?' :: r => do takeSubset fuel d (← skipInstruction r)
    | '<' :: '!' :: '-' :: '-' :: r => do takeSubset fuel d (← skipComment r)
    | '<' :: '!' :: r =>
      match dropWord "ENTITY" r, dropWord "ATTLIST" r, dropWord "ELEMENT" r, dropWord "NOTATION" r with
      | some r, _, _, _ => do
        let (d, r) ← takeEntity d r
        takeSubset fuel d r
      | _, some r, _, _ => do
        let (element, r) ← takeQName (← needSpace r)
        let (d, r) ← takeAttributes element (r.length + 1) d r
        takeSubset fuel d r
      | _, _, some r, _ => do takeSubset fuel d (← takeElement r)
      | _, _, _, some r => do takeSubset fuel d (← takeNotation r)
      | _, _, _, _ => none
    | _ => none

/-- A document type after its keyword, and what follows it. -/
def takeDoctype (d : Declarations) (cs : List Char) : Option (Declarations × List Char) := do
  let (_, r) ← takeQName (← needSpace cs)
  let spaced := skipSpace r
  let (d, r) ← match spaced with
    | 'S' :: _ | 'P' :: _ => do
      let r ← takeExternal false (← needSpace r)
      some ({ d with unread := true }, skipSpace r)
    | _ => some (d, spaced)
  match r with
  | '[' :: r =>
    let (d, r) ← takeSubset (r.length + 1) d r
    let r ← closeDeclaration r
    return (d, r)
  | '>' :: r => return (d, r)
  | _ => none

end Assay.Xml
