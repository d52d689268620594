import Assay.Fault
import Assay.Value.Print

/-!
# Shapes of documents

A document has the shape that its schema describes, or it violates it at certain places. All
violations are found, not only the first one; they are reported by place, the violations of one
place in the order of the rules: the kind of the value, the fields that it must have, its least
size, the fields that it may not have, and then what it holds.

## Main definitions

* `Schema`: The shapes.
* `Violation`: One way in which a value fails to have a shape, and where.
* `Schema.violations`: All violations of a value, as they are found.
* `message`: The report on a violation.
-/

namespace Assay

/-- A shape. Texts, lists and tables may be required to hold something. -/
inductive Schema
  /-- A text. -/
  | text (filled : Bool)
  /-- A list with items of one shape. -/
  | list (filled : Bool) (item : Schema)
  /-- A mapping with named fields; a closed one has no other fields. -/
  | record (closed : Bool) (required : List String) (fields : List (String × Schema))
  /-- A mapping with any keys and values of one shape. -/
  | table (filled : Bool) (entry : Schema)

/-- One step into a document: to an item of a list, or to the value under a key. -/
inductive Turn
  | item (index : Nat)
  | key (key : Value)

/-- What is wrong with a value. -/
inductive Misfit
  | kind (value : Value) (expected : String)
  | missing (field : String)
  | empty (value : Value)
  | unexpected (keys : List Value)

/-- What is wrong with a value, and the way to it. -/
structure Violation where
  place : List Turn
  misfit : Misfit

namespace Violation

/-- The text of a turn. -/
def turnText : Turn → String
  | .item index => toString index
  | .key key => key.plain

/-- The text of a place. -/
def placeText (place : List Turn) : String :=
  let text := String.intercalate "/" (place.map turnText)
  if text.isEmpty then "<root>" else text

/-- The report on a misfit. -/
def misfitText : Misfit → String
  | .kind value expected => value.nested ++ " is not of type " ++ Text.quote expected
  | .missing field => Text.quote field ++ " is a required property"
  | .empty value => value.nested ++ " should be non-empty"
  | .unexpected keys =>
    "Additional properties are not allowed (" ++ String.intercalate ", " (keys.map Value.nested) ++
      (if keys.length = 1 then " was" else " were") ++ " unexpected)"

/-- The report on a violation. -/
def message (v : Violation) : String :=
  placeText v.place ++ ": " ++ misfitText v.misfit

/-- A violation of a part, seen from the whole. -/
def inside (turn : Turn) (v : Violation) : Violation :=
  ⟨turn :: v.place, v.misfit⟩

end Violation

namespace Schema

/-- Whether a field of a mapping has one of the given names. -/
def isNamed (names : List String) : Value → Bool
  | .text name => names.contains name
  | _ => false

/-- The keys of a mapping that are none of the given names, sorted by their texts. -/
def unnamed (names : List String) (entries : List (Value × Value)) : List Value :=
  ((entries.map Prod.fst).filter fun key => !isNamed names key).mergeSort fun a b =>
    decide (a.plain ≤ b.plain)

/-- The violations of the items of a list, numbered from `n`. -/
def ofItems (check : Value → List Violation) (n : Nat) : List Value → List Violation
  | [] => []
  | v :: vs => (check v).map (Violation.inside (.item n)) ++ ofItems check (n + 1) vs

/-- A violation where something is wrong, and nothing otherwise. -/
def misfitIf (wrong : Bool) (misfit : Misfit) : List Violation :=
  if wrong then [⟨[], misfit⟩] else []

mutual

/-- The violations of a value, as they are found. -/
def violations : Schema → Value → List Violation
  | .text filled, v =>
    match v with
    | .text s => misfitIf (filled && s.isEmpty) (.empty v)
    | _ => [⟨[], .kind v "string"⟩]
  | .list filled item, v =>
    match v with
    | .list items => misfitIf (filled && items.isEmpty) (.empty v) ++ ofItems (violations item) 0 items
    | _ => [⟨[], .kind v "array"⟩]
  | .record closed required fields, v =>
    match v with
    | .map entries =>
      let extra := unnamed (fields.map Prod.fst) entries
      (required.filter fun name => (Value.lookupText name entries).isNone).map
          (fun name => ⟨[], .missing name⟩) ++
        misfitIf (closed && !extra.isEmpty) (.unexpected extra) ++ fieldViolations fields entries
    | _ => [⟨[], .kind v "object"⟩]
  | .table filled entry, v =>
    match v with
    | .map entries =>
      misfitIf (filled && entries.isEmpty) (.empty v) ++
        entries.flatMap fun (key, value) =>
          (violations entry value).map (Violation.inside (.key key))
    | _ => [⟨[], .kind v "object"⟩]

/-- The violations of the named fields of a mapping. -/
def fieldViolations : List (String × Schema) → List (Value × Value) → List Violation
  | [], _ => []
  | (name, schema) :: rest, entries =>
    (match Value.lookupText name entries with
      | some value => (violations schema value).map (Violation.inside (.key (.text name)))
      | none => []) ++ fieldViolations rest entries

end

end Schema

end Assay
