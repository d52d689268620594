import Assay.Number.Shortest
import Assay.Text.Quoted
import Assay.Value.Calendar

/-!
# Values

The data that a JSON or YAML document holds. Mappings keep the order of their entries and may
have any scalar as a key; JSON documents fill only a part of the type.

A document may refer back to a collection that it stands inside of. Such a reference is the leaf
`again`, which is shown as dots, and so every value is a finite tree.

## Main definitions

* `Value`: The values.
* `Value.sameKey`: Whether two values are one key of a mapping.
* `Value.put`: A mapping's entries with one entry set.
* `Value.field?`: What a mapping holds under a text.
-/

namespace Assay

open Number

/-- A value of a document. -/
inductive Value
  | null
  | bool (b : Bool)
  | int (n : Int)
  | float (x : Binary64)
  | text (s : String)
  | bytes (b : List UInt8)
  | date (d : Date)
  | timestamp (t : Timestamp)
  | list (items : List Value)
  | pair (first second : Value)
  | set (items : List Value)
  | map (entries : List (Value × Value))
  /-- A reference back to a collection around it, a mapping or not. -/
  | again (mapping : Bool)
  deriving Inhabited

namespace Value

/-- A value as an integer: the truth values count as 0 and 1, and a floating-point number counts
    when it is a whole number. -/
def integer? : Value → Option Int
  | bool b => some (if b then 1 else 0)
  | int n => some n
  | float x => x.integer?
  | _ => none

/-- Whether two scalars are one key: numbers are compared as numbers, whatever their kind, and all
    else within its own kind. -/
def sameKey (a b : Value) : Bool :=
  match a, b with
  | null, null => true
  | text s, text t => s == t
  | bytes s, bytes t => s == t
  | date d, date e => d == e
  | timestamp t, timestamp u => t.sameMoment u
  | float x, float y => x.same y
  | a, b =>
    match a.integer?, b.integer? with
    | some m, some n => m == n
    | _, _ => false

/-- The entries with `key` set to `value`: an entry that has the key already keeps its place and its
    own spelling of the key, and a new one goes to the end. -/
def put (key value : Value) : List (Value × Value) → List (Value × Value)
  | [] => [(key, value)]
  | (k, v) :: rest => if k.sameKey key then (k, value) :: rest else (k, v) :: put key value rest

/-- What the first entry under a text holds. -/
def lookupText (name : String) : List (Value × Value) → Option Value
  | [] => none
  | (text k, v) :: rest => if k = name then some v else lookupText name rest
  | _ :: rest => lookupText name rest

/-- What a mapping holds under a text. -/
def field? (v : Value) (name : String) : Option Value :=
  match v with
  | map entries => lookupText name entries
  | _ => none

/-- Whether a value counts as absent: nothing, a zero, an empty text or an empty collection. -/
def isBlank : Value → Bool
  | null => true
  | bool b => !b
  | int n => n == 0
  | float x => x.isZero
  | text s => s.isEmpty
  | bytes b => b.isEmpty
  | list xs => xs.isEmpty
  | set xs => xs.isEmpty
  | map es => es.isEmpty
  | _ => false

end Value

end Assay
