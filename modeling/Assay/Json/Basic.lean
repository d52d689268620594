import Assay.Value.Basic
import Assay.Text.Quoted

/-!
# JSON

JSON documents as data, and the three ways in which this program writes them: the canonical form
that content hashes are taken of, one line of ASCII, and indented ASCII. All three sort the names
of an object by code point.

## Main definitions

* `Json`: A document.
* `Json.canonical`: No spaces, characters beyond ASCII as they are.
* `Json.line`: One line, everything beyond ASCII escaped.
* `Json.indented`: Two spaces for each level, everything beyond ASCII escaped.
* `Json.toValue`: A document as a value.
-/

namespace Assay

open Text Number

/-- A JSON document. -/
inductive Json
  | null
  | bool (b : Bool)
  | int (n : Int)
  | float (x : Binary64)
  | text (s : String)
  | array (items : List Json)
  | object (members : List (String × Json))
  deriving Inhabited

namespace Json

/-- The escape of a UTF-16 unit. -/
def escapeUnit (n : Nat) : List Char :=
  '\\' :: 'u' :: hexadecimal 4 n

/-- A code point beyond the basic plane is escaped as its two UTF-16 units. -/
def escapeUnits (n : Nat) : List Char :=
  if n < 0x10000 then escapeUnit n
  else
    let m := n - 0x10000
    escapeUnit (0xD800 + m / 0x400) ++ escapeUnit (0xDC00 + m % 0x400)

/-- The short escapes. -/
def shortEscape? : Char → Option Char
  | '"' => some '"'
  | '\\' => some '\\'
  | '\n' => some 'n'
  | '\r' => some 'r'
  | '\t' => some 't'
  | '\x0c' => some 'f'
  | '\x08' => some 'b'
  | _ => none

/-- One character inside a JSON string; with `ascii`, everything outside printable ASCII is
    escaped, and otherwise only what JSON demands. -/
def escapeChar (ascii : Bool) (c : Char) : List Char :=
  match shortEscape? c with
  | some e => ['\\', e]
  | none =>
    if c.toNat < 32 then escapeUnit c.toNat
    else if ascii && 126 < c.toNat then escapeUnits c.toNat
    else [c]

/-- A JSON string. -/
def quoted (ascii : Bool) (s : String) : String :=
  String.ofList ('"' :: (s.toList.flatMap (escapeChar ascii) ++ ['"']))

/-- The number forms, with the words for what JSON proper cannot write. -/
def floatText : Binary64 → String
  | .notANumber => "NaN"
  | .infinite negative => if negative then "-Infinity" else "Infinity"
  | x => x.render

/-- Members sorted by name. -/
def sortMembers {α : Type} (members : List (String × α)) : List (String × α) :=
  members.mergeSort fun a b => decide (a.1 ≤ b.1)

mutual

/-- The compact writing with given separators. -/
def write (ascii : Bool) (comma colon : String) : Json → String
  | null => "null"
  | bool b => if b then "true" else "false"
  | int n => toString n
  | float x => floatText x
  | text s => quoted ascii s
  | array items => "[" ++ String.intercalate comma (writeItems ascii comma colon items) ++ "]"
  | object members =>
    "\x7b" ++ String.intercalate comma
      ((sortMembers (writeMembers ascii comma colon members)).map fun m =>
        quoted ascii m.1 ++ colon ++ m.2) ++ "\x7d"

/-- The writings of the items of an array. -/
def writeItems (ascii : Bool) (comma colon : String) : List Json → List String
  | [] => []
  | j :: js => write ascii comma colon j :: writeItems ascii comma colon js

/-- The names of an object with the writings of their members. -/
def writeMembers (ascii : Bool) (comma colon : String) :
    List (String × Json) → List (String × String)
  | [] => []
  | (name, j) :: rest => (name, write ascii comma colon j) :: writeMembers ascii comma colon rest

end

/-- The canonical form: no spaces, sorted names, characters beyond ASCII as they are. -/
def canonical (j : Json) : String :=
  j.write false "," ":"

/-- One line of ASCII, with a space after each comma and colon. -/
def line (j : Json) : String :=
  j.write true ", " ": "

/-- A line break and the indentation of a level. -/
def newline (level : Nat) : String :=
  "\n" ++ String.ofList (List.replicate (2 * level) ' ')

mutual

/-- The indented writing at a level. -/
def writeIndented (level : Nat) : Json → String
  | array [] => "[]"
  | object [] => "\x7b\x7d"
  | array items =>
    let inner := newline (level + 1)
    "[" ++ inner ++ String.intercalate ("," ++ inner) (indentedItems (level + 1) items) ++
      newline level ++ "]"
  | object members =>
    let inner := newline (level + 1)
    "\x7b" ++ inner ++ String.intercalate ("," ++ inner)
      ((sortMembers (indentedMembers (level + 1) members)).map fun m =>
        quoted true m.1 ++ ": " ++ m.2) ++ newline level ++ "\x7d"
  | j => j.line

/-- The indented writings of the items of an array. -/
def indentedItems (level : Nat) : List Json → List String
  | [] => []
  | j :: js => writeIndented level j :: indentedItems level js

/-- The names of an object with the indented writings of their members. -/
def indentedMembers (level : Nat) : List (String × Json) → List (String × String)
  | [] => []
  | (name, j) :: rest => (name, writeIndented level j) :: indentedMembers level rest

end

/-- Indented ASCII. -/
def indented (j : Json) : String :=
  j.writeIndented 0

mutual

/-- A document as a value. -/
def toValue : Json → Value
  | null => .null
  | bool b => .bool b
  | int n => .int n
  | float x => .float x
  | text s => .text s
  | array items => .list (toValues items)
  | object members => .map (toEntries members)

/-- The items of an array as values. -/
def toValues : List Json → List Value
  | [] => []
  | j :: js => toValue j :: toValues js

/-- The members of an object as entries. -/
def toEntries : List (String × Json) → List (Value × Value)
  | [] => []
  | (name, j) :: rest => (.text name, toValue j) :: toEntries rest

end

/-- An array of texts. -/
def texts (items : List String) : Json :=
  .array (items.map .text)

/-- The member of an object under a name. -/
def member? (j : Json) (name : String) : Option Json :=
  match j with
  | object members => members.lookup name
  | _ => none

end Json

end Assay
