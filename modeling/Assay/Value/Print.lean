import Assay.Value.Basic

/-!
# The text of a value

A message shows a value in one of two forms. On its own, a text stands as it is and a date as the
calendar writes it; inside a list or a mapping, or where a message asks for it, a text is quoted
and a date carries the name of its kind. All other values have one form.

## Main definitions

* `Value.nested`: The form inside a larger value.
* `Value.plain`: The form on its own.
-/

namespace Assay.Value

open Text

mutual

/-- The form of a value inside a larger one. -/
def nested : Value → String
  | null => "None"
  | bool b => if b then "True" else "False"
  | int n => toString n
  | float x => x.render
  | text s => quote s
  | bytes b => quoteBytes b
  | date d => d.renderNested
  | timestamp t => t.renderNested
  | list items => "[" ++ String.intercalate ", " (nestedItems items) ++ "]"
  | pair a b => "(" ++ nested a ++ ", " ++ nested b ++ ")"
  | set items =>
    if items.isEmpty then "set()" else "\x7b" ++ String.intercalate ", " (nestedItems items) ++ "\x7d"
  | map entries => "\x7b" ++ String.intercalate ", " (nestedEntries entries) ++ "\x7d"
  | again mapping => if mapping then "\x7b...\x7d" else "[...]"

/-- The forms of the items of a collection. -/
def nestedItems : List Value → List String
  | [] => []
  | v :: vs => nested v :: nestedItems vs

/-- The forms of the entries of a mapping. -/
def nestedEntries : List (Value × Value) → List String
  | [] => []
  | (k, v) :: rest => (nested k ++ ": " ++ nested v) :: nestedEntries rest

end

/-- The form of a value on its own. -/
def plain : Value → String
  | text s => s
  | date d => d.render
  | timestamp t => t.render
  | v => v.nested

end Assay.Value
