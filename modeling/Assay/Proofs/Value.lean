import Mathlib
import Assay.Json.Basic
import Assay.Schema.Order

/-!
# Documents as values

A JSON document is one of the values, and it stays what it is: what an object holds under a name is what
the mapping holds under the text, part by part. All keys of such a mapping are texts, and of all keys the
texts are the ones that can always be put in order. They have no order with any other key.

## Theorems

* `Json.field?_toValue`: What a document holds under a name.
* `Json.toValue_eq_text_iff`, `Json.toValue_eq_list_iff`, `Json.toValue_eq_map_iff`: Which documents are a
  text, a list and a mapping.
* `Value.compareKeys?_text`, `Value.compareKeys?_text_eq_none`: The order of texts, and of texts with others.
-/

namespace Assay

namespace Json

theorem toValues_eq_map (js : List Json) : toValues js = js.map toValue := by
  induction js with
  | nil => rfl
  | cons j js ih => rw [toValues, ih, List.map_cons]

theorem toEntries_eq_map (members : List (String × Json)) :
    toEntries members = members.map fun m => (.text m.1, m.2.toValue) := by
  induction members with
  | nil => rfl
  | cons m members ih => rw [toEntries, ih, List.map_cons]

/-- What a document holds under a name. -/
theorem field?_toValue (j : Json) (name : String) :
    j.toValue.field? name = (j.member? name).map toValue := by
  cases j
  case object members =>
    rw [toValue, Value.field?, member?]
    induction members with
    | nil => rfl
    | cons m members ih =>
        rw [toEntries, Value.lookupText, List.lookup_cons]
        by_cases h : m.1 = name
        · rw [if_pos h, h, beq_self_eq_true]
          rfl
        · rw [if_neg h, beq_false_of_ne fun heq => h heq.symm]
          exact ih
  all_goals rfl

theorem toValue_eq_text_iff {j : Json} {s : String} : j.toValue = .text s ↔ j = .text s := by
  cases j <;> simp [toValue]

theorem toValue_eq_float_iff {j : Json} {x : Number.Binary64} : j.toValue = .float x ↔ j = .float x := by
  cases j <;> simp [toValue]

theorem toValue_eq_list_iff {j : Json} {items : List Value} :
    j.toValue = .list items ↔ ∃ js, j = .array js ∧ items = js.map toValue := by
  cases j <;> simp [toValue, toValues_eq_map, eq_comm]

theorem toValue_eq_map_iff {j : Json} {entries : List (Value × Value)} :
    j.toValue = .map entries ↔
      ∃ members, j = .object members ∧ entries = members.map fun m => (.text m.1, m.2.toValue) := by
  cases j <;> simp [toValue, toEntries_eq_map, eq_comm]

end Json

namespace Value

/-- Two texts are ordered by their characters. -/
theorem compareKeys?_text (s t : String) : compareKeys? (.text s) (.text t) = some (compare s t) := by
  by_cases h : s = t
  · subst h
    simp [compareKeys?, sameKey]
  · simp [compareKeys?, sameKey, h]

/-- A text has no order with a key that is none. -/
theorem compareKeys?_text_eq_none {v : Value} (hv : ∀ t, v ≠ .text t) (s : String) :
    compareKeys? (.text s) v = none ∧ compareKeys? v (.text s) = none := by
  cases v
  case text t => exact absurd rfl (hv t)
  all_goals simp [compareKeys?, sameKey, integer?, magnitude?]

end Value

end Assay
