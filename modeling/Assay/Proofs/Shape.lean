import Mathlib
import Assay.Schema.Order

/-!
# Values that have a shape

When a value has the shape that a schema describes, said level by level: what it has to be, what it has to
hold, and that its parts have the shapes of the parts. A value has the shape exactly if no violation is
found (`violations_eq_nil_iff`), and then and only then nothing is reported.

A report can break off, since violations are put in order by their places, and keys that are not texts may
have no order. Only tables lead through such keys. A record names the fields that it looks into, and every
name is a text, so a schema without tables has its violations at places that can be compared, and its
report is always given (`exists_report`).

## Main definitions

* `Schema.Fits`: A value that has a shape.
* `Schema.HasNoTable`: A schema in which every key that is entered has a name.
* `Schema.Placed`: A violation at a place that is compared with every other place.

## Theorems

* `violations_eq_nil_iff`: A value has the shape where it does not violate it.
* `report_eq_ok_nil_iff`: Nothing is reported of a value that has the shape.
* `placed_of_mem_violations`, `exists_report`: The places that a schema without tables leads to, and the
  report that it gives.
-/

namespace Assay.Schema

mutual

/-- A value that has a shape. -/
def Fits : Schema → Value → Prop
  | .text filled, v => ∃ s, v = .text s ∧ (filled = true → s ≠ "")
  | .list filled item, v =>
    ∃ items, v = .list items ∧ (filled = true → items ≠ []) ∧ ∀ part ∈ items, Fits item part
  | .record closed required fields, v =>
    ∃ entries, v = .map entries ∧ (∀ name ∈ required, Value.lookupText name entries ≠ none) ∧
      (closed = true → ∀ e ∈ entries, isNamed (fields.map Prod.fst) e.1 = true) ∧
      FieldsFit fields entries
  | .table filled entry, v =>
    ∃ entries, v = .map entries ∧ (filled = true → entries ≠ []) ∧ ∀ e ∈ entries, Fits entry e.2

/-- The values under the named fields have their shapes, where there are any. -/
def FieldsFit : List (String × Schema) → List (Value × Value) → Prop
  | [], _ => True
  | (name, schema) :: rest, entries =>
    (∀ value, Value.lookupText name entries = some value → Fits schema value) ∧
      FieldsFit rest entries

end

/-! ## Violations -/

theorem misfitIf_eq_nil_iff {wrong : Bool} {misfit : Misfit} :
    misfitIf wrong misfit = [] ↔ wrong = false := by
  cases wrong <;> simp [misfitIf]

theorem ofItems_eq_nil_iff {check : Value → List Violation} {n : Nat} {vs : List Value} :
    ofItems check n vs = [] ↔ ∀ v ∈ vs, check v = [] := by
  induction vs generalizing n with
  | nil => simp [ofItems]
  | cons v vs ih =>
      rw [ofItems, List.append_eq_nil_iff, List.map_eq_nil_iff, ih, List.forall_mem_cons]

theorem unnamed_eq_nil_iff {names : List String} {entries : List (Value × Value)} :
    unnamed names entries = [] ↔ ∀ e ∈ entries, isNamed names e.1 = true := by
  rw [unnamed, ← List.length_eq_zero_iff, List.length_mergeSort, List.length_eq_zero_iff,
    List.filter_eq_nil_iff, List.forall_mem_map]
  simp only [Bool.not_eq_true', Bool.not_eq_false]

mutual

/-- A value has a shape where no violation is found. The recursion is on the schema, and on each level a value
    of another kind is the one violation that there is. -/
theorem violations_eq_nil_iff : ∀ (schema : Schema) (v : Value),
    violations schema v = [] ↔ Fits schema v
  | .text filled, v => by
      cases v
      case text s =>
        simp only [violations, misfitIf_eq_nil_iff, Fits, Value.text.injEq, exists_eq_left']
        cases filled <;> simp
      -- A value of another kind violates the shape, and it does not fit it either.
      all_goals simp [violations, Fits]
  | .list filled item, v => by
      cases v
      case list items =>
        simp only [violations, List.append_eq_nil_iff, misfitIf_eq_nil_iff, ofItems_eq_nil_iff, Fits,
          Value.list.injEq, exists_eq_left', fun part => violations_eq_nil_iff item part]
        cases filled <;> simp
      all_goals simp [violations, Fits]
  | .record closed required fields, v => by
      cases v
      case map entries =>
        simp only [violations, List.append_eq_nil_iff, misfitIf_eq_nil_iff, Fits, Value.map.injEq,
          exists_eq_left', fieldViolations_eq_nil_iff fields entries, List.map_eq_nil_iff,
          List.filter_eq_nil_iff, ← unnamed_eq_nil_iff, and_assoc]
        cases closed <;> simp
      all_goals simp [violations, Fits]
  | .table filled entry, v => by
      cases v
      case map entries =>
        simp only [violations, List.append_eq_nil_iff, misfitIf_eq_nil_iff, List.flatMap_eq_nil_iff,
          List.map_eq_nil_iff, Fits, Value.map.injEq, exists_eq_left',
          fun part => violations_eq_nil_iff entry part]
        cases filled <;> simp
      all_goals simp [violations, Fits]

theorem fieldViolations_eq_nil_iff : ∀ (fields : List (String × Schema))
    (entries : List (Value × Value)), fieldViolations fields entries = [] ↔ FieldsFit fields entries
  | [], entries => by simp only [fieldViolations, FieldsFit]
  | (name, schema) :: rest, entries => by
      rw [fieldViolations, List.append_eq_nil_iff, fieldViolations_eq_nil_iff rest entries, FieldsFit]
      refine and_congr_left fun _ => ?_
      rcases Value.lookupText name entries with _ | value
      · simp
      · simp [violations_eq_nil_iff schema value]

end

/-- Nothing is reported of a value exactly if it has the shape. -/
theorem report_eq_ok_nil_iff {schema : Schema} {v : Value} :
    schema.report v = .ok [] ↔ Fits schema v := by
  rw [← violations_eq_nil_iff, report]
  constructor
  · intro h
    split at h
    · cases h
    · rwa [Except.ok.injEq, List.map_eq_nil_iff, ← List.length_eq_zero_iff, List.length_mergeSort,
        List.length_eq_zero_iff] at h
  · intro h
    simp only [h, Violation.haveIncomparable, List.filter_nil, List.any_nil, Bool.false_eq_true,
      if_false, List.mergeSort_nil, List.map_nil]

/-! ## Places -/

mutual

/-- A schema in which every key that is entered has a name. -/
def HasNoTable : Schema → Prop
  | .text _ => True
  | .list _ item => HasNoTable item
  | .record _ _ fields => FieldsHaveNoTable fields
  | .table _ _ => False

/-- The same for the shapes of fields. -/
def FieldsHaveNoTable : List (String × Schema) → Prop
  | [] => True
  | (_, schema) :: rest => HasNoTable schema ∧ FieldsHaveNoTable rest

end

/-- A violation at a place that is compared with every other place. -/
def Placed (w : Violation) : Prop :=
  w.place.any Violation.isUnordered = false

theorem placed_here (misfit : Misfit) : Placed ⟨[], misfit⟩ :=
  rfl

theorem placed_of_mem_misfitIf {wrong : Bool} {misfit : Misfit} {w : Violation}
    (h : w ∈ misfitIf wrong misfit) : Placed w := by
  cases wrong with
  | false => exact absurd h List.not_mem_nil
  | true => exact List.mem_singleton.mp h ▸ placed_here misfit

theorem Placed.inside {turn : Turn} {w : Violation} (hturn : Violation.isUnordered turn = false)
    (h : Placed w) : Placed (w.inside turn) := by
  rw [Placed, Violation.inside, List.any_cons, hturn, Bool.false_or]
  exact h

theorem placed_of_mem_ofItems {check : Value → List Violation} (hcheck : ∀ v, ∀ w ∈ check v, Placed w)
    {vs : List Value} {n : Nat} : ∀ w ∈ ofItems check n vs, Placed w := by
  induction vs generalizing n with
  | nil => exact fun w h => absurd h List.not_mem_nil
  | cons v vs ih =>
      intro w h
      rw [ofItems, List.mem_append, List.mem_map] at h
      rcases h with ⟨w, hw, rfl⟩ | hrest
      · exact (hcheck v w hw).inside rfl
      · exact ih w hrest

mutual

/-- A schema without tables finds its violations at places that can be compared. -/
theorem placed_of_mem_violations : ∀ (schema : Schema), HasNoTable schema → ∀ (v : Value),
    ∀ w ∈ violations schema v, Placed w
  | .text filled, _, v => by
      intro w hw
      cases v
      case text s => exact placed_of_mem_misfitIf hw
      all_goals exact List.mem_singleton.mp hw ▸ placed_here _
  | .list filled item, hitem, v => by
      intro w hw
      cases v
      case list items =>
        rcases List.mem_append.mp hw with hhere | hinside
        · exact placed_of_mem_misfitIf hhere
        · exact placed_of_mem_ofItems (placed_of_mem_violations item hitem) w hinside
      all_goals exact List.mem_singleton.mp hw ▸ placed_here _
  | .record closed required fields, hfields, v => by
      intro w hw
      cases v
      case map entries =>
        rcases List.mem_append.mp hw with hhere | hinside
        · -- A field that is missing, or one too many, is found at the record itself.
          rcases List.mem_append.mp hhere with hmissing | hextra
          · rcases List.mem_map.mp hmissing with ⟨name, -, rfl⟩
            exact placed_here _
          · exact placed_of_mem_misfitIf hextra
        · exact placed_of_mem_fieldViolations fields hfields entries w hinside
      all_goals exact List.mem_singleton.mp hw ▸ placed_here _
  | .table _ _, htable, _ => htable.elim

theorem placed_of_mem_fieldViolations : ∀ (fields : List (String × Schema)),
    FieldsHaveNoTable fields → ∀ (entries : List (Value × Value)),
    ∀ w ∈ fieldViolations fields entries, Placed w
  | [], _, entries => fun w hw => absurd hw List.not_mem_nil
  | (name, schema) :: rest, h, entries => by
      intro w hw
      rw [fieldViolations, List.mem_append] at hw
      rcases hw with hhere | hrest
      · rcases hvalue : Value.lookupText name entries with _ | value
        · rw [hvalue] at hhere
          exact absurd hhere List.not_mem_nil
        · rw [hvalue] at hhere
          rcases List.mem_map.mp hhere with ⟨w, hw, rfl⟩
          exact (placed_of_mem_violations schema h.1 value w hw).inside rfl
      · exact placed_of_mem_fieldViolations rest h.2 entries w hrest

end

/-- A schema without tables always has a report to give, and it is on all violations. -/
theorem exists_report {schema : Schema} (h : HasNoTable schema) (v : Value) :
    ∃ messages, schema.report v = .ok messages := by
  have hnone : Violation.haveIncomparable (violations schema v) = false := by
    rw [Violation.haveIncomparable, List.filter_eq_nil_iff.mpr, List.any_nil]
    intro w hw
    rw [Bool.not_eq_true]
    exact placed_of_mem_violations schema h v w hw
  simp only [report, hnone, Bool.false_eq_true, if_false]
  exact ⟨_, rfl⟩

end Assay.Schema
