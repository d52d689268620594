import Assay.Proofs.Shape
import Assay.Proofs.Value
import Assay.Rule.Script

/-!
# Violations that have no order

When a report breaks off. Violations are reported by their places, and two places have an order unless they
lead through keys that have none. Where a document violates its shape in two entries of one table, under a
text and a number say, nothing can be reported at all, and the reader of the document breaks off with it.

Two violations that are in different items of a list, or under different names, are ordered by these alone,
so the disorder has to be within one of them (`disordered_ofItems_iff`, `disordered_record_iff`). Of the
shape of a script nothing remains but its tables, which are the examples.

## Main definitions

* `Violation.Disordered`: Some of the violations have no order.
* `Schema.MixedTable`: A table that is wrong under two keys that have no order.
* `Script.HasMixedExample`: A script with such an example.

## Theorems

* `Schema.report_eq_error_iff`: When a report breaks off.
* `Script.report_eq_error_iff`: Which scripts break their report off.
-/

namespace Assay

namespace Violation

/-- Some of the violations have no order. -/
def Disordered (ws : List Violation) : Prop :=
  ∃ w ∈ ws, w.place.any isUnordered = true ∧ ∃ v ∈ ws, comparePlaces? w.place v.place = none

theorem haveIncomparable_eq_true_iff {ws : List Violation} :
    haveIncomparable ws = true ↔ Disordered ws := by
  simp only [haveIncomparable, List.any_eq_true, List.mem_filter, Option.isNone_iff_eq_none, Disordered,
    and_assoc]

/-- Two violations have an order, whichever comes first. -/
def Ordered (v w : Violation) : Prop :=
  comparePlaces? v.place w.place ≠ none ∧ comparePlaces? w.place v.place ≠ none

theorem not_disordered_nil : ¬ Disordered [] := by
  rintro ⟨w, hw, -⟩
  exact absurd hw List.not_mem_nil

/-- Violations that are in order with others are disordered on their own, or the others are. -/
theorem disordered_append_iff {vs ws : List Violation} (h : ∀ v ∈ vs, ∀ w ∈ ws, Ordered v w) :
    Disordered (vs ++ ws) ↔ Disordered vs ∨ Disordered ws := by
  constructor
  · rintro ⟨v, hv, hunordered, w, hw, hnone⟩
    -- The two without an order are on the same side, since those of different sides have one.
    rcases List.mem_append.mp hv with hv | hv <;> rcases List.mem_append.mp hw with hw | hw
    · exact Or.inl ⟨v, hv, hunordered, w, hw, hnone⟩
    · exact absurd hnone (h v hv w hw).1
    · exact absurd hnone (h w hw v hv).2
    · exact Or.inr ⟨v, hv, hunordered, w, hw, hnone⟩
  · rintro (⟨v, hv, hunordered, w, hw, hnone⟩ | ⟨v, hv, hunordered, w, hw, hnone⟩)
    · exact ⟨v, List.mem_append_left ws hv, hunordered, w, List.mem_append_left ws hw, hnone⟩
    · exact ⟨v, List.mem_append_right vs hv, hunordered, w, List.mem_append_right vs hw, hnone⟩

/-- What is wrong with a value itself comes before all else. -/
theorem ordered_of_root {v : Violation} (hv : v.place = []) (w : Violation) : Ordered v w := by
  rw [Ordered, hv]
  cases w.place <;> exact ⟨nofun, nofun⟩

/-- What is wrong with a value itself disorders nothing. -/
theorem disordered_root_append_iff {here ws : List Violation} (hhere : ∀ v ∈ here, v.place = []) :
    Disordered (here ++ ws) ↔ Disordered ws := by
  rw [disordered_append_iff fun v hv w _ => ordered_of_root (hhere v hv) w, or_iff_right]
  rintro ⟨v, hv, hunordered, -⟩
  rw [hhere v hv] at hunordered
  cases hunordered

/-- Violations of a part have the order that they have within it. -/
theorem disordered_map_inside_iff {turn : Turn} (hturn : isUnordered turn = false)
    (hsame : compareTurns? turn turn = some .eq) {ws : List Violation} :
    Disordered (ws.map (inside turn)) ↔ Disordered ws := by
  simp only [Disordered, List.mem_map, exists_exists_and_eq_and, inside, List.any_cons, hturn,
    Bool.false_or, comparePlaces?, hsame]

/-- Violations of two parts are ordered by the turns to them. -/
theorem ordered_inside {t u : Turn} (h : compareTurns? t u ≠ none ∧ compareTurns? t u ≠ some .eq)
    (h' : compareTurns? u t ≠ none ∧ compareTurns? u t ≠ some .eq) (v w : Violation) :
    Ordered (v.inside t) (w.inside u) := by
  have hturns : ∀ {t u : Turn} (ts us : List Turn),
      compareTurns? t u ≠ none ∧ compareTurns? t u ≠ some .eq → comparePlaces? (t :: ts) (u :: us) ≠ none := by
    intro t u ts us h
    rw [comparePlaces?]
    split
    · rename_i heq
      exact absurd heq h.2
    · exact h.1
  exact ⟨hturns _ _ h, hturns _ _ h'⟩

theorem compareTurns?_item {m n : Nat} (h : m ≠ n) : compareTurns? (.item m) (.item n) ≠ none ∧
    compareTurns? (.item m) (.item n) ≠ some .eq := by
  rw [compareTurns?]
  exact ⟨nofun, fun heq => h (compare_eq_iff_eq.mp (Option.some.inj heq))⟩

theorem compareTurns?_name {s t : String} (h : s ≠ t) :
    compareTurns? (.key (.text s)) (.key (.text t)) ≠ none ∧
      compareTurns? (.key (.text s)) (.key (.text t)) ≠ some .eq := by
  rw [compareTurns?, Value.compareKeys?_text]
  exact ⟨nofun, fun heq => h (compare_eq_iff_eq.mp (Option.some.inj heq))⟩

end Violation

namespace Schema

open Violation

theorem place_of_mem_misfitIf {wrong : Bool} {misfit : Misfit} :
    ∀ w ∈ misfitIf wrong misfit, w.place = [] := by
  intro w hw
  cases wrong with
  | false => exact absurd hw List.not_mem_nil
  | true => rw [List.mem_singleton.mp hw]

theorem not_disordered_singleton (misfit : Misfit) : ¬ Disordered [⟨[], misfit⟩] := by
  rintro ⟨w, hw, hunordered, -⟩
  rw [List.mem_singleton.mp hw] at hunordered
  cases hunordered

theorem not_disordered_text (filled : Bool) (v : Value) : ¬ Disordered (violations (.text filled) v) := by
  rw [← List.append_nil (violations _ _), disordered_root_append_iff]
  · exact not_disordered_nil
  · intro w hw
    cases v
    case text s => exact place_of_mem_misfitIf w hw
    all_goals rw [List.mem_singleton.mp hw]

/-! ## Lists -/

theorem exists_item_of_mem_ofItems {check : Value → List Violation} {vs : List Value} {n : Nat}
    {w : Violation} (h : w ∈ ofItems check n vs) : ∃ m ≥ n, ∃ v : Violation, w = v.inside (.item m) := by
  induction vs generalizing n with
  | nil => exact absurd h List.not_mem_nil
  | cons v vs ih =>
      rw [ofItems, List.mem_append, List.mem_map] at h
      rcases h with ⟨w, -, rfl⟩ | hrest
      · exact ⟨n, le_rfl, w, rfl⟩
      · rcases ih hrest with ⟨m, hm, hw⟩
        exact ⟨m, Nat.le_of_succ_le hm, hw⟩

/-- The violations of items are disordered within an item. -/
theorem disordered_ofItems_iff {check : Value → List Violation} {vs : List Value} {n : Nat} :
    Disordered (ofItems check n vs) ↔ ∃ v ∈ vs, Disordered (check v) := by
  induction vs generalizing n with
  | nil =>
      simp only [ofItems, List.not_mem_nil, false_and, exists_false, iff_false]
      exact not_disordered_nil
  | cons v vs ih =>
      -- An item is told apart from all later ones by its number, so no comparison across items fails.
      have happart : ∀ w ∈ (check v).map (inside (.item n)), ∀ w' ∈ ofItems check (n + 1) vs,
          Ordered w w' := by
        intro w hw w' hw'
        rcases List.mem_map.mp hw with ⟨w, -, rfl⟩
        rcases exists_item_of_mem_ofItems hw' with ⟨m, hm, w', rfl⟩
        exact ordered_inside (compareTurns?_item (by omega)) (compareTurns?_item (by omega)) w w'
      have hsame : compareTurns? (.item n) (.item n) = some .eq := by
        rw [compareTurns?, compare_eq_iff_eq.mpr rfl]
      rw [ofItems, disordered_append_iff happart, disordered_map_inside_iff rfl hsame, ih,
        List.exists_mem_cons_iff]

theorem disordered_list_iff {filled : Bool} {item : Schema} {v : Value} :
    Disordered (violations (.list filled item) v) ↔
      ∃ items, v = .list items ∧ ∃ part ∈ items, Disordered (violations item part) := by
  cases v
  case list items =>
    simp only [violations, disordered_root_append_iff place_of_mem_misfitIf, disordered_ofItems_iff,
      Value.list.injEq, exists_eq_left']
  all_goals simp [violations, not_disordered_singleton]

/-! ## Records -/

theorem exists_name_of_mem_fieldViolations {fields : List (String × Schema)}
    {entries : List (Value × Value)} {w : Violation} (h : w ∈ fieldViolations fields entries) :
    ∃ name ∈ fields.map Prod.fst, ∃ v : Violation, w = v.inside (.key (.text name)) := by
  induction fields with
  | nil => exact absurd h List.not_mem_nil
  | cons field rest ih =>
      rw [fieldViolations, List.mem_append] at h
      rcases h with hhere | hrest
      · refine ⟨field.1, List.mem_cons_self, ?_⟩
        split at hhere
        · rcases List.mem_map.mp hhere with ⟨w, -, rfl⟩
          exact ⟨w, rfl⟩
        · exact absurd hhere List.not_mem_nil
      · rcases ih hrest with ⟨name, hname, hw⟩
        exact ⟨name, List.mem_cons_of_mem _ hname, hw⟩

/-- The violations under names are disordered under one of them. -/
theorem disordered_fieldViolations_iff {fields : List (String × Schema)} {entries : List (Value × Value)}
    (hnames : (fields.map Prod.fst).Nodup) : Disordered (fieldViolations fields entries) ↔
      ∃ field ∈ fields, ∃ value, Value.lookupText field.1 entries = some value ∧
        Disordered (violations field.2 value) := by
  induction fields with
  | nil =>
      simp only [fieldViolations, List.not_mem_nil, false_and, exists_false, iff_false]
      exact not_disordered_nil
  | cons field rest ih =>
      rw [List.map_cons, List.nodup_cons] at hnames
      rw [fieldViolations, List.exists_mem_cons_iff, ← ih hnames.2]
      rcases hvalue : Value.lookupText field.1 entries with _ | value
      · simp only [List.nil_append, reduceCtorEq, false_and, exists_false, false_or]
      · -- Two names are always told apart, so no comparison across fields fails.
        have happart : ∀ w ∈ (violations field.2 value).map (inside (.key (.text field.1))),
            ∀ w' ∈ fieldViolations rest entries, Ordered w w' := by
          intro w hw w' hw'
          rcases List.mem_map.mp hw with ⟨w, -, rfl⟩
          rcases exists_name_of_mem_fieldViolations hw' with ⟨name, hname, w', rfl⟩
          have hne : field.1 ≠ name := fun heq => hnames.1 (heq ▸ hname)
          exact ordered_inside (compareTurns?_name hne) (compareTurns?_name hne.symm) w w'
        have hsame : compareTurns? (.key (.text field.1)) (.key (.text field.1)) = some .eq := by
          rw [compareTurns?, Value.compareKeys?_text, compare_eq_iff_eq.mpr rfl]
        simp only [disordered_append_iff happart, disordered_map_inside_iff rfl hsame, Option.some.injEq,
          exists_eq_left']

theorem disordered_record_iff {closed : Bool} {required : List String} {fields : List (String × Schema)}
    (hnames : (fields.map Prod.fst).Nodup) {v : Value} :
    Disordered (violations (.record closed required fields) v) ↔
      ∃ field ∈ fields, ∃ value, v.field? field.1 = some value ∧
        Disordered (violations field.2 value) := by
  cases v
  case map entries =>
    rw [violations, disordered_root_append_iff, disordered_fieldViolations_iff hnames]
    · rfl
    · intro w hw
      rcases List.mem_append.mp hw with hmissing | hextra
      · rcases List.mem_map.mp hmissing with ⟨name, -, rfl⟩
        rfl
      · exact place_of_mem_misfitIf w hextra
  all_goals simp [violations, Value.field?, not_disordered_singleton]

/-! ## Tables -/

/-- A table of texts that is wrong under two keys that have no order. -/
def MixedTable (v : Value) : Prop :=
  ∃ entries, v = .map entries ∧ ∃ e ∈ entries, ∃ e' ∈ entries,
    (∀ s, e.2 ≠ .text s) ∧ (∀ s, e'.2 ≠ .text s) ∧ e.1.compareKeys? e'.1 = none

theorem violations_text_of_ne {v : Value} (h : ∀ s, v ≠ .text s) :
    violations (.text false) v = [⟨[], .kind v "string"⟩] := by
  cases v
  case text s => exact absurd rfl (h s)
  all_goals rfl

/-- The violations of the entries of a table of texts. -/
theorem mem_entryViolations_iff {entries : List (Value × Value)} {w : Violation} :
    (w ∈ entries.flatMap fun (key, value) =>
        (violations (.text false) value).map (inside (.key key))) ↔
      ∃ e ∈ entries, (∀ s, e.2 ≠ .text s) ∧ w = ⟨[.key e.1], .kind e.2 "string"⟩ := by
  rw [List.mem_flatMap]
  refine exists_congr fun e => and_congr_right fun _ => ?_
  by_cases h : ∃ s, e.2 = .text s
  · rcases h with ⟨s, hs⟩
    simp [hs, violations, misfitIf]
  · rw [not_exists] at h
    simp only [violations_text_of_ne h, List.map_cons, List.map_nil, List.mem_singleton, h, inside,
      ne_eq, not_false_eq_true, implies_true, true_and]

theorem isUnordered_key {key : Value} (h : ∀ s, key ≠ .text s) :
    [Turn.key key].any isUnordered = true := by
  cases key
  case text s => exact absurd rfl (h s)
  all_goals rfl

theorem comparePlaces?_keys (a b : Value) : comparePlaces? [.key a] [.key b] = a.compareKeys? b := by
  rw [comparePlaces?, compareTurns?]
  split
  · rename_i heq
    rw [heq, comparePlaces?]
  · rfl

/-- The violations of a table of texts are disordered under two of its keys. -/
theorem disordered_table_iff {filled : Bool} {v : Value} :
    Disordered (violations (.table filled (.text false)) v) ↔ MixedTable v := by
  cases v
  case map entries =>
    simp only [violations, disordered_root_append_iff place_of_mem_misfitIf, MixedTable,
      Value.map.injEq, exists_eq_left']
    constructor
    · rintro ⟨w, hw, -, w', hw', hnone⟩
      rcases mem_entryViolations_iff.mp hw with ⟨e, he, htext, rfl⟩
      rcases mem_entryViolations_iff.mp hw' with ⟨e', he', htext', rfl⟩
      rw [comparePlaces?_keys] at hnone
      exact ⟨e, he, e', he', htext, htext', hnone⟩
    · rintro ⟨e, he, e', he', htext, htext', hnone⟩
      have hw := mem_entryViolations_iff.mpr ⟨e, he, htext, rfl⟩
      have hw' := mem_entryViolations_iff.mpr ⟨e', he', htext', rfl⟩
      -- Of two keys without an order one is no text, and the report looks at that one first.
      by_cases hkey : ∃ s, e.1 = .text s
      · rcases hkey with ⟨s, hs⟩
        have hkey' : ∀ t, e'.1 ≠ .text t := by
          intro t ht
          rw [hs, ht, Value.compareKeys?_text] at hnone
          cases hnone
        refine ⟨_, hw', isUnordered_key hkey', _, hw, ?_⟩
        rw [comparePlaces?_keys, hs]
        exact (Value.compareKeys?_text_eq_none hkey' s).2
      · rw [not_exists] at hkey
        refine ⟨_, hw, isUnordered_key hkey, _, hw', ?_⟩
        rw [comparePlaces?_keys]
        exact hnone
  all_goals simp [violations, MixedTable, not_disordered_singleton]

/-! ## Reports -/

/-- A report breaks off where violations have no order. -/
theorem report_eq_error_iff {schema : Schema} {v : Value} {f : Fault} :
    schema.report v = .error f ↔ Disordered (violations schema v) ∧ f = .incomparablePlaces := by
  rw [report, ← haveIncomparable_eq_true_iff]
  by_cases h : haveIncomparable (violations schema v) = true
  · simp only [h, if_true, Except.error.injEq, true_and, eq_comm]
  · simp only [h, Bool.false_eq_true, if_false, reduceCtorEq, false_and]

end Schema

namespace Script

/-- The shape of a template. -/
def templateSchema : Schema :=
  .record true ["name", "description", "steps"]
    [("name", .text true), ("description", .text true), ("steps", .list true (.text true)),
      ("examples", .list true (.table true (.text false)))]

theorem schema_eq : schema = .record true ["scenarios"]
    [("name", .text false), ("description", .text false), ("scenarios", .list true templateSchema)] :=
  rfl

/-- A script with an example that is wrong under two keys that have no order. -/
def HasMixedExample (v : Value) : Prop :=
  ∃ template ∈ itemsIn v "scenarios", ∃ row ∈ itemsIn template "examples", Schema.MixedTable row

theorem exists_list_field_iff {v : Value} {name : String} {p : Value → Prop} :
    (∃ value, v.field? name = some value ∧ ∃ items, value = .list items ∧ ∃ item ∈ items, p item) ↔
      ∃ item ∈ itemsIn v name, p item := by
  rw [itemsIn]
  rcases v.field? name with _ | value
  · simp
  · cases value <;> simp

theorem disordered_template_iff {v : Value} : Violation.Disordered (templateSchema.violations v) ↔
    ∃ row ∈ itemsIn v "examples", Schema.MixedTable row := by
  rw [templateSchema, Schema.disordered_record_iff (by decide)]
  simp only [List.exists_mem_cons_iff, List.not_mem_nil, false_and, exists_false, or_false,
    Schema.not_disordered_text, and_false, false_or, Schema.disordered_list_iff,
    Schema.disordered_table_iff, exists_list_field_iff]

/-- A script breaks its report off with an example. -/
theorem report_eq_error_iff {v : Value} {f : Fault} :
    schema.report v = .error f ↔ HasMixedExample v ∧ f = .incomparablePlaces := by
  rw [Schema.report_eq_error_iff, schema_eq, Schema.disordered_record_iff (by decide)]
  simp only [List.exists_mem_cons_iff, List.not_mem_nil, false_and, exists_false, or_false,
    Schema.not_disordered_text, and_false, false_or, Schema.disordered_list_iff,
    exists_list_field_iff, disordered_template_iff, HasMixedExample]

end Script

end Assay
