import Assay.Proofs.Publication
import Assay.Requirement.Resolution

/-!
# What reconciling finds

A required test is missing after a set has been reconciled with some outcomes unless a test of its
name passed. That takes a set in which nothing is satisfied to begin with, and such are the sets
that the metadata makes: a release can only be resolved to a set in which everything is left to
show.

## Main definitions

* `RequirementSet.Unmet`: Nothing that a set requires is satisfied.

## Theorems

* `entries_reconcile`: Each entry is satisfied where it was or where a test of its name passed.
* `missing_reconcile_eq_nil_iff`: Nothing is missing where every required test passed.
* `resolve_unmet`: A resolved set is unmet.
* `isPublished_of_resolve`: A release that can be resolved is published.
-/

namespace Assay

open Text

namespace RequirementSet

/-! ## Reconciling -/

/-- Each entry is satisfied where it was or where a test of its name passed. -/
theorem entries_reconcile (r : RequirementSet) (outcomes : List Outcome) :
    (r.reconcile outcomes).entries =
      r.entries.map fun e => (e.1, e.2 || outcomes.any fun o => o.passed && e.1 == o.name) := by
  unfold reconcile
  induction outcomes generalizing r with
  | nil =>
      simp only [List.foldl_nil, List.any_nil, Bool.or_false, List.map_id']
  | cons o rest ih =>
      rw [List.foldl_cons, ih]
      -- Marking comes before the rest, and so does the new name in each entry.
      by_cases hp : o.passed = true
      · simp only [hp, if_true, mark, markIn, List.map_map, List.any_cons, Bool.true_and]
        refine List.map_congr_left fun e _ => ?_
        simp only [Function.comp_apply, Bool.or_assoc]
      · simp only [Bool.not_eq_true] at hp
        simp only [hp, Bool.false_eq_true, if_false, List.any_cons, Bool.false_and, Bool.false_or]

theorem missing_eq_nil_iff {r : RequirementSet} :
    r.missing = [] ↔ ∀ e ∈ r.entries, e.2 = true := by
  unfold missing
  rw [← List.length_eq_zero_iff, List.length_mergeSort, List.length_eq_zero_iff,
    List.map_eq_nil_iff, List.filter_eq_nil_iff]
  refine forall₂_congr fun e _ => ?_
  rw [Bool.not_eq_true', Bool.not_eq_false]

/-- Nothing that a set requires is satisfied. -/
def Unmet (r : RequirementSet) : Prop :=
  ∀ e ∈ r.entries, e.2 = false

/-- Nothing is missing from a set that was unmet where every required test passed. -/
theorem missing_reconcile_eq_nil_iff {r : RequirementSet} (hr : r.Unmet) (outcomes : List Outcome) :
    (r.reconcile outcomes).missing = [] ↔
      ∀ name ∈ r.names, ∃ o ∈ outcomes, o.passed = true ∧ o.name = name := by
  rw [missing_eq_nil_iff, entries_reconcile]
  simp only [List.forall_mem_map, names]
  refine forall₂_congr fun e he => ?_
  rw [hr e he, Bool.false_or, List.any_eq_true]
  refine exists_congr fun o => and_congr_right fun _ => ?_
  rw [Bool.and_eq_true, beq_iff_eq]
  exact and_congr_right fun _ => eq_comm

/-! ## Sets with nothing satisfied -/

theorem unmet_empty : empty.Unmet :=
  fun _ he => absurd he List.not_mem_nil

theorem unmet_requireIn {name : String} {entries : List (String × Bool)}
    (h : ∀ e ∈ entries, e.2 = false) : ∀ e ∈ requireIn name entries, e.2 = false := by
  induction entries with
  | nil =>
      intro e he
      rw [List.mem_singleton.mp he]
  | cons e rest ih =>
      intro e' he'
      have hrest : ∀ e ∈ rest, e.2 = false := fun e he => h e (List.mem_cons_of_mem _ he)
      unfold requireIn at he'
      -- A name that is there already is put back as not yet met.
      by_cases hname : e.1 = name
      · rw [if_pos hname] at he'
        rcases List.mem_cons.mp he' with rfl | hmem
        · rfl
        · exact hrest e' hmem
      · rw [if_neg hname] at he'
        rcases List.mem_cons.mp he' with rfl | hmem
        · exact h e List.mem_cons_self
        · exact ih hrest e' hmem

theorem Unmet.require {r : RequirementSet} (h : r.Unmet) (name : String) : (r.require name).Unmet :=
  unmet_requireIn h

end RequirementSet

namespace Requirement

theorem addRecords_unmet {target : Version} {records : List ManifestRecord} :
    ∀ {r r' : RequirementSet}, r.Unmet → addRecords target records r = .ok r' → r'.Unmet := by
  induction records with
  | nil =>
      intro r r' hr h
      rw [← Except.ok.inj h]
      exact hr
  | cons record rest ih =>
      intro r r' hr h
      unfold addRecords at h
      rcases bind_eq_ok_iff.mp h with ⟨included, -, hrest⟩
      -- A record that is not included leaves the requirements as they are.
      by_cases hincluded : included = true
      · rw [if_pos hincluded] at hrest
        exact ih (hr.require record.codename) hrest
      · rw [if_neg hincluded] at hrest
        exact ih hr hrest

theorem resolve_eq_ok_iff {d : Disk} {root : Path} {target : String} {r : RequirementSet} :
    resolve d root target = .ok r ↔ ∃ version records, Version.parse target = .ok version ∧
      Manifest.load d root target = .ok records ∧ ofRecords version records = .ok r := by
  simp only [resolve, bind_eq_ok_iff, reporting_eq_ok_iff]
  constructor
  · rintro ⟨version, hv, records, hr, h⟩
    exact ⟨version, records, hv, hr, h⟩
  · rintro ⟨version, records, hv, hr, h⟩
    exact ⟨version, hv, records, hr, h⟩

/-- A resolved set is unmet. -/
theorem resolve_unmet {d : Disk} {root : Path} {target : String} {r : RequirementSet}
    (h : resolve d root target = .ok r) : r.Unmet := by
  rcases resolve_eq_ok_iff.mp h with ⟨version, records, -, -, hr⟩
  exact addRecords_unmet RequirementSet.unmet_empty hr

end Requirement

/-- A release that can be resolved is published. -/
theorem isPublished_of_resolve {d : Disk} {root : Path} {target : String} {r : RequirementSet}
    (h : Requirement.resolve d root target = .ok r) :
    Manifest.isPublished d root target = .ok true := by
  rcases Requirement.resolve_eq_ok_iff.mp h with ⟨version, records, hv, hl, -⟩
  exact Manifest.isPublished_of_load (Version.strip_ne_empty_of_parse hv) hl

end Assay
