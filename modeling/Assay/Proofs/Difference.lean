import Assay.Proofs.Labels
import Assay.Proofs.List

/-!
# Plans that are exact

A plan is found by comparing two lists of labels, and it says nothing of the labels in which the two agree.
What it does to the submission can be said without the comparison: afterwards the managed labels are those
that are wanted, and the others are the same as before. Many plans do that. The one that is made is the
least of them, since a label that is wanted and not there has to be put on by any plan, and a label that is
there and not wanted has to be taken off.

Whether a label is managed is decided by its text, from a release and names of files that can be anything,
so nothing is assumed here of which labels are. Both lists may hold a label several times. The plan names
it once, where it first comes, and what is taken off is taken off wherever it stands.

## Main definitions

* `LabelPlan.Leads`: A plan makes the managed labels those that are wanted, and leaves the others alone.
* `LabelPlan.Exact`: What the plan is that leads from some labels to others.

## Theorems

* `leads_make`: The plan that is made leads from the labels that are there to those that are wanted.
* `subset_of_leads`: Every plan that does so adds and removes at least as much.
* `label_plan_exact`: The plan that is made is exact.
-/

namespace Assay

namespace LabelPlan

variable {managed : String → Bool} {current wanted : List String}

/-- A plan makes the managed labels of a submission those that are wanted, and leaves the others as they
    are, in their order and as often as they come. -/
structure Leads (managed : String → Bool) (current wanted : List String) (p : LabelPlan) : Prop where
  managed_iff : ∀ label, managed label = true → (label ∈ p.apply current ↔ label ∈ wanted)
  unmanaged : (p.apply current).filter (fun label => !managed label) =
    current.filter fun label => !managed label

/-- The labels of a difference are the managed ones of the one list that the other does not hold. -/
theorem firstsOf_difference (managed : String → Bool) (labels others : List String) :
    FirstsOf (fun label => managed label = true ∧ label ∉ others) labels
      (difference managed labels others) where
  nodup := nodup_eraseDups _
  mem_iff _ := mem_difference_iff
  ordered := (firstsOf_eraseDups _ _).ordered

/-- A plan that names managed labels only leaves the others as they are. -/
theorem filter_apply_unmanaged {p : LabelPlan} (hadd : ∀ label ∈ p.add, managed label = true)
    (hremove : ∀ label ∈ p.remove, managed label = true) :
    (p.apply current).filter (fun label => !managed label) =
      current.filter fun label => !managed label := by
  have hnone : p.add.filter (fun label => !managed label) = [] := by
    rw [List.filter_eq_nil_iff]
    intro label hlabel
    rw [hadd label hlabel]
    exact Bool.false_ne_true
  rw [apply, List.filter_append, hnone, List.append_nil, List.filter_filter]
  refine List.filter_congr fun label _ => ?_
  by_cases hmanaged : managed label = true
  · rw [hmanaged, Bool.not_true, Bool.false_and]
  · -- A label that is not managed is not taken off.
    have hkept : p.remove.contains label = false := by
      rw [List.contains_eq_mem, decide_eq_false_iff_not]
      exact fun hmem => hmanaged (hremove label hmem)
    rw [hkept, Bool.not_false, Bool.and_true]

/-- Every plan that leads from some labels to others adds and removes at least what tells them apart. -/
theorem subset_of_leads {p : LabelPlan} (h : p.Leads managed current wanted) :
    difference managed wanted current ⊆ p.add ∧ difference managed current wanted ⊆ p.remove := by
  constructor
  · intro label hlabel
    rcases mem_difference_iff.mp hlabel with ⟨hwanted, hmanaged, hcurrent⟩
    rcases mem_apply_iff.mp ((h.managed_iff label hmanaged).mpr hwanted) with ⟨hthere, -⟩ | hadd
    · exact absurd hthere hcurrent
    · exact hadd
  · intro label hlabel
    rcases mem_difference_iff.mp hlabel with ⟨hcurrent, hmanaged, hwanted⟩
    by_contra hremove
    exact hwanted ((h.managed_iff label hmanaged).mp (mem_apply_iff.mpr (Or.inl ⟨hcurrent, hremove⟩)))

section Make

variable {release : String} {missingFiles : List String}

theorem leads_make : (make release missingFiles current wanted).Leads
    (isManaged release missingFiles) current wanted where
  managed_iff _ := mem_make_apply_iff
  unmanaged := by
    have hmanaged : ∀ labels others,
        ∀ label ∈ difference (isManaged release missingFiles) labels others,
          isManaged release missingFiles label = true :=
      fun labels others label hlabel => (mem_difference_iff.mp hlabel).2.1
    exact filter_apply_unmanaged (hmanaged _ _) (hmanaged _ _)

/-- What a label is added for keeps it from being removed. -/
theorem disjoint_make : (make release missingFiles current wanted).add.Disjoint
    (make release missingFiles current wanted).remove := by
  intro label hadd hremove
  exact (mem_difference_iff.mp hremove).2.2 (mem_difference_iff.mp hadd).1

end Make

/-- What the plan is that leads from the labels on a submission to those that are wanted, for a review of a
    release that missed some files. -/
structure Exact (release : String) (missingFiles current wanted : List String) (p : LabelPlan) :
    Prop where
  /-- The labels put on are the managed ones that are wanted and not there. -/
  add : FirstsOf (fun label => isManaged release missingFiles label = true ∧ label ∉ current) wanted p.add
  /-- The labels taken off are the managed ones that are there and not wanted. -/
  remove : FirstsOf (fun label => isManaged release missingFiles label = true ∧ label ∉ wanted) current
    p.remove
  /-- No label is both put on and taken off. -/
  disjoint : p.add.Disjoint p.remove
  /-- The managed labels are then those that are wanted, and the others are as they were. -/
  leads : p.Leads (isManaged release missingFiles) current wanted
  /-- No plan that does this is smaller. -/
  least : ∀ q : LabelPlan, q.Leads (isManaged release missingFiles) current wanted →
    p.add ⊆ q.add ∧ p.remove ⊆ q.remove
  /-- The plan that is made next is empty. -/
  settled : make release missingFiles (p.apply current) wanted = ⟨[], []⟩

end LabelPlan

/-- The plan that is made is exact, whatever labels are on the submission and whatever is wanted. -/
theorem label_plan_exact (release : String) (missingFiles current wanted : List String) :
    (LabelPlan.make release missingFiles current wanted).Exact release missingFiles current wanted where
  add := LabelPlan.firstsOf_difference _ _ _
  remove := LabelPlan.firstsOf_difference _ _ _
  disjoint := LabelPlan.disjoint_make
  leads := LabelPlan.leads_make
  least _ := LabelPlan.subset_of_leads
  settled := LabelPlan.make_apply

/-- A label that is made from an empty name of a file is managed, and a label that comes twice is named
    once. -/
example : LabelPlan.make "v1.30" ["", "100%"]
    ["missing-file-", "needs-triage", "missing-file-", "missing-file-100%"]
    ["release-v1.30", "missing-file-100%", "release-v1.30", "release-v1.29"] =
      ⟨["release-v1.30"], ["missing-file-"]⟩ := rfl

end Assay
