import Assay.Proofs.Comment
import Assay.Proofs.Managed

/-!
# Summaries of records

A record is summed up by the descriptions of its scenarios. Scenarios that share a description are one
requirement wherever they stand in the record, and blanks around a description do not tell it from another.
The summary is built as the record is read: each failed step either adds its hint to a requirement that has
failed already or begins a new one.

What comes out does not depend on how the failures of different requirements are mixed. Adding a hint is an
operation on one entry of a list that is kept in order of the first failure, so the whole is a grouping: the
entries are the requirements with a failed step, and the hints of an entry are those of its own scenarios in
the order of the record. Passed and failed requirements then make up all of them, which is why the number of
passed ones can be found by a subtraction that never goes below zero.

## Main definitions

* `ScenarioResult.HasFailed`, `RunRecord.Fails`: The scenarios and the requirements with a failed step.
* `RunRecord.hintsOf`: What the failed steps under a description said.
* `RunRecord.passedCount`: How many requirements have no failed step.
* `RunRecord.Summed`, `Verdict.Tallies`: What the summary of a record, and the verdict on it, come to.

## Theorems

* `foldl_addHint_eq`: Adding hints one by one groups them.
* `failures_eq`: The failed requirements of a record with their hints.
* `passedCount_add_failures`: Passed and failed requirements make up all.
* `verdict_tallies`: The summary and the verdict of a record whose release is not waited for.
-/

namespace Assay

open Text

/-! ## Hints in groups -/

theorem foldl_addOnce_nil (items : List String) :
    items.foldl (fun seen item => addOnce item seen) [] = items.eraseDups := by
  rw [foldl_addOnce, List.nil_append]
  refine congrArg List.eraseDups (List.filter_eq_self.mpr fun item _ => ?_)
  exact decide_eq_true List.not_mem_nil

theorem eraseDups_append_singleton (items : List String) (item : String) :
    (items ++ [item]).eraseDups = addOnce item items.eraseDups := by
  rw [← foldl_addOnce_nil, ← foldl_addOnce_nil, List.foldl_append, List.foldl_cons, List.foldl_nil]

theorem addOnce_cons_of_ne {item first : String} {rest : List String} (h : first ≠ item) :
    addOnce item (first :: rest) = first :: addOnce item rest := by
  by_cases hmem : item ∈ rest
  · rw [addOnce_of_mem hmem, addOnce_of_mem (List.mem_cons_of_mem _ hmem)]
  · rw [addOnce_of_not_mem hmem, addOnce_of_not_mem (List.not_mem_cons_of_ne_of_not_mem h.symm hmem),
      List.cons_append]

/-- A hint is added to the entry that it is for, or to a new one at the end. -/
theorem addHint_map {hints : String → List String} {description : String} {names : List String}
    (hnodup : names.Nodup) (hnew : description ∉ names → hints description = []) (hint : String) :
    addHint description hint (names.map fun name => ⟨name, hints name⟩) =
      (addOnce description names).map fun name =>
        ⟨name, if name = description then addOnce hint (hints name) else hints name⟩ := by
  induction names with
  | nil =>
      rw [List.map_nil, addHint, addOnce_of_not_mem List.not_mem_nil, List.nil_append, List.map_singleton,
        if_pos rfl, hnew List.not_mem_nil, addOnce_of_not_mem List.not_mem_nil, List.nil_append]
  | cons name rest ih =>
      rw [List.nodup_cons] at hnodup
      rw [List.map_cons, addHint]
      by_cases h : name = description
      · rw [if_pos h, ← h, addOnce_of_mem List.mem_cons_self, List.map_cons, if_pos rfl]
        -- The name does not come again, so the other entries are left alone.
        refine congrArg _ (List.map_congr_left fun other hother => ?_)
        rw [if_neg]
        rintro rfl
        exact hnodup.1 hother
      · rw [if_neg h, addOnce_cons_of_ne h, List.map_cons, if_neg h, ih hnodup.2]
        exact fun hnot => hnew (List.not_mem_cons_of_ne_of_not_mem (Ne.symm h) hnot)

/-- Adding hints one by one groups them: each requirement has an entry where it first comes, with its hints
    in order and without repetitions. -/
theorem foldl_addHint_eq (entries : List (String × String)) :
    entries.foldl (fun failed e => addHint e.1 e.2 failed) [] =
      (entries.map Prod.fst).eraseDups.map fun name =>
        ⟨name, ((entries.filter fun e => e.1 = name).map Prod.snd).eraseDups⟩ := by
  -- From the end, where the hint is added last.
  induction entries using List.reverseRecOn with
  | nil => rfl
  | append_singleton entries e ih =>
      rw [List.foldl_append, List.foldl_cons, List.foldl_nil, ih, addHint_map (nodup_eraseDups _),
        List.map_append, List.map_singleton, eraseDups_append_singleton]
      · refine List.map_congr_left fun name _ => congrArg _ ?_
        rw [List.filter_append, List.map_append]
        by_cases h : name = e.1
        · rw [if_pos h, List.filter_cons_of_pos (by simpa using h.symm), List.filter_nil,
            List.map_singleton, eraseDups_append_singleton]
        · rw [if_neg h, List.filter_cons_of_neg (by simpa using Ne.symm h), List.filter_nil, List.map_nil,
            List.append_nil]
      · -- A requirement that has no entry yet has no hint either.
        intro hnot
        rw [List.mem_eraseDups] at hnot
        have hnone : (entries.filter fun other => other.1 = e.1) = [] := by
          rw [List.filter_eq_nil_iff]
          intro other hother heq
          exact hnot (of_decide_eq_true heq ▸ List.mem_map_of_mem hother)
        rw [hnone, List.map_nil, List.eraseDups_nil]

/-! ## Records -/

/-- A scenario has a failed step. -/
def ScenarioResult.HasFailed (s : ScenarioResult) : Prop :=
  ∃ step ∈ s.steps, step.status = .failed

instance (s : ScenarioResult) : Decidable s.HasFailed :=
  inferInstanceAs (Decidable (∃ step ∈ s.steps, step.status = .failed))

theorem ScenarioResult.hasFailed_iff {s : ScenarioResult} : s.HasFailed ↔ s.hints ≠ [] := by
  rw [ne_eq, hints_eq_nil_iff, HasFailed]
  push Not
  rfl

namespace RunRecord

/-- A scenario with a description has a failed step. -/
def Fails (r : RunRecord) (description : String) : Prop :=
  ∃ s ∈ r.scenarios, s.requirement = description ∧ s.HasFailed

instance (r : RunRecord) (description : String) : Decidable (r.Fails description) :=
  inferInstanceAs (Decidable (∃ s ∈ r.scenarios, s.requirement = description ∧ s.HasFailed))

/-- What the failed steps under a description said, in the order of the record. -/
def hintsOf (r : RunRecord) (description : String) : List String :=
  (r.scenarios.filter fun s => s.requirement = description).flatMap ScenarioResult.hints

/-- How many requirements have no failed step. -/
def passedCount (r : RunRecord) : Nat :=
  r.descriptions.countP fun description => ¬ r.Fails description

variable {r : RunRecord}

/-- The requirements of a record are the descriptions of its scenarios. -/
theorem descriptions_eq (r : RunRecord) :
    r.descriptions = (r.scenarios.map ScenarioResult.requirement).eraseDups := by
  rw [descriptions, ← foldl_addOnce_nil, List.foldl_map]

/-- The failed requirements of a record are those of the scenarios with a failed step. -/
theorem description_failures_of_hasFailed (r : RunRecord) :
    r.failures.map RequirementSummary.description =
      ((r.scenarios.filter fun s => s.HasFailed).map ScenarioResult.requirement).eraseDups := by
  rw [description_failures]
  refine congrArg (fun kept => (List.map _ kept).eraseDups) (List.filter_congr fun s _ => ?_)
  rw [Bool.eq_iff_iff, decide_eq_true_eq, ScenarioResult.hasFailed_iff, Bool.not_eq_true',
    List.isEmpty_eq_false_iff]

/-- The hints that scenarios give under a description are those of the scenarios that have it. -/
theorem hints_filter_flatMap (scenarios : List ScenarioResult) (description : String) :
    ((scenarios.flatMap fun s => s.hints.map fun hint => (s.requirement, hint)).filter
        fun e => e.1 = description).map Prod.snd =
      (scenarios.filter fun s => s.requirement = description).flatMap ScenarioResult.hints := by
  induction scenarios with
  | nil => rfl
  | cons s rest ih =>
      rw [List.flatMap_cons, List.filter_append, List.map_append, ih, List.filter_map, List.map_map]
      by_cases h : s.requirement = description
      · rw [List.filter_cons_of_pos (by simpa using h), List.flatMap_cons, List.filter_eq_self.mpr]
        · exact congrArg (· ++ _) (List.map_id _)
        · exact fun _ _ => decide_eq_true h
      · rw [List.filter_cons_of_neg (by simpa using h), List.filter_eq_nil_iff.mpr]
        · rfl
        · exact fun _ _ heq => h (of_decide_eq_true heq)

/-- The failed requirements of a record, each with what its failed steps said. -/
theorem failures_eq (r : RunRecord) :
    r.failures = (r.failures.map RequirementSummary.description).map fun description =>
      ⟨description, (r.hintsOf description).eraseDups⟩ := by
  have hgroups := foldl_addHint_eq
    (r.scenarios.flatMap fun s => s.hints.map fun hint => (s.requirement, hint))
  simp only [hints_filter_flatMap] at hgroups
  rw [failures, hgroups, List.map_map, List.map_map]
  rfl

theorem mem_descriptions_iff {description : String} :
    description ∈ r.descriptions ↔ ∃ s ∈ r.scenarios, s.requirement = description := by
  rw [descriptions_eq, List.mem_eraseDups, List.mem_map]

theorem mem_description_failures_iff {description : String} :
    description ∈ r.failures.map RequirementSummary.description ↔ r.Fails description := by
  rw [description_failures_of_hasFailed, List.mem_eraseDups, List.mem_map, Fails]
  refine exists_congr fun s => ?_
  rw [List.mem_filter, decide_eq_true_eq, and_assoc, and_comm (a := s.HasFailed)]

/-- Passed and failed requirements make up all of them. -/
theorem passedCount_add_failures (r : RunRecord) :
    r.passedCount + r.failures.length = r.descriptions.length := by
  -- The failed requirements are the descriptions that fail, in some order.
  have hsame : (r.failures.map RequirementSummary.description).Perm
      (r.descriptions.filter fun description => r.Fails description) := by
    rw [List.perm_ext_iff_of_nodup]
    · intro description
      rw [mem_description_failures_iff, List.mem_filter, decide_eq_true_eq, mem_descriptions_iff]
      exact ⟨fun h => ⟨h.imp fun s hs => ⟨hs.1, hs.2.1⟩, h⟩, And.right⟩
    · rw [description_failures]
      exact nodup_eraseDups _
    · rw [descriptions_eq]
      exact (nodup_eraseDups _).filter _
  have hfailed : r.failures.length = r.descriptions.countP fun description => r.Fails description := by
    rw [List.countP_eq_length_filter, ← hsame.length_eq, List.length_map]
  have hcount := List.length_eq_countP_add_countP (fun description => decide (r.Fails description))
    (l := r.descriptions)
  rw [hcount, hfailed, Nat.add_comm, passedCount]
  simp only [decide_not, Bool.not_eq_true, decide_eq_false_iff_not]

theorem failures_ne_nil_iff : r.failures ≠ [] ↔ ∃ s ∈ r.scenarios, s.HasFailed := by
  rw [ne_eq, failures_eq_nil_iff]
  push Not
  rfl

/-- What the summary of a record comes to. -/
structure Summed (r : RunRecord) : Prop where
  /-- The requirements are the descriptions without blanks around them, each where it first comes. -/
  descriptions : r.descriptions = (r.scenarios.map ScenarioResult.requirement).eraseDups
  /-- The failed ones are those of scenarios with a failed step, each where it first fails. -/
  failed : r.failures.map RequirementSummary.description =
    ((r.scenarios.filter fun s => s.HasFailed).map ScenarioResult.requirement).eraseDups
  /-- The hints on a failed one are what all failed steps under its description said, each once. -/
  hints : ∀ f ∈ r.failures, f.hints = (r.hintsOf f.description).eraseDups
  /-- What has not failed has passed. -/
  counted : r.passedCount + r.failures.length = r.descriptions.length

theorem summed (r : RunRecord) : r.Summed where
  descriptions := descriptions_eq r
  failed := description_failures_of_hasFailed r
  hints f hf := by
    rw [failures_eq, List.map_map] at hf
    rcases List.mem_map.mp hf with ⟨other, -, rfl⟩
    rfl
  counted := passedCount_add_failures r

end RunRecord

/-! ## Comments -/

theorem intercalate_newline_cons {first : String} {rest : List String} (h : rest ≠ []) :
    String.intercalate "\n" (first :: rest) = first ++ "\n" ++ String.intercalate "\n" rest := by
  cases rest with
  | nil => exact absurd rfl h
  | cons next rest => exact String.intercalate_cons_cons

/-- The comment on a record with a failed requirement begins with the numbers of those that have passed and
    of all. -/
theorem renderComment_of_failures {r : RunRecord} (h : r.failures ≠ []) :
    renderComment r.descriptions.length r.failures =
      toString r.passedCount ++ " of " ++ toString r.descriptions.length ++
        " requirements have passed. Please review the following:\n" ++
          String.intercalate "\n" (r.failures.flatMap RequirementSummary.lines ++
            ["", " " ++ docsTrailer]) ++ "\n" := by
  -- No more requirements have failed than there are, so the difference is the number of the others.
  have hnumber : (r.descriptions.length : Int) - r.failures.length = (r.passedCount : Nat) := by
    have hcounted := r.passedCount_add_failures
    omega
  have hempty : r.failures.isEmpty = false := List.isEmpty_eq_false_iff.mpr h
  have hbreak : " requirements have passed. Please review the following:\n" =
      " requirements have passed. Please review the following:" ++ "\n" := rfl
  rw [renderComment, hempty, if_neg Bool.false_ne_true, hnumber]
  dsimp only
  rw [List.cons_append,
    intercalate_newline_cons (List.append_ne_nil_of_right_ne_nil _ (List.cons_ne_nil _ _)), hbreak]
  simp only [String.append_assoc]
  rfl

namespace Verdict

/-- What a verdict on a record comes to: the state, the labels and the comment. -/
structure Tallies (target : String) (labels : List String) (r : RunRecord) (v : Verdict) : Prop where
  /-- The submission has failed exactly where some step has. -/
  state : v.state = if ∃ s ∈ r.scenarios, s.HasFailed then .failure else .success
  /-- The labels of the run come first, then that of the release, then that of the outcome. -/
  labels : v.labels = labels ++ (if target = "" then [] else ["release-" ++ target]) ++ [v.state.label]
  /-- Where no step has failed the comment tells the number of requirements, and all of them have passed. -/
  passed : (¬ ∃ s ∈ r.scenarios, s.HasFailed) → r.passedCount = r.descriptions.length ∧
    v.comment = "All requirements (" ++ toString r.descriptions.length ++
      ") have passed for the submission!\n"
  /-- Where a step has failed it tells how many requirements have passed and lists the others. -/
  failed : (∃ s ∈ r.scenarios, s.HasFailed) → r.passedCount < r.descriptions.length ∧
    v.comment = toString r.passedCount ++ " of " ++ toString r.descriptions.length ++
      " requirements have passed. Please review the following:\n" ++
        String.intercalate "\n" (r.failures.flatMap RequirementSummary.lines ++
          ["", " " ++ docsTrailer]) ++ "\n"

theorem ofRecord_state_eq (target : String) (labels : List String) (r : RunRecord) :
    (ofRecord target labels r).state = if ∃ s ∈ r.scenarios, s.HasFailed then .failure else .success := by
  have hfailures := RunRecord.failures_ne_nil_iff (r := r)
  unfold ofRecord
  by_cases h : r.failures = []
  · rw [if_neg (fun hfailed => hfailures.mpr hfailed h)]
    simp only [h, List.isEmpty_nil, if_true]
  · rw [if_pos (hfailures.mp h)]
    simp only [List.isEmpty_eq_false_iff.mpr h, Bool.false_eq_true, if_false]

theorem comment_ofRecord (target : String) (labels : List String) (r : RunRecord) :
    (ofRecord target labels r).comment = renderComment r.descriptions.length r.failures := by
  unfold ofRecord
  dsimp only
  split
  · rfl
  · rfl

theorem ofRecord_tallies (target : String) (labels : List String) (r : RunRecord) :
    (ofRecord target labels r).Tallies target labels r where
  state := ofRecord_state_eq target labels r
  labels := by
    rw [labels_ofRecord]
    simp only [String.isEmpty_iff]
  passed hnone := by
    have hempty : r.failures = [] := not_ne_iff.mp fun h => hnone (RunRecord.failures_ne_nil_iff.mp h)
    have hcounted := r.passedCount_add_failures
    rw [hempty, List.length_nil, Nat.add_zero] at hcounted
    rw [comment_ofRecord, renderComment, hempty]
    exact ⟨hcounted, rfl⟩
  failed hfailed := by
    have hfailures := RunRecord.failures_ne_nil_iff.mpr hfailed
    have hpositive := List.length_pos_of_ne_nil hfailures
    have hcounted := r.passedCount_add_failures
    rw [comment_ofRecord, renderComment_of_failures hfailures]
    exact ⟨by omega, rfl⟩

end Verdict

/-- Where the release of a review is not waited for, its record is summed up by the descriptions, and the
    verdict tells what the summary comes to. -/
theorem verdict_tallies {b : Brief} {labels : List String} {r : RunRecord}
    (h : Verdict.isUnpublished b = .ok false) :
    r.Summed ∧ ∃ v, Verdict.ofRun b labels r = .ok v ∧ v.Tallies b.target labels r :=
  ⟨r.summed, _, Verdict.ofRun_eq_ok_iff.mpr (Or.inr ⟨h, rfl⟩), Verdict.ofRecord_tallies _ _ _⟩

/-- A record in which the failures of two requirements are mixed. One of them is described a second time with
    blanks around it, and has a failed step without a message. -/
def RunRecord.mixed : RunRecord :=
  ⟨[⟨"a", "first", [⟨"1", .failed, some "x"⟩, ⟨"2", .failed, none⟩]⟩,
    ⟨"b", "second", [⟨"1", .failed, some "y"⟩, ⟨"2", .skipped, none⟩]⟩,
    ⟨"c", " first ", [⟨"1", .failed, some "x"⟩, ⟨"2", .failed, some "z"⟩]⟩,
    ⟨"d", "third", [⟨"1", .notApplicable, none⟩]⟩]⟩

/-- A brief for a release before the latest one. -/
def Brief.ofEarlier : Brief :=
  ⟨.blank, ⟨[]⟩, ⟨0, []⟩, "v1.30", "v1.31", 2⟩

theorem verdict_tallies_of_mixed : Verdict.isUnpublished .ofEarlier = .ok false ∧
    RunRecord.mixed.failures = [⟨"first", ["x", "", "z"]⟩, ⟨"second", ["y"]⟩] ∧
      RunRecord.mixed.passedCount = 1 ∧ RunRecord.mixed.Summed ∧
        ∃ v, Verdict.ofRun .ofEarlier [baseLabel] .mixed = .ok v ∧
          v.Tallies "v1.30" [baseLabel] .mixed := by
  have h : Verdict.isUnpublished .ofEarlier = .ok false := rfl
  exact ⟨h, rfl, rfl, verdict_tallies h⟩

end Assay
