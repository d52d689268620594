import Assay.Proofs.List
import Assay.Proofs.Markup

/-!
# Comments

A comment tells every failed requirement on a line of its own, behind a mark, and the hints on it on
the lines below, each behind a dash. A reader who goes by the marks takes the failed requirements
from the comment again, as long as no other line begins with one.

The dash keeps a hint from being taken for a requirement, but it is written once for a hint and not
once for a line. A hint is what a finding says, a finding quotes what the contributor wrote, and
escaping leaves line breaks and the mark as they are; so what stands behind a line break in a name of
a file comes to stand at the beginning of a line of the comment. A comment can be trusted exactly
where no hint has a mark on a line after its first.

## Main definitions

* `markedItems`: What a text tells behind the marks on its lines.
* `spilledItems`: What a hint tells behind marks in a comment.
* `RunRecord.failedDescriptions`: The descriptions of the scenarios with a failed step.

## Theorems

* `markedItems_renderComment`: The marks of a comment.
* `description_failures`: The failed requirements of a record, in order.
* `mem_hints_failures_iff`: The hints of the failed requirements are those of the scenarios.
* `spilledItems_escapeMarkup`: Escaping leaves the marks of a text where they are.
* `marks_of_failure`: The marks in the comment of a review that has failed.
-/

namespace Assay

open Text

/-! ## Marks -/

/-- The mark of a failed requirement. -/
def failMark : String := "- [FAIL] "

/-- What stands behind the mark of a line. -/
def markedItem? (line : String) : Option String :=
  (dropFront? failMark.toList line.toList).map String.ofList

/-- What a text tells behind the marks on its lines. -/
def markedItems (text : String) : List String :=
  (splitAt '\n' text).filterMap markedItem?

/-- What a hint tells behind marks in a comment, where its first line stands behind a dash. -/
def spilledItems (hint : String) : List String :=
  (splitAt '\n' hint).tail.filterMap markedItem?

theorem markedItem?_append (item : String) : markedItem? (failMark ++ item) = some item := by
  rw [markedItem?, String.toList_append, dropFront?_eq_some_iff.mpr rfl, Option.map_some,
    String.ofList_toList]

/-- A line with a mark has a bracket in it. -/
theorem markedItem?_eq_none {line : String} (h : '[' ∉ line.toList) : markedItem? line = none := by
  rw [markedItem?, Option.map_eq_none_iff]
  by_contra hne
  rcases Option.ne_none_iff_exists'.mp hne with ⟨after, hafter⟩
  rw [dropFront?_eq_some_iff] at hafter
  rw [hafter] at h
  exact h (List.mem_append_left _ (by decide))

theorem markedItems_of_line {line : String} (h : '\n' ∉ line.toList) :
    markedItems line = (markedItem? line).toList := by
  rw [markedItems, splitAt, splitChars_of_not_mem h, List.map_singleton, String.ofList_toList,
    List.filterMap_cons, List.filterMap_nil]
  rcases markedItem? line with _ | item
  · rfl
  · rfl

theorem markedItems_empty : markedItems "" = [] :=
  rfl

theorem markedItems_break (s t : String) :
    markedItems (s ++ "\n" ++ t) = markedItems s ++ markedItems t := by
  have htexts : (s ++ "\n" ++ t).toList = s.toList ++ '\n' :: t.toList := by
    rw [String.toList_append, String.toList_append, List.append_assoc]
    rfl
  simp only [markedItems, splitAt, htexts, splitChars_append_cons, List.map_append,
    List.filterMap_append]

/-- The marks of lines put together are those of the lines. -/
theorem markedItems_intercalate : ∀ lines : List String,
    markedItems (String.intercalate "\n" lines) = lines.flatMap markedItems
  | [] => rfl
  | [line] => by rw [String.intercalate_singleton, List.flatMap_singleton]
  | line :: next :: rest => by
      rw [String.intercalate_cons_cons, markedItems_break, markedItems_intercalate (next :: rest),
        ← List.flatMap_cons]

/-- A text behind a dash shows marks on the lines after its first. -/
theorem markedItems_dash (hint : String) : markedItems ("  - " ++ hint) = spilledItems hint := by
  have hdash : '\n' ∉ "  - ".toList := by decide
  have hsplit := splitChars_append hdash hint.toList
  rw [markedItems, splitAt, String.toList_append, hsplit, List.map_cons, List.filterMap_cons_none,
    spilledItems, splitAt, List.map_tail]
  rw [markedItem?, String.toList_ofList]
  rfl

/-! ## Rendering -/

theorem RequirementSummary.markedItems_lines {s : RequirementSummary}
    (h : '\n' ∉ s.description.toList) :
    s.lines.flatMap markedItems = s.description :: s.hints.flatMap spilledItems := by
  have hmark : '\n' ∉ (failMark ++ s.description).toList := by
    rw [String.toList_append, List.mem_append, not_or]
    exact ⟨by decide, h⟩
  rw [lines, List.flatMap_cons, List.flatMap_map]
  simp only [markedItems_dash]
  change markedItems (failMark ++ s.description) ++ _ = _
  rw [markedItems_of_line hmark, markedItem?_append]
  rfl

theorem markedItems_docsTrailer : markedItems (" " ++ docsTrailer) = [] := by
  have hline : '\n' ∉ (" " ++ docsTrailer).toList := by
    unfold docsTrailer
    simp only [String.toList_append, List.mem_append, not_or]
    and_intros
    all_goals exact notMem_toList_ofList (by decide)
  have hmark : markedItem? (" " ++ docsTrailer) = none := by
    rw [markedItem?, String.toList_append]
    rfl
  rw [markedItems_of_line hline, hmark]
  rfl

/-- The marks of a comment: each failed requirement has one, before those that its hints spill. -/
theorem markedItems_renderComment {total : Nat} {failed : List RequirementSummary}
    (hne : failed ≠ []) (h : ∀ s ∈ failed, '\n' ∉ s.description.toList) :
    markedItems (renderComment total failed) =
      failed.flatMap fun s => s.description :: s.hints.flatMap spilledItems := by
  -- The first line counts requirements, and numbers and fixed words make no mark.
  have hfirst : markedItems (toString ((total : Int) - failed.length) ++ " of " ++ toString total ++
      " requirements have passed. Please review the following:") = [] := by
    have hnot : ∀ c, c.isDigit = false → c ≠ '-' →
        c ∉ " of ".toList → c ∉ " requirements have passed. Please review the following:".toList →
        c ∉ (toString ((total : Int) - failed.length) ++ " of " ++ toString total ++
          " requirements have passed. Please review the following:").toList := by
      intro c hdigit hminus hof hrest
      simp only [String.toList_append, List.mem_append, not_or]
      exact ⟨⟨⟨notMem_intToString hdigit hminus _, hof⟩, notMem_natRepr hdigit total⟩, hrest⟩
    rw [markedItems_of_line (hnot '\n' rfl (by decide) (by decide) (by decide)),
      markedItem?_eq_none (hnot '[' rfl (by decide) (by decide) (by decide))]
    rfl
  have hlines : failed.flatMap (fun s => s.lines.flatMap markedItems) =
      failed.flatMap fun s => s.description :: s.hints.flatMap spilledItems :=
    List.flatMap_congr fun s hs => RequirementSummary.markedItems_lines (h s hs)
  rw [renderComment, if_neg (by rwa [List.isEmpty_iff])]
  rw [← String.append_empty (s := _ ++ "\n"), markedItems_break, markedItems_intercalate, markedItems_empty,
    List.append_nil, List.cons_append, List.flatMap_cons, hfirst, List.nil_append, List.flatMap_append,
    List.flatMap_assoc, hlines]
  simp only [List.flatMap_cons, List.flatMap_nil, markedItems_empty, markedItems_docsTrailer,
    List.append_nil]

/-! Each failed requirement has a mark of its own, and as many more as its hints spill. -/

theorem sublist_marks (failed : List RequirementSummary) :
    (failed.map RequirementSummary.description).Sublist
      (failed.flatMap fun s => s.description :: s.hints.flatMap spilledItems) := by
  induction failed with
  | nil => exact .slnil
  | cons s rest ih =>
      rw [List.map_cons, List.flatMap_cons, List.cons_append]
      exact (ih.trans (List.sublist_append_right _ _)).cons_cons _

theorem length_marks_eq_iff (failed : List RequirementSummary) :
    (failed.flatMap fun s => s.description :: s.hints.flatMap spilledItems).length = failed.length ↔
      ∀ s ∈ failed, ∀ hint ∈ s.hints, spilledItems hint = [] := by
  induction failed with
  | nil => simp
  | cons s rest ih =>
      have hle := (sublist_marks rest).length_le
      rw [List.length_map] at hle
      rw [List.forall_mem_cons, ← ih, ← List.flatMap_eq_nil_iff, ← List.length_eq_zero_iff,
        List.flatMap_cons, List.length_append, List.length_cons, List.length_cons]
      omega

/-- The comment of a verdict of failure has the marks of the failed requirements. -/
theorem Verdict.markedItems_of_failure {b : Brief} {labels : List String} {r : RunRecord} {v : Verdict}
    (h : ofRun b labels r = .ok v) (hv : v.state = .failure)
    (hlines : ∀ s ∈ r.failures, '\n' ∉ s.description.toList) :
    markedItems v.comment =
      r.failures.flatMap fun s => s.description :: s.hints.flatMap spilledItems := by
  rcases ofRun_eq_ok_iff.mp h with ⟨-, rfl⟩ | ⟨-, rfl⟩
  · cases hv
  · have hne : r.failures ≠ [] := by
      intro hnil
      rw [ofRecord_state_eq_success_iff.mpr hnil] at hv
      cases hv
    rw [ofRecord, if_neg (by rwa [List.isEmpty_iff])]
    exact markedItems_renderComment hne hlines

/-! ## Escaping -/

theorem newline_mem_escapeMarkupChar {c : Char} (h : c ≠ '\n') : '\n' ∉ escapeMarkupChar c := by
  rcases escapeMarkupChar_cases c with ⟨-, hc⟩ | ⟨-, hc⟩ | ⟨-, hc⟩ | ⟨-, hc⟩
  · rw [hc]
    decide
  · rw [hc]
    decide
  · rw [hc]
    decide
  · rw [hc, List.mem_singleton]
    exact Ne.symm h

/-- The lines of an escaped text are the escaped lines of the text. -/
theorem splitChars_escapeMarkup (cs : List Char) :
    splitChars '\n' (cs.flatMap escapeMarkupChar) =
      (splitChars '\n' cs).map fun line => line.flatMap escapeMarkupChar := by
  induction cs with
  | nil => rfl
  | cons c cs ih =>
      rw [List.flatMap_cons]
      by_cases h : c = '\n'
      · rw [h, splitChars, if_pos rfl, List.map_cons, ← ih]
        rfl
      · have hline : '\n' ∉ [c] := List.not_mem_cons_of_ne_of_not_mem (Ne.symm h) List.not_mem_nil
        have hsplit := splitChars_append hline cs
        rw [List.singleton_append] at hsplit
        rw [splitChars_append (newline_mem_escapeMarkupChar h), ih, hsplit, List.map_cons,
          List.singleton_append, List.flatMap_cons, List.map_tail]
        -- The line that goes on is the first of the rest, if there is any.
        rcases splitChars '\n' cs with _ | ⟨line, lines⟩
        · rfl
        · rfl

/-- Escaping neither makes nor breaks a front of characters that it leaves alone. -/
theorem dropFront?_escapeMarkup {front : List Char}
    (h : '&' ∉ front ∧ '<' ∉ front ∧ '>' ∉ front) (line : List Char) :
    dropFront? front (line.flatMap escapeMarkupChar) =
      (dropFront? front line).map fun after => after.flatMap escapeMarkupChar := by
  induction front generalizing line with
  | nil => rfl
  | cons p ps ih =>
      simp only [List.mem_cons, not_or] at h
      rcases h with ⟨⟨hamp, hamps⟩, ⟨hopen, hopens⟩, hclose, hcloses⟩
      cases line with
      | nil => rfl
      | cons c cs =>
          rw [List.flatMap_cons]
          -- An escaped character does not begin with one of the front, before it is escaped or after.
          rcases escapeMarkupChar_cases c with ⟨rfl, hc⟩ | ⟨rfl, hc⟩ | ⟨rfl, hc⟩ | ⟨-, hc⟩
          · rw [hc, List.cons_append, dropFront?, dropFront?, if_neg (Ne.symm hamp), if_neg (Ne.symm hamp), Option.map_none]
          · rw [hc, List.cons_append, dropFront?, dropFront?, if_neg (Ne.symm hamp), if_neg (Ne.symm hopen), Option.map_none]
          · rw [hc, List.cons_append, dropFront?, dropFront?, if_neg (Ne.symm hamp), if_neg (Ne.symm hclose), Option.map_none]
          · rw [hc, List.singleton_append, dropFront?, dropFront?]
            by_cases hpc : p = c
            · rw [if_pos hpc, if_pos hpc, ih ⟨hamps, hopens, hcloses⟩]
            · rw [if_neg hpc, if_neg hpc, Option.map_none]

/-- Escaping leaves the marks of a text where they are. -/
theorem spilledItems_escapeMarkup (text : String) :
    spilledItems (escapeMarkup text) = (spilledItems text).map escapeMarkup := by
  have hmark : '&' ∉ failMark.toList ∧ '<' ∉ failMark.toList ∧ '>' ∉ failMark.toList :=
    ⟨by decide, by decide, by decide⟩
  have hitem : ∀ line : List Char, markedItem? (String.ofList (line.flatMap escapeMarkupChar)) =
      (markedItem? (String.ofList line)).map escapeMarkup := by
    intro line
    rw [markedItem?, markedItem?, String.toList_ofList, String.toList_ofList,
      dropFront?_escapeMarkup hmark, Option.map_map, Option.map_map]
    refine congrArg (Option.map · _) (funext fun after => ?_)
    rw [Function.comp_apply, Function.comp_apply, escapeMarkup, String.toList_ofList]
  rw [spilledItems, spilledItems, splitAt, splitAt, escapeMarkup, String.toList_ofList,
    splitChars_escapeMarkup, ← List.map_tail, ← List.map_tail, ← List.map_tail, List.map_map,
    List.filterMap_map, List.filterMap_map, List.map_filterMap]
  exact List.filterMap_congr fun line _ => hitem line

/-! ## Records -/

/-- The descriptions of the scenarios with a failed step, each once. -/
def RunRecord.failedDescriptions (r : RunRecord) : List String :=
  ((r.scenarios.filter fun s => s.failedStep?.isSome).map ScenarioResult.description).eraseDups

theorem addOnce_of_mem {item : String} {items : List String} (h : item ∈ items) :
    addOnce item items = items := by
  rw [addOnce, if_pos (List.contains_iff_mem.mpr h)]

theorem addOnce_of_not_mem {item : String} {items : List String} (h : item ∉ items) :
    addOnce item items = items ++ [item] := by
  rw [addOnce, if_neg fun hmem => h (List.contains_iff_mem.mp hmem)]

theorem foldl_addOnce_replicate {item : String} {seen : List String} (h : item ∈ seen) (n : Nat) :
    (List.replicate n item).foldl (fun seen item => addOnce item seen) seen = seen := by
  induction n with
  | zero => rfl
  | succ n ih => rw [List.replicate_succ, List.foldl_cons, addOnce_of_mem h, ih]

theorem foldl_addOnce (items seen : List String) :
    items.foldl (fun seen item => addOnce item seen) seen =
      seen ++ (items.filter fun item => decide (item ∉ seen)).eraseDups := by
  induction items generalizing seen with
  | nil => rw [List.foldl_nil, List.filter_nil, List.eraseDups_nil, List.append_nil]
  | cons item rest ih =>
      rw [List.foldl_cons]
      by_cases h : item ∈ seen
      · rw [addOnce_of_mem h, ih, List.filter_cons_of_neg (by simpa using h)]
      · rw [addOnce_of_not_mem h, ih, eraseDups_filter_cons h, List.append_assoc, List.singleton_append]

theorem description_addHint (description hint : String) (failed : List RequirementSummary) :
    (addHint description hint failed).map RequirementSummary.description =
      addOnce description (failed.map RequirementSummary.description) := by
  induction failed with
  | nil => rfl
  | cons s rest ih =>
      rw [addHint]
      by_cases h : s.description = description
      · rw [if_pos h, List.map_cons, List.map_cons, h, addOnce_of_mem List.mem_cons_self]
      · rw [if_neg h, List.map_cons, ih, List.map_cons]
        by_cases hmem : description ∈ rest.map RequirementSummary.description
        · rw [addOnce_of_mem hmem, addOnce_of_mem (List.mem_cons_of_mem _ hmem)]
        · rw [addOnce_of_not_mem hmem, List.cons_append.symm,
            addOnce_of_not_mem (List.not_mem_cons_of_ne_of_not_mem (Ne.symm h) hmem)]

/-- Hints are added one by one, and each of them adds its requirement. -/
theorem description_foldl_addHint (hints : List (String × String)) (failed : List RequirementSummary) :
    (hints.foldl (fun failed e => addHint e.1 e.2 failed) failed).map
        RequirementSummary.description =
      (hints.map Prod.fst).foldl (fun seen item => addOnce item seen)
        (failed.map RequirementSummary.description) := by
  induction hints generalizing failed with
  | nil => rfl
  | cons e rest ih => rw [List.foldl_cons, ih, description_addHint, List.map_cons, List.foldl_cons]

/-- A scenario adds its requirement once for each of its hints, which comes to once or never. -/
theorem foldl_addOnce_hints (scenarios : List ScenarioResult) (seen : List String) :
    ((scenarios.flatMap fun s => s.hints.map fun hint => (s.requirement, hint)).map
        Prod.fst).foldl (fun seen item => addOnce item seen) seen =
      ((scenarios.filter fun s => !s.hints.isEmpty).map ScenarioResult.requirement).foldl
        (fun seen item => addOnce item seen) seen := by
  induction scenarios generalizing seen with
  | nil => rfl
  | cons s rest ih =>
      have hmap : (s.hints.map fun hint => (s.requirement, hint)).map Prod.fst =
          List.replicate s.hints.length s.requirement := by
        rw [List.map_map, ← List.map_const']
        rfl
      rw [List.flatMap_cons, List.map_append, List.foldl_append, ih, hmap]
      rcases hhints : s.hints with _ | ⟨hint, hints⟩
      · rw [List.filter_cons_of_neg (by simp [hhints])]
        rfl
      · -- The first hint adds the requirement, and the others find it there.
        rw [List.filter_cons_of_pos (by simp [hhints]), List.map_cons, List.foldl_cons,
          List.length_cons, List.replicate_succ, List.foldl_cons,
          foldl_addOnce_replicate (mem_addOnce_iff.mpr (Or.inl rfl))]

/-- The failed requirements of a record are those of the scenarios with hints, each once and in
    their order. -/
theorem description_failures (r : RunRecord) :
    r.failures.map RequirementSummary.description =
      ((r.scenarios.filter fun s => !s.hints.isEmpty).map ScenarioResult.requirement).eraseDups := by
  rw [RunRecord.failures, description_foldl_addHint, foldl_addOnce_hints, List.map_nil, foldl_addOnce,
    List.nil_append]
  refine congrArg List.eraseDups (List.filter_eq_self.mpr fun item _ => ?_)
  exact decide_eq_true List.not_mem_nil

theorem mem_hints_addHint_iff {x description hint : String} {failed : List RequirementSummary} :
    (∃ s ∈ addHint description hint failed, x ∈ s.hints) ↔
      x = hint ∨ ∃ s ∈ failed, x ∈ s.hints := by
  induction failed with
  | nil => simp [addHint]
  | cons s rest ih =>
      rw [addHint, List.exists_mem_cons_iff]
      by_cases h : s.description = description
      · rw [if_pos h, List.exists_mem_cons_iff, mem_addOnce_iff, or_assoc]
      · rw [if_neg h, List.exists_mem_cons_iff, ih, or_left_comm]

/-- The hints of the failed requirements are those of the scenarios. -/
theorem mem_hints_failures_iff {r : RunRecord} {x : String} :
    (∃ s ∈ r.failures, x ∈ s.hints) ↔ ∃ s ∈ r.scenarios, x ∈ s.hints := by
  have hfold : ∀ (hints : List (String × String)) (failed : List RequirementSummary),
      (∃ s ∈ hints.foldl (fun failed e => addHint e.1 e.2 failed) failed, x ∈ s.hints) ↔
        (∃ e ∈ hints, x = e.2) ∨ ∃ s ∈ failed, x ∈ s.hints := by
    intro hints
    induction hints with
    | nil => simp
    | cons e rest ih =>
        intro failed
        rw [List.foldl_cons, ih, mem_hints_addHint_iff, List.exists_mem_cons_iff, or_left_comm, or_assoc]
  rw [RunRecord.failures, hfold]
  simp

/-- What holds of the hints of a record holds of those of its failed requirements. -/
theorem forall_hints_failures_iff {r : RunRecord} {p : String → Prop} :
    (∀ s ∈ r.failures, ∀ hint ∈ s.hints, p hint) ↔ ∀ s ∈ r.scenarios, ∀ hint ∈ s.hints, p hint := by
  constructor
  · intro h s hs hint hhint
    rcases mem_hints_failures_iff.mpr ⟨s, hs, hhint⟩ with ⟨t, ht, hmem⟩
    exact h t ht hint hmem
  · intro h s hs hint hhint
    rcases mem_hints_failures_iff.mp ⟨s, hs, hhint⟩ with ⟨t, ht, hmem⟩
    exact h t ht hint hmem

/-- A scenario of a record has hints where it has a failed step. -/
theorem ScenarioResult.isSome_failedStep? (s : ScenarioResult) :
    s.failedStep?.isSome = !s.hints.isEmpty := by
  rw [Bool.eq_iff_iff, failedStep?, List.find?_isSome, Bool.not_eq_true', List.isEmpty_eq_false_iff,
    ne_eq, hints_eq_nil_iff]
  simp

/-- A text of one line without blanks around it. -/
structure IsLine (text : String) : Prop where
  stripped : strip text = text
  unbroken : '\n' ∉ text.toList

theorem IsLine.ofList {cs : List Char} (hstrip : stripChars cs = cs) (hbreak : '\n' ∉ cs) :
    IsLine (String.ofList cs) where
  stripped := by rwa [strip_eq_self_iff, String.toList_ofList]
  unbroken := notMem_toList_ofList hbreak

section Record

variable {record : RunRecord} {total : Nat}

/-- The failed requirements of a record are the descriptions of its scenarios with a failed step. -/
theorem description_failures_eq (h : ∀ s ∈ record.scenarios, IsLine s.description) :
    record.failures.map RequirementSummary.description = record.failedDescriptions := by
  rw [description_failures, RunRecord.failedDescriptions]
  simp only [ScenarioResult.isSome_failedStep?]
  refine congrArg List.eraseDups (List.map_congr_left fun s hs => ?_)
  exact (h s (List.mem_filter.mp hs).1).stripped

theorem description_unbroken (h : ∀ s ∈ record.scenarios, IsLine s.description) :
    ∀ s ∈ record.failures, '\n' ∉ s.description.toList := by
  intro s hs
  have hmem := List.mem_map_of_mem (f := RequirementSummary.description) hs
  rw [description_failures_eq h, RunRecord.failedDescriptions, List.mem_eraseDups,
    List.mem_map] at hmem
  rcases hmem with ⟨scenario, hscenario, heq⟩
  rw [← heq]
  exact (h scenario (List.mem_filter.mp hscenario).1).unbroken

end Record

/-! ## Reviews -/

/-- The descriptions of the packaged scenarios are of one line, without blanks around them. -/
theorem Packaged.description_isLine : ∀ s ∈ compiled, IsLine s.description := by
  simp only [compiled, submissionScenarios, productScenarios, evidenceScenarios,
    List.forall_mem_append, List.forall_mem_map, List.forall_mem_cons, List.not_mem_nil,
    false_implies, implies_true, and_true]
  and_intros
  all_goals first
    | exact .ofList (by decide) (by decide)
    | exact fun _ _ => .ofList (by decide) (by decide)
    | exact String.ofList_append ▸ .ofList (by decide) (by decide)

/-- The marks in the comment of a review that has failed. The descriptions of the scenarios with a
    failed step are among them, each once and in order; what else has a mark stands behind a line break
    in the wording of some finding; and there is nothing else exactly where no hint of the record has a
    mark on a line after its first. -/
theorem marks_of_failure {d : Disk} {settings : Settings} {s : Submission} {r : Review}
    (hrules : settings.rules = .packaged) (h : Review.ofSubmission d settings s = .ok r)
    (hv : r.verdict.state = .failure) :
    List.Sublist r.record.failedDescriptions (markedItems r.verdict.comment) ∧
    (∀ item ∈ markedItems r.verdict.comment, item ∈ r.record.failedDescriptions ∨
      ∃ result f, Raised r.brief Packaged.compiled result f ∧
        ∃ text ∈ spilledItems f.message, item = escapeMarkup text) ∧
    (((markedItems r.verdict.comment).length = r.record.failedDescriptions.length ∧
        ∀ item ∈ markedItems r.verdict.comment, item ∈ r.record.failedDescriptions) ↔
      ∀ scenario ∈ r.record.scenarios, ∀ hint ∈ scenario.hints, spilledItems hint = []) := by
  rcases Review.exists_hold_of_packaged hrules h with ⟨latest, -, hhold⟩
  rcases Review.hold_eq_ok_iff.mp hhold with ⟨record, notes, verdict, hrun, hverdict, rfl⟩
  have hlines : ∀ scenario ∈ record.scenarios, IsLine scenario.description := by
    intro result hresult
    rcases exists_run_of_mem_results (runAll_eq_ok_iff.mp hrun) hresult with
      ⟨scenario, hs, _, _, hscenario⟩
    rcases Scenario.run_eq_ok_iff.mp hscenario with ⟨_, -, rfl⟩
    exact Packaged.description_isLine scenario hs
  have hnames := description_failures_eq hlines
  have hmarks := Verdict.markedItems_of_failure hverdict hv (description_unbroken hlines)
  change List.Sublist record.failedDescriptions (markedItems verdict.comment) ∧ _
  rw [hmarks, ← hnames]
  refine ⟨sublist_marks _, ?_, ?_⟩
  · intro item hitem
    rcases List.mem_flatMap.mp hitem with ⟨summary, hsummary, hitem⟩
    rcases List.mem_cons.mp hitem with rfl | hspilled
    · exact Or.inl (List.mem_map_of_mem hsummary)
    · rcases List.mem_flatMap.mp hspilled with ⟨hint, hhint, hspilled⟩
      rcases mem_hints_failures_iff.mp ⟨summary, hsummary, hhint⟩ with ⟨scenario, hs, hhint⟩
      rcases List.mem_map.mp hhint with ⟨step, hstep, rfl⟩
      rw [List.mem_filter, decide_eq_true_eq] at hstep
      rcases raised_of_runAll hrun hs hstep.1 hstep.2 with ⟨f, hf⟩
      rw [hf.message, Option.getD_some, spilledItems_escapeMarkup] at hspilled
      rcases List.mem_map.mp hspilled with ⟨text, htext, rfl⟩
      exact Or.inr ⟨step, f, hf, text, htext, rfl⟩
  · rw [List.length_map, length_marks_eq_iff, ← forall_hints_failures_iff]
    refine ⟨And.left, fun hnone => ⟨hnone, fun item hitem => ?_⟩⟩
    -- With as many marks as failed requirements there are no others among them.
    have heq := (sublist_marks record.failures).eq_of_length
      (by rw [List.length_map, (length_marks_eq_iff _).mpr hnone])
    rwa [← heq] at hitem

/-- A description of a product whose address is of two lines, the second with a mark. -/
def Submission.forging : Submission :=
  { Submission.blank with
    files := [⟨"v1.29/p/PRODUCT.yaml", "website_url: \"a\\n- [FAIL] b\"\n", none⟩] }

theorem forging_run : ((runAll (Review.briefOf ⟨[]⟩ (Settings.given "v1.30") "v1.30" .forging) .start
    Packaged.compiled).toOption.map fun result => result.1.scenarios[21]?.map ScenarioResult.hints) =
    some (some ["URL for field 'website_url' in PRODUCT.yaml is not a valid URL, a\n" ++
      "- [FAIL] b"]) := by
  decide +kernel

/-- A release before the latest one is never waited for. -/
theorem forging_isUnpublished : (Verdict.isUnpublished (Review.briefOf ⟨[]⟩ (Settings.given "v1.30") "v1.30"
    .forging)).toOption = some false := by
  decide +kernel

/-- The review of such a description comes to a failure, with the message of the step in its record. -/
theorem forging_recorded : ∃ r,
    Review.hold ⟨[]⟩ (Settings.given "v1.30") Packaged.compiled "v1.30" .forging = .ok r ∧
      r.verdict.state = .failure ∧ r.record.scenarios[21]?.map ScenarioResult.hints =
        some ["URL for field 'website_url' in PRODUCT.yaml is not a valid URL, a\n" ++ "- [FAIL] b"] := by
  rcases exists_of_map_toOption forging_run with ⟨⟨record, notes⟩, hrun, hhints⟩
  rcases Review.hold_of_run hrun forging_isUnpublished with ⟨r, hhold, rfl, hverdict⟩
  refine ⟨r, hhold, ?_, hhints⟩
  have hfailed : r.record.failures ≠ [] := by
    intro hnone
    rcases Option.map_eq_some_iff.mp hhints with ⟨scenario, hscenario, hhints⟩
    rw [ScenarioResult.hints_eq_nil_iff.mpr
      (failures_eq_nil_iff.mp hnone scenario (List.mem_of_getElem? hscenario))] at hhints
    cases hhints
  rw [hverdict]
  simp [Verdict.ofRecord, hfailed]

/-- The comment on such a description cannot be trusted, though every failed requirement has its
    mark in it. -/
theorem marks_of_failure_of_forging : ∃ r,
    Review.ofSubmission ⟨[]⟩ (Settings.given "v1.30") .forging = .ok r ∧
      r.verdict.state = .failure ∧
        List.Sublist r.record.failedDescriptions (markedItems r.verdict.comment) ∧
          ¬ ((markedItems r.verdict.comment).length = r.record.failedDescriptions.length ∧
            ∀ item ∈ markedItems r.verdict.comment, item ∈ r.record.failedDescriptions) := by
  rcases forging_recorded with ⟨r, hhold, hstate, hhints⟩
  have h : Review.ofSubmission ⟨[]⟩ (Settings.given "v1.30") .forging = .ok r := by
    rw [Review.ofSubmission_eq_hold (Settings.load_of_packaged rfl) (Settings.given_latest _)]
    exact hhold
  rcases marks_of_failure rfl h hstate with ⟨hmarks, -, hexact⟩
  refine ⟨r, h, hstate, hmarks, fun htrusted => ?_⟩
  rcases Option.map_eq_some_iff.mp hhints with ⟨scenario, hscenario, hhints⟩
  have hspilled := hexact.mp htrusted scenario (List.mem_of_getElem? hscenario) _
    (by rw [hhints]; exact List.mem_cons_self)
  exact absurd hspilled (by decide +kernel)

end Assay
