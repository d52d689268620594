import Assay.Proofs.Placement
import Assay.Proofs.Review

/-!
# Markup

A review gives back what the contributor wrote. Names of files, paths, versions and the fields of a
description stand in the findings, the findings become the messages of failed steps, and the
messages become hints in the comment. Two things keep such a text from being taken for markup: every
message is the wording of a finding with three characters escaped, and whatever else a comment is
put together from is fixed, a number, or a release.

Nothing is lost on the way. The escapes are written one for each character, so an ampersand in a
message only ever begins an escape, and a message can be read back to the wording it shows. A
sequence of replacements over the whole text writes the same, as long as the ampersand comes first:
the escapes of the other two characters hold one.

## Main definitions

* `Untagged`: A text in which no tag begins or ends.
* `unescapeMarkup`: A text with its escapes undone.
* `ShownAs`: A text and what markup shows it by.
* `Raised`: What is recorded of a step whose check made a finding.

## Theorems

* `escapeMarkup_shows`: An escaped text shows the text itself.
* `escapeMarkup_eq_replaceAll`: Escaping is three replacements, that of the ampersand first.
* `raised_of_runAll`: A failed step of a record tells the finding of its check.
* `renderComment_untagged`: A comment on untagged requirements is untagged.
* `review_text_escaped`: What a run and a review say of a submission is escaped.
-/

namespace Assay

open Text

/-! ## Texts without tags -/

/-- No tag begins or ends in a text. -/
def Untagged (s : String) : Prop :=
  '<' ∉ s.toList ∧ '>' ∉ s.toList

instance (s : String) : Decidable (Untagged s) :=
  inferInstanceAs (Decidable (_ ∧ _))

theorem untagged_iff {s : String} : Untagged s ↔ ∀ c ∈ s.toList, c ≠ '<' ∧ c ≠ '>' := by
  constructor
  · rintro ⟨hopen, hclose⟩ c hc
    exact ⟨fun h => hopen (h ▸ hc), fun h => hclose (h ▸ hc)⟩
  · intro h
    exact ⟨fun hmem => (h _ hmem).1 rfl, fun hmem => (h _ hmem).2 rfl⟩

theorem untagged_append_iff {s t : String} : Untagged (s ++ t) ↔ Untagged s ∧ Untagged t := by
  simp only [untagged_iff, String.toList_append, List.forall_mem_append]

theorem untagged_strip {s : String} (h : Untagged s) : Untagged (strip s) := by
  rw [untagged_iff] at h
  rw [untagged_iff, strip, String.toList_ofList]
  exact fun c hc => h c (mem_of_mem_stripChars hc)

theorem untagged_intercalate {mark : String} (hmark : Untagged mark) :
    ∀ {texts : List String}, (∀ t ∈ texts, Untagged t) → Untagged (String.intercalate mark texts)
  | [], _ => by
      rw [String.intercalate_nil]
      decide
  | [t], h => by
      rw [String.intercalate_singleton]
      exact h t List.mem_cons_self
  | t :: u :: rest, h => by
      rw [String.intercalate_cons_cons, untagged_append_iff, untagged_append_iff]
      exact ⟨⟨h t List.mem_cons_self, hmark⟩,
        untagged_intercalate hmark fun v hv => h v (List.mem_cons_of_mem _ hv)⟩

theorem notMem_natRepr {c : Char} (h : c.isDigit = false) (n : Nat) : c ∉ n.repr.toList := by
  rw [Nat.toList_repr]
  intro hmem
  rw [Nat.isDigit_of_mem_toDigits (by decide) (by decide) hmem] at h
  cases h

theorem notMem_intToString {c : Char} (hdigit : c.isDigit = false) (hminus : c ≠ '-') :
    ∀ z : Int, c ∉ (toString z).toList
  | .ofNat n => notMem_natRepr hdigit n
  | .negSucc n => by
      change c ∉ ("-" ++ (n + 1).repr).toList
      rw [String.toList_append, List.mem_append, not_or]
      exact ⟨List.not_mem_cons_of_ne_of_not_mem hminus List.not_mem_nil, notMem_natRepr hdigit _⟩

theorem untagged_natRepr (n : Nat) : Untagged n.repr :=
  ⟨notMem_natRepr rfl n, notMem_natRepr rfl n⟩

theorem untagged_intToString (z : Int) : Untagged (toString z) :=
  ⟨notMem_intToString rfl (by decide) z, notMem_intToString rfl (by decide) z⟩

/-- A release is made of digits and two other characters, neither of which makes a tag. -/
theorem untagged_of_isRelease {release : String}
    (h : Packaged.IsRelease Packaged.IsNumeral release.toList) : Untagged release :=
  ⟨h.not_mem (by decide) (by decide) (by decide), h.not_mem (by decide) (by decide) (by decide)⟩

/-! ## Escapes -/

/-- Characters with their escapes undone, from the left and each once. -/
def unescapeMarkupChars : List Char → List Char
  | '&' :: 'a' :: 'm' :: 'p' :: ';' :: cs => '&' :: unescapeMarkupChars cs
  | '&' :: 'l' :: 't' :: ';' :: cs => '<' :: unescapeMarkupChars cs
  | '&' :: 'g' :: 't' :: ';' :: cs => '>' :: unescapeMarkupChars cs
  | c :: cs => c :: unescapeMarkupChars cs
  | [] => []

/-- A text with its escapes undone. -/
def unescapeMarkup (s : String) : String :=
  String.ofList (unescapeMarkupChars s.toList)

/-- What markup shows a text by: no tag begins or ends in it, an ampersand only begins an escape, and
    with the escapes undone it is the text. -/
structure ShownAs (text shown : String) : Prop where
  untagged : Untagged shown
  ampersand : ∀ after, '&' :: after <:+ shown.toList →
    ∃ name ∈ ["amp;", "lt;", "gt;"], name.toList <+: after
  undone : unescapeMarkup shown = text

/-- What a character is escaped to: one of the three escapes, or the character itself. -/
theorem escapeMarkupChar_cases (c : Char) :
    (c = '&' ∧ escapeMarkupChar c = ['&', 'a', 'm', 'p', ';']) ∨
      (c = '<' ∧ escapeMarkupChar c = ['&', 'l', 't', ';']) ∨
        (c = '>' ∧ escapeMarkupChar c = ['&', 'g', 't', ';']) ∨
          ((c ≠ '&' ∧ c ≠ '<' ∧ c ≠ '>') ∧ escapeMarkupChar c = [c]) := by
  by_cases hamp : c = '&'
  · exact Or.inl ⟨hamp, by rw [hamp]; rfl⟩
  · by_cases hopen : c = '<'
    · exact Or.inr (Or.inl ⟨hopen, by rw [hopen]; rfl⟩)
    · by_cases hclose : c = '>'
      · exact Or.inr (Or.inr (Or.inl ⟨hclose, by rw [hclose]; rfl⟩))
      · refine Or.inr (Or.inr (Or.inr ⟨⟨hamp, hopen, hclose⟩, ?_⟩))
        rw [escapeMarkupChar] <;> assumption

theorem unescapeMarkupChars_cons {c : Char} (h : c ≠ '&') (cs : List Char) :
    unescapeMarkupChars (c :: cs) = c :: unescapeMarkupChars cs := by
  rw [unescapeMarkupChars]
  all_goals
    intros
    contradiction

/-- Undoing the escapes gives back what was escaped. -/
theorem unescapeMarkupChars_flatMap (cs : List Char) :
    unescapeMarkupChars (cs.flatMap escapeMarkupChar) = cs := by
  induction cs with
  | nil => rfl
  | cons c rest ih =>
      rw [List.flatMap_cons]
      rcases escapeMarkupChar_cases c with ⟨rfl, h⟩ | ⟨rfl, h⟩ | ⟨rfl, h⟩ | ⟨⟨hamp, -, -⟩, h⟩
      · rw [h]
        exact congrArg ('&' :: ·) ih
      · rw [h]
        exact congrArg ('<' :: ·) ih
      · rw [h]
        exact congrArg ('>' :: ·) ih
      · rw [h, List.singleton_append, unescapeMarkupChars_cons hamp, ih]

/-- No character of an escaped text makes a tag. -/
theorem forall_mem_escapeMarkupChar (c : Char) : ∀ d ∈ escapeMarkupChar c, d ≠ '<' ∧ d ≠ '>' := by
  rcases escapeMarkupChar_cases c with ⟨-, h⟩ | ⟨-, h⟩ | ⟨-, h⟩ | ⟨⟨-, hopen, hclose⟩, h⟩
  · simp [h]
  · simp [h]
  · simp [h]
  · rw [h, List.forall_mem_singleton]
    exact ⟨hopen, hclose⟩

/-- A mark in a text that begins with one is the first, or it stands behind what has none. -/
theorem suffix_of_marked {mark : Char} {name rest after : List Char} (hname : mark ∉ name)
    (h : mark :: after <:+ mark :: (name ++ rest)) :
    after = name ++ rest ∨ mark :: after <:+ rest := by
  rcases List.suffix_cons_iff.mp h with heq | hbehind
  · exact Or.inl (List.cons.inj heq).2
  · refine Or.inr ?_
    clear h
    induction name with
    | nil => exact hbehind
    | cons c name ih =>
        rw [List.mem_cons, not_or] at hname
        rcases List.suffix_cons_iff.mp hbehind with heq | hbehind
        · exact absurd (List.cons.inj heq).1 hname.1
        · exact ih hname.2 hbehind

/-- An ampersand in an escaped text begins an escape. -/
theorem escape_of_suffix {cs after : List Char} (h : '&' :: after <:+ cs.flatMap escapeMarkupChar) :
    ∃ name ∈ ["amp;", "lt;", "gt;"], name.toList <+: after := by
  -- By induction on the text that was escaped: the ampersand stands in what the first character was
  -- escaped to, where only the first place has one, or in what comes after.
  induction cs with
  | nil => simp at h
  | cons c rest ih =>
      rw [List.flatMap_cons] at h
      rcases escapeMarkupChar_cases c with ⟨-, hc⟩ | ⟨-, hc⟩ | ⟨-, hc⟩ | ⟨⟨hamp, -, -⟩, hc⟩
      · rw [hc] at h
        rcases suffix_of_marked (by decide) h with rfl | h
        · exact ⟨"amp;", by decide, List.prefix_append _ _⟩
        · exact ih h
      · rw [hc] at h
        rcases suffix_of_marked (by decide) h with rfl | h
        · exact ⟨"lt;", by decide, List.prefix_append _ _⟩
        · exact ih h
      · rw [hc] at h
        rcases suffix_of_marked (by decide) h with rfl | h
        · exact ⟨"gt;", by decide, List.prefix_append _ _⟩
        · exact ih h
      · rw [hc, List.singleton_append, List.suffix_cons_iff, List.cons.injEq] at h
        rcases h with ⟨heq, -⟩ | h
        · exact absurd heq.symm hamp
        · exact ih h

/-- An escaped text shows the text itself. -/
theorem escapeMarkup_shows (s : String) : ShownAs s (escapeMarkup s) where
  untagged := by
    rw [untagged_iff, escapeMarkup, String.toList_ofList]
    intro d hd
    rcases List.mem_flatMap.mp hd with ⟨c, -, hc⟩
    exact forall_mem_escapeMarkupChar c d hc
  ampersand := by
    intro after h
    rw [escapeMarkup, String.toList_ofList] at h
    exact escape_of_suffix h
  undone := by
    rw [unescapeMarkup, escapeMarkup, String.toList_ofList, unescapeMarkupChars_flatMap,
      String.ofList_toList]

/-- Texts that are shown alike are alike. -/
theorem ShownAs.unique {s t shown : String} (hs : ShownAs s shown) (ht : ShownAs t shown) : s = t :=
  hs.undone.symm.trans ht.undone

theorem replaceFrom_singleton (mark : Char) (replacement cs : List Char) :
    replaceFrom [mark] replacement 0 cs =
      cs.flatMap fun c => if c = mark then replacement else [c] := by
  induction cs with
  | nil => rfl
  | cons c rest ih =>
      rw [List.flatMap_cons, replaceFrom]
      by_cases h : mark = c
      · rw [if_pos h.symm, ← ih]
        simp only [dropFront?, if_pos h, List.length_singleton, Nat.sub_self]
      · rw [if_neg (Ne.symm h), ← ih]
        simp only [dropFront?, if_neg h, List.singleton_append]

/-- Escaping is three replacements, one after another. The ampersand has to come first. -/
theorem escapeMarkup_eq_replaceAll (s : String) :
    escapeMarkup s = replaceAll ">" "&gt;" (replaceAll "<" "&lt;" (replaceAll "&" "&amp;" s)) := by
  simp only [escapeMarkup, replaceAll, String.toList_ofList]
  congr 1
  rw [show "&".toList = ['&'] from rfl, show "<".toList = ['<'] from rfl,
    show ">".toList = ['>'] from rfl, replaceFrom_singleton, replaceFrom_singleton,
    replaceFrom_singleton, List.flatMap_assoc, List.flatMap_assoc]
  refine List.flatMap_congr fun c _ => ?_
  -- What one character becomes: no later replacement finds anything in what an earlier one wrote.
  rcases escapeMarkupChar_cases c with ⟨rfl, h⟩ | ⟨rfl, h⟩ | ⟨rfl, h⟩ | ⟨⟨hamp, hopen, hclose⟩, h⟩
  · rw [h]
    rfl
  · rw [h]
    rfl
  · rw [h]
    rfl
  · rw [h, if_neg hamp, List.flatMap_singleton, if_neg hopen, List.flatMap_singleton, if_neg hclose]

/-! ## Messages of failed steps -/

/-- What is recorded of a step of some scenarios whose check made a finding. -/
def Raised (b : Brief) (scenarios : List Scenario) (result : StepResult) (f : Finding) : Prop :=
  ∃ scenario ∈ scenarios, ∃ step ∈ scenario.steps, ∃ n n',
    step.check.answer b n = .ok (.failed f, n') ∧ result = step.result (.failed f)

section Runs

variable {b : Brief} {n final : Notes}

/-- A failed step of those that were run tells the finding of its check. -/
theorem exists_failed_of_runSteps {steps : List Step} {results : List StepResult}
    (h : runSteps b n steps = .ok (results, final)) {result : StepResult} (hmem : result ∈ results)
    (hfailed : result.status = .failed) :
    ∃ step ∈ steps, ∃ m m' f, step.check.answer b m = .ok (.failed f, m') ∧
      result = step.result (.failed f) := by
  induction steps generalizing n results with
  | nil =>
      rw [runSteps, Except.ok.injEq, Prod.mk.injEq] at h
      rw [← h.1] at hmem
      cases hmem
  | cons s rest ih =>
      rcases runSteps_cons_eq_ok_iff.mp h with ⟨r, m, hrun, hcase⟩
      rcases Step.run_eq_ok_iff.mp hrun with ⟨a, ha, rfl⟩
      -- The step itself, where it is the one that is asked for.
      have hself : (s.result a).status = .failed → ∃ step ∈ s :: rest, ∃ m m' f,
          step.check.answer b m = .ok (.failed f, m') ∧ s.result a = step.result (.failed f) := by
        intro hstatus
        cases a with
        | failed f => exact ⟨s, List.mem_cons_self, n, m, f, ha, rfl⟩
        | passed => cases hstatus
        | notApplicable => cases hstatus
      rcases hcase with ⟨-, below, hbelow, rfl⟩ | ⟨-, rfl, rfl⟩
      · rcases List.mem_cons.mp hmem with rfl | hmem
        · exact hself hfailed
        · rcases ih hbelow hmem with ⟨step, hstep, hraised⟩
          exact ⟨step, List.mem_cons_of_mem _ hstep, hraised⟩
      · rcases List.mem_cons.mp hmem with rfl | hmem
        · exact hself hfailed
        · -- What the run did not come to is recorded as skipped.
          rcases List.mem_map.mp hmem with ⟨skipped, -, rfl⟩
          cases hfailed

/-- Every scenario that a run records is one of its scenarios, as it ran. -/
theorem exists_run_of_mem_results {scenarios : List Scenario} {results : List ScenarioResult}
    (h : runScenarios b n scenarios = .ok (results, final)) {r : ScenarioResult}
    (hr : r ∈ results) : ∃ s ∈ scenarios, ∃ m m', s.run b m = .ok (r, m') :=
  exists_of_mem_right (forall₂_run_of_runScenarios h) hr

/-- A failed step of a record tells the finding of its check. -/
theorem raised_of_runAll {scenarios : List Scenario} {record : RunRecord}
    (h : runAll b n scenarios = .ok (record, final)) {r : ScenarioResult}
    (hr : r ∈ record.scenarios) {result : StepResult} (hmem : result ∈ r.steps)
    (hfailed : result.status = .failed) : ∃ f, Raised b scenarios result f := by
  rcases exists_run_of_mem_results (runAll_eq_ok_iff.mp h) hr with ⟨scenario, hs, m, m', hrun⟩
  rcases Scenario.run_eq_ok_iff.mp hrun with ⟨results, hresults, rfl⟩
  rcases exists_failed_of_runSteps hresults hmem hfailed with ⟨step, hstep, k, k', f, hf, heq⟩
  exact ⟨f, scenario, hs, step, hstep, k, k', hf, heq⟩

/-- The message of a failed step shows the wording of its finding. -/
theorem Raised.message {scenarios : List Scenario} {result : StepResult} {f : Finding}
    (h : Raised b scenarios result f) : result.message = some (escapeMarkup f.message) := by
  rcases h with ⟨_, -, step, -, _, _, -, rfl⟩
  rfl

end Runs

/-! ## Comments -/

/-- No tag begins or ends in what a failed requirement is told by. -/
def RequirementSummary.Untagged (s : RequirementSummary) : Prop :=
  Assay.Untagged s.description ∧ ∀ hint ∈ s.hints, Assay.Untagged hint

theorem mem_addOnce_iff {item x : String} {items : List String} :
    x ∈ addOnce item items ↔ x = item ∨ x ∈ items := by
  unfold addOnce
  split
  · rename_i h
    rw [List.contains_iff_mem] at h
    exact ⟨Or.inr, fun hx => hx.elim (fun heq => heq ▸ h) id⟩
  · rw [List.mem_append, List.mem_singleton, or_comm]

theorem untagged_addHint {description hint : String} {failed : List RequirementSummary}
    (hdescription : Untagged description) (hhint : Untagged hint)
    (hfailed : ∀ s ∈ failed, s.Untagged) : ∀ s ∈ addHint description hint failed, s.Untagged := by
  induction failed with
  | nil =>
      intro s hs
      rw [List.mem_singleton.mp hs]
      exact ⟨hdescription, List.forall_mem_singleton.mpr hhint⟩
  | cons t rest ih =>
      have ht : t.Untagged := hfailed t List.mem_cons_self
      have hrest : ∀ s ∈ rest, s.Untagged := fun s hs => hfailed s (List.mem_cons_of_mem _ hs)
      intro s hs
      unfold addHint at hs
      split at hs
      · rcases List.mem_cons.mp hs with rfl | hs
        · -- The requirement is there already, with one hint more.
          refine ⟨hdescription, fun x hx => ?_⟩
          rcases mem_addOnce_iff.mp hx with rfl | hx
          · exact hhint
          · exact ht.2 x hx
        · exact hrest s hs
      · rcases List.mem_cons.mp hs with rfl | hs
        · exact ht
        · exact ih hrest s hs

/-- The failed requirements of a record are untagged where its requirements and hints are. -/
theorem failures_untagged {record : RunRecord}
    (h : ∀ r ∈ record.scenarios, Untagged r.requirement ∧ ∀ hint ∈ r.hints, Untagged hint) :
    ∀ s ∈ record.failures, s.Untagged := by
  -- The hints are added one by one, and each of them leaves the summaries untagged.
  have hfold : ∀ (hints : List (String × String)) (failed : List RequirementSummary),
      (∀ e ∈ hints, Untagged e.1 ∧ Untagged e.2) → (∀ s ∈ failed, s.Untagged) →
        ∀ s ∈ hints.foldl (fun failed e => addHint e.1 e.2 failed) failed, s.Untagged := by
    intro hints
    induction hints with
    | nil => exact fun failed _ hfailed => hfailed
    | cons e rest ih =>
        intro failed hhints hfailed
        have he := hhints e List.mem_cons_self
        exact ih _ (fun e' he' => hhints e' (List.mem_cons_of_mem _ he'))
          (untagged_addHint he.1 he.2 hfailed)
  refine hfold _ [] ?_ fun s hs => absurd hs List.not_mem_nil
  intro e he
  rcases List.mem_flatMap.mp he with ⟨r, hr, hmem⟩
  rcases List.mem_map.mp hmem with ⟨hint, hhint, rfl⟩
  exact ⟨(h r hr).1, (h r hr).2 hint hhint⟩

theorem RequirementSummary.Untagged.lines {s : RequirementSummary} (h : s.Untagged) :
    ∀ line ∈ s.lines, Assay.Untagged line := by
  intro line hline
  rcases List.mem_cons.mp hline with rfl | hline
  · exact untagged_append_iff.mpr ⟨by decide, h.1⟩
  · rcases List.mem_map.mp hline with ⟨hint, hhint, rfl⟩
    exact untagged_append_iff.mpr ⟨by decide, h.2 hint hhint⟩

theorem untagged_docsTrailer : Untagged docsTrailer := by
  unfold docsTrailer
  simp only [untagged_append_iff]
  and_intros
  all_goals exact notMem_toList_ofList (by decide)

/-- A comment on untagged requirements is untagged. -/
theorem renderComment_untagged {total : Nat} {failed : List RequirementSummary}
    (h : ∀ s ∈ failed, s.Untagged) : Untagged (renderComment total failed) := by
  have htotal : Untagged (toString total) := untagged_natRepr total
  unfold renderComment
  split
  · exact untagged_append_iff.mpr
      ⟨untagged_append_iff.mpr ⟨by decide, htotal⟩, by decide⟩
  · refine untagged_append_iff.mpr ⟨untagged_intercalate (by decide) ?_, by decide⟩
    intro line hline
    rw [List.cons_append, List.mem_cons, List.mem_append] at hline
    -- The line with the numbers, those of the requirements, and the closing ones.
    rcases hline with rfl | hline | hline
    · refine untagged_append_iff.mpr ⟨untagged_append_iff.mpr ⟨untagged_append_iff.mpr ⟨?_, ?_⟩, ?_⟩, ?_⟩
      · exact untagged_intToString _
      · decide
      · exact htotal
      · decide
    · rcases List.mem_flatMap.mp hline with ⟨s, hs, hline⟩
      exact (h s hs).lines line hline
    · rw [List.mem_cons, List.mem_singleton] at hline
      rcases hline with rfl | rfl
      · decide
      · exact untagged_append_iff.mpr ⟨by decide, untagged_docsTrailer⟩

/-- The descriptions of the packaged scenarios are untagged. -/
theorem Packaged.description_untagged : ∀ s ∈ compiled, Untagged s.description := by
  simp only [compiled, submissionScenarios, productScenarios, evidenceScenarios,
    List.forall_mem_append, List.forall_mem_map, List.forall_mem_cons, List.not_mem_nil,
    false_implies, implies_true, and_true, untagged_append_iff]
  -- The scenarios of a family have one description, so what they are filled in with does not matter.
  and_intros
  all_goals first
    | exact notMem_toList_ofList (by decide)
    | exact fun _ _ => ⟨notMem_toList_ofList (by decide), notMem_toList_ofList (by decide)⟩

theorem Verdict.untagged_notPublished {s : Submission} : Untagged (notPublished s.release).comment := by
  have hrelease : Untagged s.release := by
    rcases s.release_eq_empty_or_isRelease with hempty | hform
    · rw [hempty]
      decide
    · exact untagged_of_isRelease hform
  refine untagged_append_iff.mpr ⟨untagged_append_iff.mpr ⟨untagged_append_iff.mpr ⟨?_, hrelease⟩, ?_⟩, ?_⟩
  all_goals decide

/-- The comment of a review is untagged where the requirements of its scenarios are. -/
theorem Review.comment_untagged {d : Disk} {settings : Settings} {scenarios : List Scenario}
    {latest : String} {s : Submission} {r : Review}
    (hscenarios : ∀ scenario ∈ scenarios, Untagged scenario.description)
    (h : hold d settings scenarios latest s = .ok r) : Untagged r.verdict.comment := by
  rcases hold_eq_ok_iff.mp h with ⟨record, notes, verdict, hrun, hverdict, rfl⟩
  rcases Verdict.ofRun_eq_ok_iff.mp hverdict with ⟨-, rfl⟩ | ⟨-, rfl⟩
  · exact Verdict.untagged_notPublished
  · -- Descriptions come from the rules as they are; hints are findings, and those are escaped.
    have hfailures : ∀ summary ∈ record.failures, summary.Untagged := by
      refine failures_untagged fun result hresult => ⟨?_, fun hint hhint => ?_⟩
      · rcases exists_run_of_mem_results (runAll_eq_ok_iff.mp hrun) hresult with
          ⟨scenario, hs, _, _, hscenario⟩
        rcases Scenario.run_eq_ok_iff.mp hscenario with ⟨_, -, rfl⟩
        exact untagged_strip (hscenarios scenario hs)
      · rcases List.mem_map.mp hhint with ⟨step, hstep, rfl⟩
        rw [List.mem_filter, decide_eq_true_eq] at hstep
        rcases raised_of_runAll hrun hresult hstep.1 hstep.2 with ⟨f, hf⟩
        rw [hf.message]
        exact (escapeMarkup_shows f.message).untagged
    unfold Verdict.ofRecord
    simp only
    split
    · exact renderComment_untagged hfailures
    · exact renderComment_untagged hfailures

/-! ## Reviews -/

/-- What a run and a review say of a submission is escaped. The message of a failed step shows the
    wording of the finding that its check made, so findings of different wordings have different
    messages, and in the comment of a review under the packaged rules no tag begins or ends, whatever
    its verdict is. -/
theorem review_text_escaped :
    (∀ (b : Brief) (scenarios : List Scenario) (n final : Notes) (record : RunRecord),
      runAll b n scenarios = .ok (record, final) → ∀ r ∈ record.scenarios, ∀ result ∈ r.steps,
        result.status = .failed → ∃ f message, Raised b scenarios result f ∧
          result.message = some message ∧ ShownAs f.message message) ∧
    (∀ f g : Finding, (Answer.failed f).message? = (Answer.failed g).message? →
      f.message = g.message) ∧
    (∀ (d : Disk) (settings : Settings) (s : Submission) (r : Review),
      settings.rules = .packaged → Review.ofSubmission d settings s = .ok r →
        Untagged r.verdict.comment) := by
  refine ⟨?_, ?_, ?_⟩
  · intro b scenarios n final record h r hr result hresult hfailed
    rcases raised_of_runAll h hr hresult hfailed with ⟨f, hf⟩
    exact ⟨f, escapeMarkup f.message, hf, hf.message, escapeMarkup_shows f.message⟩
  · intro f g h
    have hshown : escapeMarkup f.message = escapeMarkup g.message := Option.some.inj h
    have hf : ShownAs f.message (escapeMarkup g.message) := hshown ▸ escapeMarkup_shows f.message
    exact hf.unique (escapeMarkup_shows g.message)
  · intro d settings s r hrules h
    rcases Review.exists_hold_of_packaged hrules h with ⟨latest, -, hhold⟩
    exact Review.comment_untagged Packaged.description_untagged hhold

/-- A submission of a file in a folder whose name is full of markup, some of it escaped. -/
def Submission.tagged : Submission :=
  { Submission.blank with files := [⟨"<b>&lt;/README.md", "", none⟩] }

/-- What is recorded of the step that asks for the layout of its folders. -/
def StepResult.tagged : StepResult :=
  ⟨"file folder structure matches \"(v[0-9]+\\.[0-9]+)/(.*)\"", .failed,
    some ("file '&lt;b&gt;&amp;lt;/README.md' not allowed. " ++ Finding.folderHint)⟩

theorem tagged_recorded : ((Review.hold ⟨[]⟩ (Settings.given "v1.30") Packaged.compiled "v1.30"
    .tagged).toOption.map fun r => r.record.scenarios.any fun s => s.steps.contains .tagged) =
      some true := by
  decide +kernel

theorem review_text_escaped_of_tagged : ∃ r,
    Review.ofSubmission ⟨[]⟩ (Settings.given "v1.30") .tagged = .ok r ∧ Untagged r.verdict.comment ∧
      ∃ scenario ∈ r.record.scenarios, .tagged ∈ scenario.steps ∧
        ∃ f, Raised r.brief Packaged.compiled .tagged f ∧
          f.message = "file '<b>&lt;/README.md' not allowed. " ++ Finding.folderHint := by
  rcases exists_of_map_toOption tagged_recorded with ⟨r, hhold, hrecorded⟩
  rcases List.any_eq_true.mp hrecorded with ⟨scenario, hs, hstep⟩
  rw [List.contains_iff_mem] at hstep
  have h : Review.ofSubmission ⟨[]⟩ (Settings.given "v1.30") .tagged = .ok r := by
    rw [Review.ofSubmission_eq_hold (Settings.load_of_packaged rfl) (Settings.given_latest _)]
    exact hhold
  rcases review_text_escaped with ⟨hmessages, -, hcomments⟩
  refine ⟨r, h, hcomments _ _ _ _ rfl h, scenario, hs, hstep, ?_⟩
  rcases Review.hold_eq_ok_iff.mp hhold with ⟨record, notes, verdict, hrun, -, rfl⟩
  rcases hmessages _ _ _ _ _ hrun scenario hs _ hstep rfl with ⟨f, message, hf, hmessage, hshown⟩
  rw [← Option.some.inj hmessage] at hshown
  refine ⟨f, hf, hshown.undone.symm.trans ?_⟩
  decide +kernel

end Assay
