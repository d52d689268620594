import Mathlib
import Assay.Proofs.Markup
import Assay.Review.Markdown

/-!
# The table of a review

The page of a review has a row for each scenario, and what stands in a row was partly written by the
contributor. A line break cannot get into a row. A bar can: it is escaped with a backslash, but where the text
already has a backslash before the bar, the two are an escaped backslash and the bar is open again. So a bar is
open in a cell exactly if it was escaped in the text, and a row has as many cells as it should only where no
bar is escaped in what it is made of.

Names of scenarios and texts of steps come from the rules, and those of the packaged rules have no escaped
bar. What is left are the messages of failed steps, which quote file names, paths and fields as they are.

## Main definitions

* `unescapedBars`, `escapedBars`: The bars of a text with an even and with an odd number of backslashes right
  before them.
* `countBars`: The same, read from the front.
* `ScenarioResult.message`: What the failed step of a scenario says.

## Theorems

* `barsAt_eq_countBars`: Bars can be counted from the front.
* `unescapedBars_cell`: The bars that are open in a cell were escaped in its text.
* `unescapedBars_row`: The open bars of a row.
* `splitAt_markdown`: The lines of a page.
* `scenario_table_exact`: The rows of the packaged scenarios.
-/

namespace Assay

open Text

/-! ## Bars -/

/-- How many backslashes characters end in. -/
def trailingBackslashes (cs : List Char) : ℕ :=
  (cs.reverse.takeWhile (· == '\\')).length

/-- The bars of characters with a number of backslashes of one parity right before them. -/
def barsAt (parity : ℕ) (cs : List Char) : ℕ :=
  (List.range cs.length).countP fun i =>
    cs[i]? = some '|' && trailingBackslashes (cs.take i) % 2 = parity

/-- The bars of a text that are not escaped: an even number of backslashes stands right before each. -/
def unescapedBars (s : String) : ℕ :=
  barsAt 0 s.toList

/-- The bars of a text that are escaped: an odd number of backslashes stands right before each. -/
def escapedBars (s : String) : ℕ :=
  barsAt 1 s.toList

/-- The bars of one kind in characters that stand behind `before` backslashes. -/
def countBars (parity : ℕ) : ℕ → List Char → ℕ
  | _, [] => 0
  | before, c :: cs =>
    if c = '\\' then countBars parity (before + 1) cs
    else (if c = '|' ∧ before % 2 = parity then 1 else 0) + countBars parity 0 cs

theorem trailingBackslashes_replicate (n : ℕ) : trailingBackslashes (List.replicate n '\\') = n := by
  simp [trailingBackslashes]

/-- What stands before another character than a backslash does not count. -/
theorem trailingBackslashes_append_cons {c : Char} (hc : c ≠ '\\') (front cs : List Char) :
    trailingBackslashes (front ++ c :: cs) = trailingBackslashes cs := by
  rw [trailingBackslashes, List.reverse_append, List.reverse_cons, List.append_assoc, List.singleton_append,
    List.takeWhile_append, List.takeWhile_cons_of_neg (by simpa using hc), List.append_nil]
  split
  · rename_i hall
    rw [trailingBackslashes, (List.takeWhile_prefix _).eq_of_length hall]
  · rfl

/-- Bars can be counted from the front, by keeping count of the backslashes before each character. -/
theorem barsAt_eq_countBars (parity : ℕ) (cs : List Char) : barsAt parity cs = countBars parity 0 cs := by
  -- The backslashes that were read before are put back in front of the rest.
  have hgeneral : ∀ before, (List.range cs.length).countP (fun i =>
      cs[i]? = some '|' && trailingBackslashes (List.replicate before '\\' ++ cs.take i) % 2 = parity) =
        countBars parity before cs := by
    induction cs with
    | nil => exact fun _ => rfl
    | cons c cs ih =>
        intro before
        rw [List.length_cons, List.range_succ_eq_map, List.countP_cons, List.countP_map]
        simp only [Function.comp_def, List.getElem?_cons_succ, List.take_succ_cons, List.getElem?_cons_zero,
          List.take_zero, List.append_nil, trailingBackslashes_replicate, Option.some.injEq]
        by_cases hc : c = '\\'
        · have hmore : ∀ i, List.replicate before '\\' ++ c :: cs.take i =
              List.replicate (before + 1) '\\' ++ cs.take i := by
            intro i
            rw [hc, List.replicate_succ', List.append_assoc, List.singleton_append]
          simp only [hmore, ih]
          simp [countBars, hc]
        · have hnone : ∀ i, trailingBackslashes (List.replicate before '\\' ++ c :: cs.take i) =
              trailingBackslashes (List.replicate 0 '\\' ++ cs.take i) := by
            intro i
            rw [trailingBackslashes_append_cons hc, List.replicate_zero, List.nil_append]
          simp only [hnone, ih]
          rw [countBars, if_neg hc, Nat.add_comm]
          simp
  exact hgeneral 0

theorem countBars_cons_of_plain {c : Char} (hbackslash : c ≠ '\\') (hbar : c ≠ '|') (parity n : ℕ)
    (cs : List Char) : countBars parity n (c :: cs) = countBars parity 0 cs := by
  rw [countBars, if_neg hbackslash, if_neg fun h => hbar h.1, Nat.zero_add]

/-- A character that is neither a bar nor a backslash keeps the bars around it apart. -/
theorem countBars_append_cons {c : Char} (hbackslash : c ≠ '\\') (hbar : c ≠ '|') (parity n : ℕ)
    (front cs : List Char) :
    countBars parity n (front ++ c :: cs) = countBars parity n front + countBars parity 0 cs := by
  induction front generalizing n with
  | nil => rw [List.nil_append, countBars_cons_of_plain hbackslash hbar, countBars, Nat.zero_add]
  | cons d front ih =>
      rw [List.cons_append, countBars, countBars]
      split
      · exact ih (n + 1)
      · rw [ih 0, Nat.add_assoc]

/-! ## Cells -/

/-- Escaping the bars of a text exchanges the two kinds: a bar that was escaped has another backslash before
    it now and is open, and a bar that was open is escaped. -/
theorem countBars_escaped (n : ℕ) (cs : List Char) :
    countBars 0 n (cs.flatMap fun c => if c = '|' then ['\\', '|'] else [c]) = countBars 1 n cs := by
  induction cs generalizing n with
  | nil => rfl
  | cons c cs ih =>
      rw [List.flatMap_cons]
      by_cases hbar : c = '|'
      · have hparity : (n + 1) % 2 = 0 ↔ n % 2 = 1 := by omega
        simp [hbar, countBars, ih, hparity]
      · rw [if_neg hbar, List.singleton_append, countBars, countBars, ih, ih]
        simp [hbar]

theorem countBars_joined (parity n : ℕ) (cs : List Char) :
    countBars parity n (cs.flatMap fun c => if c = '\n' then [' '] else [c]) = countBars parity n cs := by
  induction cs generalizing n with
  | nil => rfl
  | cons c cs ih =>
      rw [List.flatMap_cons]
      by_cases hbreak : c = '\n'
      · rw [if_pos hbreak, hbreak, List.singleton_append, countBars_cons_of_plain (by decide) (by decide),
          countBars_cons_of_plain (by decide) (by decide), ih]
      · rw [if_neg hbreak, List.singleton_append, countBars, countBars, ih, ih]

theorem plain_of_isBlank {c : Char} (h : isBlank c = true) : c ≠ '\\' ∧ c ≠ '|' := by
  constructor
  · rintro rfl
    exact absurd h (by decide)
  · rintro rfl
    exact absurd h (by decide)

theorem countBars_dropWhile (parity : ℕ) (cs : List Char) :
    countBars parity 0 (cs.dropWhile isBlank) = countBars parity 0 cs := by
  induction cs with
  | nil => rfl
  | cons c cs ih =>
      by_cases hblank : isBlank c = true
      · rw [List.dropWhile_cons_of_pos hblank, ih,
          countBars_cons_of_plain (plain_of_isBlank hblank).1 (plain_of_isBlank hblank).2]
      · rw [List.dropWhile_cons_of_neg hblank]

theorem countBars_blanks {blanks : List Char} (h : ∀ c ∈ blanks, isBlank c = true) (parity n : ℕ) :
    countBars parity n blanks = 0 := by
  induction blanks generalizing n with
  | nil => rfl
  | cons c blanks ih =>
      rw [List.forall_mem_cons] at h
      rw [countBars_cons_of_plain (plain_of_isBlank h.1).1 (plain_of_isBlank h.1).2, ih h.2]

theorem countBars_append_blanks {blanks : List Char} (h : ∀ c ∈ blanks, isBlank c = true) (parity n : ℕ)
    (cs : List Char) : countBars parity n (cs ++ blanks) = countBars parity n cs := by
  induction cs generalizing n with
  | nil => exact countBars_blanks h parity n
  | cons c cs ih => rw [List.cons_append, countBars, countBars, ih, ih]

theorem countBars_stripChars (parity : ℕ) (cs : List Char) :
    countBars parity 0 (stripChars cs) = countBars parity 0 cs := by
  rw [← countBars_dropWhile parity cs, stripChars, stripEndChars]
  generalize cs.dropWhile isBlank = ds
  -- What is taken off the end are blanks.
  have hend : ds = (ds.reverse.dropWhile isBlank).reverse ++ (ds.reverse.takeWhile isBlank).reverse := by
    rw [← List.reverse_append, List.takeWhile_append_dropWhile, List.reverse_reverse]
  have hblanks : ∀ c ∈ (ds.reverse.takeWhile isBlank).reverse, isBlank c = true :=
    fun c hc => List.mem_takeWhile_imp (List.mem_reverse.mp hc)
  conv_rhs => rw [hend]
  rw [countBars_append_blanks hblanks]

theorem toList_cell (s : String) : (cell s).toList = stripChars ((s.toList.flatMap fun c =>
    if c = '|' then ['\\', '|'] else [c]).flatMap fun c => if c = '\n' then [' '] else [c]) := by
  simp only [cell, strip, replaceAll, String.toList_ofList]
  rw [show "|".toList = ['|'] from rfl, show "\n".toList = ['\n'] from rfl, replaceFrom_singleton,
    replaceFrom_singleton]
  rfl

/-- The bars that are open in a cell are those that were escaped in its text. -/
theorem unescapedBars_cell (s : String) : unescapedBars (cell s) = escapedBars s := by
  rw [unescapedBars, escapedBars, barsAt_eq_countBars, barsAt_eq_countBars, toList_cell,
    countBars_stripChars, countBars_joined, countBars_escaped]

/-- A cell is written on one line. -/
theorem break_not_mem_cell (s : String) : '\n' ∉ (cell s).toList := by
  rw [toList_cell]
  intro h
  rcases List.mem_flatMap.mp (mem_of_mem_stripChars h) with ⟨c, -, hc⟩
  split at hc
  · rw [List.mem_singleton] at hc
    exact absurd hc (by decide)
  · rename_i hbreak
    rw [List.mem_singleton] at hc
    exact hbreak hc.symm

/-! ## Rows -/

/-- What the failed step of a scenario says, and nothing where none failed. -/
def ScenarioResult.message (s : ScenarioResult) : String :=
  (s.failedStep?.bind StepResult.message).getD ""

/-- The text of the failed step of a scenario, and nothing where none failed. -/
def ScenarioResult.failedStepText (s : ScenarioResult) : String :=
  (s.failedStep?.map StepResult.text).getD ""

theorem unescapedBars_failedMessage (s : ScenarioResult) :
    unescapedBars s.failedMessage = escapedBars s.message := by
  rcases hstep : s.failedStep? with _ | step
  · rw [ScenarioResult.failedMessage, ScenarioResult.message, hstep]
    rfl
  · rw [ScenarioResult.failedMessage, ScenarioResult.message, hstep]
    exact unescapedBars_cell _

theorem unescapedBars_code (s : String) : unescapedBars (code s) = unescapedBars s := by
  have hcode : (code s).toList = '\x60' :: (s.toList ++ '\x60' :: []) := by
    rw [code, String.toList_append, String.toList_append, List.append_assoc]
    rfl
  rw [unescapedBars, unescapedBars, barsAt_eq_countBars, barsAt_eq_countBars, hcode,
    countBars_cons_of_plain (by decide) (by decide), countBars_append_cons (by decide) (by decide), countBars,
    Nat.add_zero]

theorem unescapedBars_failedText (s : ScenarioResult) :
    unescapedBars s.failedText = escapedBars s.failedStepText := by
  rcases hstep : s.failedStep? with _ | step
  · rw [ScenarioResult.failedText, ScenarioResult.failedStepText, hstep]
    rfl
  · rw [ScenarioResult.failedText, ScenarioResult.failedStepText, hstep]
    exact (unescapedBars_code _).trans (unescapedBars_cell _)

/-- A row has the five bars that divide it into four cells, and those that were escaped in what it is made
    of. -/
theorem unescapedBars_row (s : ScenarioResult) : unescapedBars s.row =
    5 + escapedBars s.name + escapedBars s.failedStepText + escapedBars s.message := by
  have hrow : s.row.toList = '|' :: ' ' :: ((cell s.name).toList ++ ' ' :: '|' :: ' ' ::
      ((code s.outcome.word).toList ++ ' ' :: '|' :: ' ' :: (s.failedText.toList ++ ' ' :: '|' :: ' ' ::
        (s.failedMessage.toList ++ ' ' :: '|' :: [])))) := by
    simp [ScenarioResult.row]
  have hword : unescapedBars (code s.outcome.word) = 0 := by
    rw [unescapedBars_code]
    cases s.outcome <;> decide
  rw [← unescapedBars_cell, ← unescapedBars_failedText, ← unescapedBars_failedMessage]
  simp only [unescapedBars, barsAt_eq_countBars] at hword ⊢
  rw [hrow]
  have hbar : ∀ cs, countBars 0 0 ('|' :: cs) = 1 + countBars 0 0 cs := fun _ => rfl
  have hspace : ∀ cs, countBars 0 0 (' ' :: cs) = countBars 0 0 cs :=
    countBars_cons_of_plain (by decide) (by decide) 0 0
  -- Every part of the row stands between spaces, so no backslash of it reaches a bar outside.
  have happend := countBars_append_cons (c := ' ') (by decide) (by decide) 0 0
  have hend : countBars 0 0 [] = 0 := rfl
  simp only [hbar, hspace, happend, hword, hend]
  omega

/-- A row is written on one line. -/
theorem break_not_mem_row (s : ScenarioResult) : '\n' ∉ s.row.toList := by
  have hword : '\n' ∉ s.outcome.word.toList := by
    cases s.outcome <;> decide
  have htext : '\n' ∉ s.failedText.toList := by
    unfold ScenarioResult.failedText
    cases s.failedStep? with
    | none => decide
    | some step => simp [code, break_not_mem_cell]
  have hmessage : '\n' ∉ s.failedMessage.toList := by
    unfold ScenarioResult.failedMessage
    cases s.failedStep? with
    | none => decide
    | some step => exact break_not_mem_cell _
  simp [ScenarioResult.row, code, break_not_mem_cell, hword, htext, hmessage]

/-! ## Lines -/

/-- Lines that are joined are cut again, each into those that it already was. -/
theorem splitChars_intercalate {mark : Char} {pieces : List (List Char)} (h : pieces ≠ []) :
    splitChars mark ([mark].intercalate pieces) = pieces.flatMap (splitChars mark) := by
  induction pieces with
  | nil => exact absurd rfl h
  | cons piece pieces ih =>
      cases pieces with
      | nil => simp [List.intercalate]
      | cons next pieces =>
          rw [List.intercalate_cons_cons, List.append_assoc, List.singleton_append, splitChars_append_cons,
            ih (List.cons_ne_nil _ _)]
          rfl

theorem intercalate_append {mark : List Char} {front back : List (List Char)} (hfront : front ≠ [])
    (hback : back ≠ []) :
    mark.intercalate (front ++ back) = mark.intercalate front ++ (mark ++ mark.intercalate back) := by
  obtain ⟨first, front, rfl⟩ := List.exists_cons_of_ne_nil hfront
  obtain ⟨next, back, rfl⟩ := List.exists_cons_of_ne_nil hback
  rw [List.cons_append, intercalate_cons_eq, intercalate_cons_eq, intercalate_cons_eq, List.flatMap_append,
    List.flatMap_cons]
  simp only [List.append_assoc]

/-- Blanks are only taken off the end of what ends in blanks. -/
theorem stripEndChars_append {back : List Char} (h : ∃ c ∈ back, isBlank c = false) (front : List Char) :
    stripEndChars (front ++ back) = front ++ stripEndChars back := by
  have hne : (back.reverse.dropWhile isBlank).isEmpty = false := by
    rw [← Bool.not_eq_true, List.isEmpty_iff, List.dropWhile_eq_nil_iff, not_forall]
    rcases h with ⟨c, hc, hblank⟩
    exact ⟨c, fun hall => by rw [hall (List.mem_reverse.mpr hc)] at hblank; cases hblank⟩
  rw [stripEndChars, List.reverse_append, List.dropWhile_append, hne, if_neg Bool.false_ne_true,
    List.reverse_append, List.reverse_reverse, stripEndChars]

theorem splitAt_of_not_mem {mark : Char} {s : String} (h : mark ∉ s.toList) : splitAt mark s = [s] := by
  rw [splitAt, splitChars_of_not_mem h, List.map_singleton, String.ofList_toList]

/-- Where lines are joined and blanks are taken off the end, the lines before one that is not blank stay. -/
theorem splitAt_joined {front back : List String} (hfront : front ≠ [])
    (hback : ∃ line ∈ back, ∃ c ∈ line.toList, isBlank c = false) :
    ∃ rest, splitAt '\n' (stripEnd (String.intercalate "\n" (front ++ back)) ++ "\n") =
      front.flatMap (splitAt '\n') ++ rest := by
  rcases hback with ⟨line, hline, c, hc, hblank⟩
  have hfrontChars : front.map String.toList ≠ [] := mt List.map_eq_nil_iff.mp hfront
  have hbackChars : back.map String.toList ≠ [] := List.ne_nil_of_mem (List.mem_map_of_mem hline)
  have hfilled : ∃ c ∈ ['\n'].intercalate (back.map String.toList), isBlank c = false := by
    have hbreak : c ∉ ['\n'] := by
      intro hmem
      rw [List.mem_singleton.mp hmem] at hblank
      cases hblank
    exact ⟨c, (mem_intercalate_iff hbreak).mpr ⟨_, List.mem_map_of_mem hline, hc⟩, hblank⟩
  -- Only the end of what is joined is trimmed, and the line that is not blank stops that.
  have hchars : (stripEnd (String.intercalate "\n" (front ++ back)) ++ "\n").toList =
      ['\n'].intercalate (front.map String.toList) ++
        '\n' :: (stripEndChars (['\n'].intercalate (back.map String.toList)) ++ ['\n']) := by
    rw [String.toList_append, stripEnd, String.toList_ofList, String.toList_intercalate, List.map_append]
    change stripEndChars (['\n'].intercalate _) ++ ['\n'] = _
    rw [intercalate_append hfrontChars hbackChars, ← List.append_assoc, stripEndChars_append hfilled]
    simp only [List.append_assoc, List.cons_append, List.nil_append]
  refine ⟨(splitChars '\n'
    (stripEndChars (['\n'].intercalate (back.map String.toList)) ++ ['\n'])).map String.ofList, ?_⟩
  rw [splitAt, hchars, splitChars_append_cons, splitChars_intercalate hfrontChars, List.map_append,
    List.flatMap_map, List.map_flatMap]
  rfl

/-- The lines of the table, and the one after it, are written as single lines. -/
theorem splitAt_scenarioLines (r : Review) : (r.scenarioLines ++ ["## Labels"]).flatMap (splitAt '\n') =
    r.scenarioLines ++ ["## Labels"] := by
  have hsingle : ∀ line ∈ r.scenarioLines ++ ["## Labels"], splitAt '\n' line = [line] := by
    intro line hline
    refine splitAt_of_not_mem ?_
    simp only [Review.scenarioLines, List.mem_append, List.mem_cons, List.not_mem_nil, or_false,
      List.mem_map] at hline
    rcases hline with (((rfl | rfl | rfl) | ⟨scenario, -, rfl⟩) | rfl) | rfl
    · decide
    · decide
    · decide
    · exact break_not_mem_row scenario
    · decide
    · decide
  rw [List.flatMap_congr hsingle, List.flatMap_singleton']

/-- The lines of a page: those before the table, a row for each scenario, in order, and the labels. -/
theorem splitAt_markdown (r : Review) : ∃ labels, splitAt '\n' r.markdown =
    ([r.heading, ""] ++ r.summaryLines ++ ["## Comment", strip r.verdict.comment, ""]).flatMap (splitAt '\n') ++
      ("## Scenarios" :: "| Scenario | Outcome | Failing step | Message |" :: "|---|---|---|---|" ::
        (r.record.scenarios.map ScenarioResult.row ++ "" :: "## Labels" :: labels)) := by
  obtain ⟨back, hlabels, hback⟩ : ∃ back, r.labelLines = ["## Labels"] ++ back ∧
      ∃ line ∈ back, ∃ c ∈ line.toList, isBlank c = false := by
    refine ⟨_, rfl, _, List.mem_cons_self, '-', ?_, by decide⟩
    rw [String.toList_append, List.mem_append]
    exact Or.inl (by decide)
  let before := [r.heading, ""] ++ r.summaryLines ++ ["## Comment", strip r.verdict.comment, ""]
  have hpage : r.markdown = stripEnd (String.intercalate "\n"
      ((before ++ (r.scenarioLines ++ ["## Labels"])) ++ back)) ++ "\n" := by
    simp only [Review.markdown, hlabels, before, List.append_assoc]
  have hbefore : before ++ (r.scenarioLines ++ ["## Labels"]) ≠ [] := by simp
  rcases splitAt_joined hbefore hback with ⟨labels, hlines⟩
  refine ⟨labels, ?_⟩
  rw [hpage, hlines, List.flatMap_append, splitAt_scenarioLines, List.append_assoc, Review.scenarioLines]
  simp only [before, List.append_assoc, List.cons_append, List.nil_append]

/-! ## The packaged scenarios -/

theorem countBars_of_not_mem {cs : List Char} (h : '|' ∉ cs) (parity n : ℕ) : countBars parity n cs = 0 := by
  induction cs generalizing n with
  | nil => rfl
  | cons c cs ih =>
      rw [List.mem_cons, not_or] at h
      have hbar : ¬ (c = '|' ∧ n % 2 = parity) := fun hbar => h.1 hbar.1.symm
      rw [countBars, ih h.2, ih h.2, if_neg hbar, ite_self]

theorem mem_bytes_of_bar_mem {s : String} (h : '|' ∈ s.toList) : 124 ∈ s.toByteArray.data.toList := by
  have hbytes : s.toByteArray.data.toList = s.toList.flatMap String.utf8EncodeChar := by
    rw [← String.utf8Encode_toList, List.utf8Encode, List.data_toByteArray]
  rw [hbytes, List.mem_flatMap]
  exact ⟨'|', h, by decide⟩

theorem escapedBars_of_not_mem_bytes {s : String} (h : 124 ∉ s.toByteArray.data.toList) :
    escapedBars s = 0 := by
  rw [escapedBars, barsAt_eq_countBars]
  exact countBars_of_not_mem (mt mem_bytes_of_bar_mem h) 1 0

/-- No bar is escaped in the names of the packaged scenarios and in the texts of their steps. All but one have
    no bar at all. -/
theorem escapedBars_compiled : ∀ scenario ∈ Packaged.compiled, escapedBars scenario.name = 0 ∧
    ∀ step ∈ scenario.steps, escapedBars step.text = 0 := by
  -- Bytes are looked at, since cutting a text into characters takes the kernel far longer.
  have hbytes : ∀ scenario ∈ Packaged.compiled, 124 ∉ scenario.name.toByteArray.data.toList ∧
      ∀ step ∈ scenario.steps,
        124 ∉ step.text.toByteArray.data.toList ∨ countBars 1 0 step.text.toList = 0 := by
    decide +kernel
  intro scenario hscenario
  refine ⟨escapedBars_of_not_mem_bytes (hbytes scenario hscenario).1, fun step hstep => ?_⟩
  rcases (hbytes scenario hscenario).2 step hstep with hnone | hcount
  · exact escapedBars_of_not_mem_bytes hnone
  · rw [escapedBars, barsAt_eq_countBars, hcount]

variable {b : Brief} {n final : Notes} {record : RunRecord}

/-- The bars that are open in the row of a packaged scenario, besides those of the table, are the escaped
    ones in the message of its failed step. -/
theorem unescapedBars_row_of_run (h : runAll b n Packaged.compiled = .ok (record, final))
    {result : ScenarioResult} (hresult : result ∈ record.scenarios) :
    unescapedBars result.row = 5 + escapedBars result.message := by
  rcases exists_run_of_mem_results (runAll_eq_ok_iff.mp h) hresult with ⟨scenario, hscenario, m, m', hrun⟩
  rcases Scenario.run_eq_ok_iff.mp hrun with ⟨results, hresults, rfl⟩
  rcases escapedBars_compiled scenario hscenario with ⟨hname, htexts⟩
  have htext :
      escapedBars (ScenarioResult.failedStepText ⟨scenario.name, scenario.description, results⟩) = 0 := by
    unfold ScenarioResult.failedStepText
    rcases hfailed : ScenarioResult.failedStep? ⟨scenario.name, scenario.description, results⟩ with _ | failed
    · rfl
    · have hstatus : failed.status = .failed := by simpa using List.find?_some hfailed
      rcases exists_failed_of_runSteps hresults (List.mem_of_find?_eq_some hfailed) hstatus with
        ⟨step, hstep, -, -, f, -, rfl⟩
      exact htexts step hstep
  rw [unescapedBars_row, hname, htext]

/-- The table of a review under the packaged rules. The page has one line for each scenario of the record, in
    order, between the header of the table and the labels; and each has the five open bars of four cells and
    one more for each bar that is escaped in the message of the scenario's failed step. So it has four cells
    exactly if there is none. -/
theorem scenario_table_exact {d : Disk} {settings : Settings} {s : Submission} {r : Review}
    (hrules : settings.rules = .packaged) (h : Review.ofSubmission d settings s = .ok r) :
    (∃ labels, splitAt '\n' r.markdown =
      ([r.heading, ""] ++ r.summaryLines ++ ["## Comment", strip r.verdict.comment, ""]).flatMap
          (splitAt '\n') ++
        ("## Scenarios" :: "| Scenario | Outcome | Failing step | Message |" :: "|---|---|---|---|" ::
          (r.record.scenarios.map ScenarioResult.row ++ "" :: "## Labels" :: labels))) ∧
    ∀ scenario ∈ r.record.scenarios, unescapedBars scenario.row = 5 + escapedBars scenario.message := by
  refine ⟨splitAt_markdown r, fun scenario hscenario => ?_⟩
  rcases Review.exists_hold_of_packaged hrules h with ⟨latest, -, hhold⟩
  rcases Review.hold_eq_ok_iff.mp hhold with ⟨record, notes, verdict, hrun, -, rfl⟩
  exact unescapedBars_row_of_run hrun hscenario

/-- A submission with a file whose name has a backslash before a bar. -/
def Submission.barred : Submission :=
  { Submission.blank with files := [⟨"v1.30/p/a\\|b", "", none⟩] }

theorem Review.exists_hold_barred : ∃ r,
    hold .ofOneTest (.given "v1.30") Packaged.compiled "v1.30" .barred = .ok r ∧
      (r.record.scenarios.any fun scenario => countBars 1 0 scenario.message.toList = 1) = true := by
  refine exists_of_map_toOption (f := fun r : Review =>
    r.record.scenarios.any fun scenario => countBars 1 0 scenario.message.toList = 1) ?_
  decide +kernel

/-- The name is quoted, and its row has a fifth cell. -/
theorem scenario_table_exact_of_barred : ∃ r,
    Review.ofSubmission .ofOneTest (.given "v1.30") .barred = .ok r ∧
      ∃ scenario ∈ r.record.scenarios, unescapedBars scenario.row = 6 := by
  rcases Review.exists_hold_barred with ⟨r, hhold, hany⟩
  have h : Review.ofSubmission .ofOneTest (.given "v1.30") .barred = .ok r := by
    rw [Review.ofSubmission_eq_hold (Settings.load_of_packaged rfl) (Settings.given_latest _)]
    exact hhold
  rcases List.any_eq_true.mp hany with ⟨scenario, hscenario, hbars⟩
  rw [decide_eq_true_eq, ← barsAt_eq_countBars] at hbars
  refine ⟨r, h, scenario, hscenario, ?_⟩
  rw [(scenario_table_exact rfl h).2 scenario hscenario, escapedBars, hbars]

end Assay
