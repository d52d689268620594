import Assay.Proofs.Binding
import Assay.Proofs.Halt

/-!
# Templates

What a template's texts become under an example, and what a template compiles to. A placeholder is
replaced where it stands: the text before it holds no other, and what it is replaced by is not read
again, so a text is filled from left to right, one placeholder at a time.

## Main definitions

* `Template.Cut`: Where the first placeholder of a text is.
* `Template.StandsFor`: A template without examples and its scenario.

## Theorems

* `Template.fill_plain`, `Template.fill_cut`: A text without placeholders stays, and the first
  placeholder of a text is replaced.
* `Script.compile_cons_plain`, `Script.compileTemplate_of_rows`: What templates stand for, without
  examples and with them.
* `Script.compile_cons`, `Script.compile_append`: A script compiles template by template.
-/

namespace Assay

open Text

/-! ## Filling -/

namespace Template

variable {row : Example}

theorem fillFrom_skip (skipped cs : List Char) :
    fillFrom row skipped.length (skipped ++ cs) = fillFrom row 0 cs := by
  induction skipped with
  | nil => rfl
  | cons c skipped ih =>
      rw [List.length_cons, List.cons_append, fillFrom]
      exact ih

/-- Characters that open no placeholder stay. -/
theorem fillFrom_plain {plain : List Char} (h : '<' ∉ plain) (cs : List Char) :
    fillFrom row 0 (plain ++ cs) = (fillFrom row 0 cs).map (plain ++ ·) := by
  induction plain with
  | nil =>
      rw [List.nil_append]
      cases fillFrom row 0 cs <;> rfl
  | cons c plain ih =>
      rw [List.mem_cons, not_or] at h
      -- The first character begins no placeholder, whatever follows it.
      have hnone : takePlaceholder (c :: (plain ++ cs)) = none := by
        unfold takePlaceholder
        split
        · rename_i heq
          exact absurd (List.cons.inj heq).1.symm h.1
        · rfl
      rw [List.cons_append, fillFrom, hnone]
      simp only [ih h.2]
      cases fillFrom row 0 cs <;> rfl

theorem takePlaceholder_eq {column : List Char} (hne : column ≠ [])
    (hcolumn : ∀ c ∈ column, isColumnChar c = true) (cs : List Char) :
    takePlaceholder ('<' :: (column ++ '>' :: cs)) = some (column, cs) := by
  have hclose : isColumnChar '>' = false := by decide
  have htake : (column ++ '>' :: cs).takeWhile isColumnChar = column := by
    rw [List.takeWhile_append_of_pos hcolumn, List.takeWhile_cons_of_neg (by simp [hclose]),
      List.append_nil]
  have hdrop : (column ++ '>' :: cs).dropWhile isColumnChar = '>' :: cs := by
    rw [List.dropWhile_append_of_pos hcolumn, List.dropWhile_cons_of_neg (by simp [hclose])]
  simp only [takePlaceholder, htake, hdrop]
  rw [if_neg (by simpa using hne)]

/-- A placeholder is replaced by what the example says of its column. -/
theorem fillFrom_placeholder {column : List Char} {text : String} (hne : column ≠ [])
    (hcolumn : ∀ c ∈ column, isColumnChar c = true)
    (hrow : row.lookup (String.ofList column) = some text) (cs : List Char) :
    fillFrom row 0 ('<' :: (column ++ '>' :: cs)) =
      (fillFrom row 0 cs).map (text.toList ++ ·) := by
  have hrest : fillFrom row (column.length + 1) (column ++ '>' :: cs) = fillFrom row 0 cs := by
    have := @fillFrom_skip row (column ++ ['>']) cs
    rwa [List.length_append, List.append_assoc] at this
  rw [fillFrom, takePlaceholder_eq hne hcolumn]
  simp only [hrow, hrest]

theorem fill_eq_ok_iff {text filled : String} :
    fill row text = .ok filled ↔ fillFrom row 0 text.toList = .ok filled.toList := by
  unfold fill
  cases fillFrom row 0 text.toList with
  | ok cs => simp only [Except.ok.injEq, ← String.toList_inj, String.toList_ofList]
  | error column => simp only [reduceCtorEq]

/-- A text without placeholders stays. -/
theorem fill_plain {text : String} (h : '<' ∉ text.toList) : fill row text = .ok text := by
  have hfill := @fillFrom_plain row _ h []
  rw [List.append_nil] at hfill
  rw [fill_eq_ok_iff, hfill]
  simp only [fillFrom, Except.map, List.append_nil]

/-- The first placeholder of a text is that of a column, with a text before and after it. -/
structure Cut (text before column after : String) : Prop where
  whole : text = before ++ "<" ++ column ++ ">" ++ after
  plain : '<' ∉ before.toList
  named : column.toList ≠ []
  letters : column.toList.all isColumnChar = true

/-- Where the first placeholder of a text that is written out is, is read off its characters. -/
theorem Cut.ofList {text : String} {before column after : List Char}
    (htext : text = String.ofList (before ++ '<' :: (column ++ '>' :: after)))
    (h : '<' ∉ before ∧ column ≠ [] ∧ column.all isColumnChar = true) :
    Cut text (String.ofList before) (String.ofList column) (String.ofList after) where
  whole := by
    have hopen : "<" = String.ofList ['<'] := rfl
    have hclose : ">" = String.ofList ['>'] := rfl
    rw [htext, hopen, hclose, ← String.ofList_append, ← String.ofList_append,
      ← String.ofList_append, ← String.ofList_append]
    simp only [List.append_assoc, List.cons_append, List.nil_append]
  plain := notMem_toList_ofList h.1
  named := by rw [String.toList_ofList]; exact h.2.1
  letters := by rw [String.toList_ofList]; exact h.2.2

/-- The first placeholder of a text is replaced by what the example says of its column. -/
theorem fill_cut {text before column after value filled : String}
    (h : Cut text before column after) (hrow : row.lookup column = some value)
    (hafter : fill row after = .ok filled) : fill row text = .ok (before ++ value ++ filled) := by
  have hopen : "<".toList = ['<'] := String.toList_ofList
  have hclose : ">".toList = ['>'] := String.toList_ofList
  rw [fill_eq_ok_iff] at hafter ⊢
  rw [h.whole]
  simp only [String.toList_append, hopen, hclose, List.append_assoc, List.cons_append,
    List.nil_append]
  rw [fillFrom_plain h.plain,
    fillFrom_placeholder h.named (List.all_eq_true.mp h.letters) (by rwa [String.ofList_toList]), hafter]
  rfl

end Template

/-! ## Compiling -/

/-- A template without examples that stands for a scenario. -/
structure Template.StandsFor (t : Template) (s : Scenario) : Prop where
  name : t.name = s.name
  description : t.description = s.description
  examples : t.examples = []
  steps : List.Forall₂ (fun text step => Script.bindStep text = .ok step) t.steps s.steps

namespace Script

variable {source : String}

/-- A script compiles template by template. -/
theorem compile_cons {t : Template} {templates : List Template} {xs ys : List Scenario}
    (h : compileTemplate source t = .ok xs) (hrest : compile source templates = .ok ys) :
    compile source (t :: templates) = .ok (xs ++ ys) := by
  rcases bind_eq_ok_iff.mp hrest with ⟨found, hmap, heq⟩
  rw [pure_eq_ok, Except.ok.injEq] at heq
  simp [compile, h, hmap, ← heq]

/-- Scripts compile side by side. -/
theorem compile_append {a b : List Template} {xs ys : List Scenario}
    (ha : compile source a = .ok xs) (hb : compile source b = .ok ys) :
    compile source (a ++ b) = .ok (xs ++ ys) := by
  rcases bind_eq_ok_iff.mp ha with ⟨as, hmapA, heqA⟩
  rcases bind_eq_ok_iff.mp hb with ⟨bs, hmapB, heqB⟩
  rw [pure_eq_ok, Except.ok.injEq] at heqA heqB
  rw [compile, List.mapM_append, hmapA, hmapB, ← heqA, ← heqB]
  simp

theorem compile_one {t : Template} {xs : List Scenario} (h : compileTemplate source t = .ok xs) :
    compile source [t] = .ok xs := by
  simp [compile, h]

/-- A template without examples is one scenario. -/
theorem compile_cons_plain {t : Template} {s : Scenario} {templates : List Template}
    {scenarios : List Scenario} (h : t.StandsFor s)
    (hrest : compile source templates = .ok scenarios) :
    compile source (t :: templates) = .ok (s :: scenarios) := by
  have hsteps : t.steps.mapM bindStep = .ok s.steps := mapM_eq_ok_iff.mpr h.steps
  have htemplate : compileTemplate source t = .ok [s] := by
    simp [compileTemplate, Template.expand, bindScenario, h.examples, h.name, h.description, hsteps,
      reportingAs]
  exact compile_cons htemplate hrest

/-- A template of one step with examples is one scenario for each of them. -/
theorem compileTemplate_of_rows {α : Type} {name description text : String} {row : α → Example}
    {filledName filledText : α → String} {check : α → Check} {xs : List α} (hne : xs ≠ [])
    (hname : ∀ x ∈ xs, Template.fill (row x) name = .ok (filledName x))
    (hdescription : '<' ∉ description.toList)
    (htext : ∀ x ∈ xs, Template.fill (row x) text = .ok (filledText x))
    (hbind : ∀ x ∈ xs, bindStep (filledText x) = .ok ⟨filledText x, check x⟩) :
    compileTemplate source ⟨name, description, [text], xs.map row⟩ =
      .ok (xs.map fun x => ⟨filledName x, description, [⟨filledText x, check x⟩]⟩) := by
  have hexpand : (xs.map row).mapM (Template.fillAll ⟨name, description, [text], xs.map row⟩) =
      .ok (xs.map fun x => ⟨filledName x, description, [filledText x]⟩) := by
    rw [mapM_eq_ok_iff, List.forall₂_map_left_iff, List.forall₂_map_right_iff, List.forall₂_same]
    intro x hx
    simp [Template.fillAll, hname x hx, htext x hx, Template.fill_plain hdescription]
  have hscenarios : (xs.map fun x => ⟨filledName x, description, [filledText x]⟩).mapM
      (bindScenario source) =
        .ok (xs.map fun x => ⟨filledName x, description, [⟨filledText x, check x⟩]⟩) := by
    rw [mapM_eq_ok_iff, List.forall₂_map_left_iff, List.forall₂_map_right_iff, List.forall₂_same]
    intro x hx
    simp [bindScenario, hbind x hx, reportingAs]
  rw [compileTemplate, Template.expand, if_neg (by simpa using hne)]
  simp only [hexpand, hscenarios]

end Script

end Assay
