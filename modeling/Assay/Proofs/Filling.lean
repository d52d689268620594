import Assay.Proofs.Placeholder
import Assay.Proofs.Rendering

/-!
# Filled steps

An example fills the texts of steps before they are bound to checks, so what a text asks for could depend
on the example. It does not, as long as no value has a quotation mark or a line break in it. The words of a
form hold no placeholder, and a quotation mark ends every placeholder, so the placeholders of a text stand
inside its arguments, or in the remark at its end. Filling the text is then filling the arguments, and the
form stays (`Phrase.Writes.filled`).

What an example can spoil is a pattern. An argument that is read as one is another pattern once it is
filled, and that may be one with a problem, or one whose reading breaks off.

## Main definitions

* `Phrase.isWithout`: A character stands in no words of a phrase.
* `Check.BreaksReading`: A text asks for a pattern whose reading breaks off.

## Theorems

* `Phrase.Writes.filled`: What a phrase writes is filled argument by argument.
* `Check.ofText_cases`: What becomes of a text that a form writes.
* `Check.ofText_eq_fault_iff`: Which texts break the binding off.
* `filled_step_bound`: A filled step is bound to the check of the step, with its arguments filled.
-/

namespace Assay

open Text

/-! ## Filling what a phrase writes -/

namespace Template

variable {row : Example}

/-- A mark that stands neither in a text nor in what an example says is not in the filled text. -/
theorem Filled.notMem {mark : Char} (hrow : ∀ e ∈ row, mark ∉ e.2.toList) {cs filled : List Char}
    (h : Filled row cs filled) (hmark : mark ∉ cs) : mark ∉ filled := by
  induction h with
  | plain => exact hmark
  | @next before column after filled value bare name held rest ih =>
      rcases List.lookup_eq_some_iff.mp held with ⟨front, back, rfl, -⟩
      have hvalue : mark ∉ value.toList := hrow _ (List.mem_append_right front List.mem_cons_self)
      simp only [List.mem_append, List.mem_cons, not_or] at hmark ⊢
      exact ⟨hmark.1, hvalue, ih hmark.2.2.2.2⟩

/-- Fixed characters are left as they are, and the rest is filled behind them. -/
theorem exists_fillFrom_fixed (fixed : List Char) {after filled : List Char} (hopen : '<' ∉ fixed)
    (h : fillFrom row 0 (fixed ++ after) = .ok filled) :
    ∃ rest, fillFrom row 0 after = .ok rest ∧ filled = fixed ++ rest := by
  rw [fillFrom_plain hopen] at h
  rcases hafter : fillFrom row 0 after with e | rest
  · rw [hafter] at h
    cases h
  · rw [hafter] at h
    exact ⟨rest, rfl, (Except.ok.inj h).symm⟩

/-- An argument is filled on its own, since the mark that closes it ends every placeholder in it. -/
theorem exists_fillFrom_argument {argument after filled : List Char}
    (h : fillFrom row 0 ('"' :: (argument ++ '"' :: after)) = .ok filled) :
    ∃ other rest, fillFrom row 0 argument = .ok other ∧ fillFrom row 0 after = .ok rest ∧
      filled = '"' :: (other ++ '"' :: rest) := by
  rcases @exists_fillFrom_fixed row ['"'] (argument ++ '"' :: after) filled (by decide) h with
    ⟨more, hmore, rfl⟩
  have hcut : Separate argument ('"' :: after) := separate_of_head (by decide) (by decide) _ _
  rw [fillFrom_append hcut] at hmore
  rcases bind_eq_ok_iff.mp hmore with ⟨other, hother, hclose⟩
  rcases bind_eq_ok_iff.mp hclose with ⟨close, hclose, heq⟩
  rcases exists_fillFrom_fixed ['"'] (by decide) hclose with ⟨rest, hrest, rfl⟩
  rw [pure_eq_ok, Except.ok.injEq] at heq
  rw [← heq]
  exact ⟨other, rest, hother, hrest, rfl⟩

end Template

namespace Phrase

variable {row : Example}

/-- A character stands in no words of a phrase. -/
def isWithout (mark : Char) (p : Phrase) : Bool :=
  p.all fun
    | .words text => !text.toList.contains mark
    | _ => true

/-- What a phrase writes is filled argument by argument: the phrase writes the filled text with the filled
    arguments. -/
theorem Writes.filled {p : Phrase} {arguments : List String} {cs : List Char}
    (h : p.Writes arguments cs) (hp : p.isWithout '<' = true)
    (hrow : ∀ e ∈ row, '"' ∉ e.2.toList ∧ '\n' ∉ e.2.toList) {filled : List Char}
    (hfilled : Template.fillFrom row 0 cs = .ok filled) :
    ∃ others, List.Forall₂ (fun a b => Template.fill row a = .ok b) arguments others ∧
      p.Writes others filled := by
  induction h generalizing filled with
  | done =>
      cases hfilled
      exact ⟨[], .nil, .done⟩
  | @words text rest arguments cs after ih =>
      rw [isWithout, List.all_cons, Bool.and_eq_true] at hp
      rcases Template.exists_fillFrom_fixed text.toList (by simpa using hp.1) hfilled with
        ⟨more, hmore, rfl⟩
      rcases ih hp.2 hmore with ⟨others, hothers, hwrites⟩
      exact ⟨others, hothers, .words hwrites⟩
  | @argument argument rest arguments cs unmarked after ih =>
      rw [isWithout, List.all_cons, Bool.and_eq_true] at hp
      rcases Template.exists_fillFrom_argument hfilled with ⟨other, more, hother, hmore, rfl⟩
      rcases ih hp.2 hmore with ⟨others, hothers, hwrites⟩
      -- No value has a quotation mark, so the argument has none after it is filled either.
      have hmark : '"' ∉ other :=
        (Template.fillFrom_eq_ok_iff.mp hother).notMem (fun e he => (hrow e he).1) unmarked
      have hargument : Template.fill row argument = .ok (String.ofList other) := by
        rw [Template.fill_eq_ok_iff, String.toList_ofList, hother]
      rw [← String.toList_ofList (l := other)] at hmark ⊢
      exact ⟨_, .cons hargument hothers, .argument hmark hwrites⟩
  | a after ih =>
      rw [isWithout, List.all_cons, Bool.and_eq_true] at hp
      rcases Template.exists_fillFrom_fixed ['a'] (by decide) hfilled with ⟨more, hmore, rfl⟩
      rcases ih hp.2 hmore with ⟨others, hothers, hwrites⟩
      exact ⟨others, hothers, .a hwrites⟩
  | an after ih =>
      rw [isWithout, List.all_cons, Bool.and_eq_true] at hp
      rcases Template.exists_fillFrom_fixed ['a', 'n'] (by decide) hfilled with ⟨more, hmore, rfl⟩
      rcases ih hp.2 hmore with ⟨others, hothers, hwrites⟩
      exact ⟨others, hothers, .an hwrites⟩
  | remark line after ih =>
      rw [isWithout, List.all_cons, Bool.and_eq_true] at hp
      rcases ih hp.2 rfl with ⟨others, hothers, hwrites⟩
      refine ⟨others, hothers, .remark ?_ hwrites⟩
      exact (Template.fillFrom_eq_ok_iff.mp hfilled).notMem (fun e he => (hrow e he).2) line

end Phrase

/-! ## What becomes of a step -/

/-- The words of no form open a placeholder. -/
theorem Form.isWithout_open : ∀ form ∈ all, form.phrase.isWithout '<' = true := by
  decide +kernel

namespace Check

/-- A text asks for a pattern whose reading breaks off. -/
def BreaksReading (text : String) (f : Fault) : Prop :=
  ∃ place form arguments, Form.all[place]? = some form ∧
    form.phrase.Writes arguments text.toList ∧
      ∃ source ∈ patternArguments place arguments, Pattern.read source = .error (.fault f)

/-- A text that a form writes is bound to its check, unless one of the arguments is a pattern that cannot be
    read. -/
theorem ofText_cases {place : Nat} {form : Form} (hform : Form.all[place]? = some form) {text : String}
    {arguments : List String} (h : form.phrase.Writes arguments text.toList) :
    (∃ check, ofText text = .ok check ∧ check.place = place ∧ check.arguments = arguments) ∨
      (∃ source ∈ patternArguments place arguments, ∃ problem,
        Pattern.read source = .error (.problem problem) ∧
          ofText text = .error (.report (.badPattern text source problem))) ∨
      ∃ source ∈ patternArguments place arguments, ∃ f,
        Pattern.read source = .error (.fault f) ∧ ofText text = .error (.fault f) := by
  have hmakes := Form.makes_of_writes hform h
  have htext := ofText_of_writes hform h
  by_cases hreadable : ∀ source ∈ patternArguments place arguments,
      ∃ pattern, Pattern.read source = .ok pattern
  · rcases hmakes.readable hreadable with ⟨check, hmake⟩
    rw [hmake] at htext
    exact Or.inl ⟨check, htext, hmakes.made check hmake⟩
  · -- Whichever argument cannot be read decides how the binding ends.
    push Not at hreadable
    rcases hreadable with ⟨source, hsource, hunread⟩
    refine Or.inr ?_
    rcases hread : Pattern.read source with (problem | f) | pattern
    · rw [hmakes.unreadable source hsource _ hread] at htext
      exact Or.inl ⟨source, hsource, problem, hread, htext⟩
    · rw [hmakes.unreadable source hsource _ hread] at htext
      exact Or.inr ⟨source, hsource, f, hread, htext⟩
    · exact absurd hread (hunread pattern)

/-- A text breaks the binding off where it asks for a pattern whose reading breaks off. -/
theorem ofText_eq_fault_iff {text : String} {f : Fault} :
    ofText text = .error (.fault f) ↔ BreaksReading text f := by
  constructor
  · intro hfault
    rcases Form.exists_writes_or_none text with ⟨form, hmem, arguments, hwrites⟩ | hnone
    · -- A text of a form is bound or reported, unless a pattern in it breaks its reading off.
      rcases List.getElem?_of_mem hmem with ⟨place, hform⟩
      rcases ofText_cases hform hwrites with ⟨check, hcheck, -⟩ | ⟨source, -, problem, -, hproblem⟩ |
        ⟨source, hsource, g, hread, hg⟩
      · rw [hfault] at hcheck
        cases hcheck
      · rw [hfault] at hproblem
        cases hproblem
      · rw [hfault] at hg
        cases hg
        exact ⟨place, form, arguments, hform, hwrites, source, hsource, hread⟩
    · rw [ofText, ofTextIn_of_none hnone] at hfault
      cases hfault
  · rintro ⟨place, form, arguments, hform, hwrites, source, hsource, hread⟩
    rw [ofText_of_writes hform hwrites,
      (Form.makes_of_writes hform hwrites).unreadable source hsource _ hread]

end Check

/-- A step that is bound, filled by an example that has its columns and says nothing with a quotation mark
    or a line break in it. Its arguments are filled one by one, and the filled text is bound to the same
    form with the filled arguments, unless one of them is a pattern that cannot be read: one with a problem
    is reported, and one whose reading breaks off breaks the binding off. -/
theorem filled_step_bound {text : String} {row : Example} {check : Check}
    (hbound : Check.ofText text = .ok check)
    (hcolumns : ∀ column, Template.Mentions text.toList column →
      ∃ value, row.lookup (String.ofList column) = some value)
    (hvalues : ∀ e ∈ row, '"' ∉ e.2.toList ∧ '\n' ∉ e.2.toList) :
    ∃ filled arguments, Template.fill row text = .ok filled ∧
      List.Forall₂ (fun a b => Template.fill row a = .ok b) check.arguments arguments ∧
      ((∃ other, Check.ofText filled = .ok other ∧ other.place = check.place ∧
          other.arguments = arguments) ∨
        (∃ source ∈ patternArguments check.place arguments, ∃ problem,
          Pattern.read source = .error (.problem problem) ∧
            Check.ofText filled = .error (.report (.badPattern filled source problem))) ∨
        ∃ source ∈ patternArguments check.place arguments, ∃ f,
          Pattern.read source = .error (.fault f) ∧ Check.ofText filled = .error (.fault f)) := by
  rcases Template.exists_fill_iff.mpr hcolumns with ⟨filled, hfilled⟩
  rcases Check.writes_of_ofText hbound with ⟨form, hform, hwrites⟩
  rcases hwrites.filled (Form.isWithout_open form (List.mem_of_getElem? hform)) hvalues
    (Template.fill_eq_ok_iff.mp hfilled) with ⟨arguments, harguments, hother⟩
  exact ⟨filled, arguments, hfilled, harguments, Check.ofText_cases hform hother⟩

theorem Template.fill_overlong : fill [("p", "a\x7b4294967295\x7d")]
    "the title of the submission matches \"<p>\"" =
      .ok "the title of the submission matches \"a\x7b4294967295\x7d\"" :=
  fill_eq_ok_iff.mpr (by decide +kernel)

theorem Check.breaksReading_overlong :
    BreaksReading "the title of the submission matches \"a\x7b4294967295\x7d\"" .repeatTooLarge :=
  ⟨1, _, ["a\x7b4294967295\x7d"], rfl,
    (Form.read?_eq_some_iff (List.mem_of_getElem? (i := 1) rfl)).mp (by decide +kernel), _,
    List.mem_cons_self, read_overlong⟩

/-- A file that is named by an example, and a pattern that an example spoils: filled, it asks for more than
    can be counted out. -/
theorem filled_step_bound_of_overlong :
    (∃ check, Check.ofText "\"README.md\" is not empty" = .ok check ∧ check.place = 7 ∧
      check.arguments = ["README.md"]) ∧
    (∃ check, Check.ofText "the title of the submission matches \"<p>\"" = .ok check) ∧
    Template.fill [("p", "a\x7b4294967295\x7d")] "the title of the submission matches \"<p>\"" =
      .ok "the title of the submission matches \"a\x7b4294967295\x7d\"" ∧
    Check.ofText "the title of the submission matches \"a\x7b4294967295\x7d\"" =
      .error (.fault .repeatTooLarge) := by
  have hfile : Template.fill [("file", "README.md")] "\"<file>\" is not empty" =
      .ok "\"README.md\" is not empty" := Template.fill_eq_ok_iff.mpr (by decide +kernel)
  have hargument : Template.fill [("file", "README.md")] "<file>" = .ok "README.md" :=
    Template.fill_eq_ok_iff.mpr (by decide +kernel)
  have hform : Form.all[7]? = some Form.all[7] := rfl
  have hwrites : Form.all[7].phrase.Writes ["<file>"] "\"<file>\" is not empty".toList :=
    (Form.read?_eq_some_iff (List.getElem_mem _)).mp (by decide +kernel)
  refine ⟨?_, ?_, Template.fill_overlong, Check.ofText_eq_fault_iff.mpr Check.breaksReading_overlong⟩
  · rcases Check.ofText_cases hform hwrites with
      ⟨check, hcheck, hplace, hwritten⟩ | ⟨_, hsource, -⟩ | ⟨_, hsource, -⟩
    · rcases filled_step_bound hcheck (Template.exists_fill_iff.mp ⟨_, hfile⟩) (by decide +kernel) with
        ⟨filled, arguments, hfilled, harguments, hends⟩
      cases hfile.symm.trans hfilled
      rw [hwritten] at harguments
      rcases harguments with _ | ⟨hfirst, _ | _⟩
      cases hargument.symm.trans hfirst
      rw [hplace] at hends
      simpa [patternArguments] using hends
    · exact absurd hsource List.not_mem_nil
    · exact absurd hsource List.not_mem_nil
  · have hread : (Check.ofText "the title of the submission matches \"<p>\"").toOption.isSome = true := by
      decide +kernel
    rcases hcheck : Check.ofText "the title of the submission matches \"<p>\"" with e | check
    · rw [hcheck] at hread
      cases hread
    · exact ⟨check, rfl⟩

end Assay
