import Assay.Proofs.Template

/-!
# Placeholders

What it is for a text to be filled. The placeholders of a text are the names of columns between `<` and
`>`, wherever they stand. No name has a mark in it, so two of them cannot overlap, and a text falls into
placeholders and what stands between them in one way only (`exists_first`). Filling leaves the text between
as it is and puts for each placeholder what the example says of its column, letter by letter: what is put
there is not read again, so a value that looks like a placeholder stays a value.

Filling goes piece by piece wherever a text is cut between placeholders (`fillFrom_append`). That is what
a form needs of it, since quotation marks stand in no name.

## Main definitions

* `Template.IsColumn`: A name that a placeholder can have.
* `Template.Mentions`: A text has a placeholder of a column.
* `Template.Filled`: A text with its placeholders replaced.
* `Template.Separate`: No placeholder stands across the cut between two texts.

## Theorems

* `Template.exists_first`: A text without placeholders, or its first one.
* `Template.fillFrom_append`: Texts are filled piece by piece.
* `Template.fill_eq_ok_iff_filled`: What a text is filled to.
* `Template.exists_fill_iff`: A text can be filled where the example has the columns of its placeholders.
-/

namespace Assay.Template

variable {row : Example}

/-! ## Where placeholders stand -/

/-- A name that a placeholder can have. -/
structure IsColumn (column : List Char) : Prop where
  named : column ≠ []
  letters : ∀ c ∈ column, isColumnChar c = true

/-- A text has a placeholder of a column. -/
def Mentions (cs column : List Char) : Prop :=
  IsColumn column ∧ ∃ before after, cs = before ++ '<' :: (column ++ '>' :: after)

/-- What is taken for a placeholder at the head of a text. -/
theorem takePlaceholder_eq_some_iff {cs column after : List Char} :
    takePlaceholder cs = some (column, after) ↔
      IsColumn column ∧ cs = '<' :: (column ++ '>' :: after) := by
  constructor
  · intro h
    unfold takePlaceholder at h
    split at h
    · rename_i r
      dsimp only at h
      split at h
      · rename_i rest hclose
        -- Brackets with nothing between them are no placeholder.
        by_cases hempty : (r.takeWhile isColumnChar).isEmpty
        · rw [if_pos hempty] at h
          cases h
        · rw [if_neg hempty, Option.some.injEq, Prod.mk.injEq] at h
          rcases h with ⟨rfl, rfl⟩
          refine ⟨⟨by simpa using hempty, fun c => List.mem_takeWhile_imp⟩, ?_⟩
          rw [← hclose, List.takeWhile_append_dropWhile]
      · cases h
    · cases h
  · rintro ⟨hcolumn, rfl⟩
    exact takePlaceholder_eq hcolumn.named hcolumn.letters after

theorem not_isColumnChar_open : isColumnChar '<' = false := by decide

/-- A text has the placeholders of what follows its first character, and one at its head. -/
theorem mentions_cons_iff {c : Char} {cs column : List Char} :
    Mentions (c :: cs) column ↔
      (∃ after, takePlaceholder (c :: cs) = some (column, after)) ∨ Mentions cs column := by
  simp only [takePlaceholder_eq_some_iff, Mentions]
  constructor
  · rintro ⟨hcolumn, _ | ⟨b, before⟩, after, heq⟩
    · exact Or.inl ⟨after, hcolumn, heq⟩
    · exact Or.inr ⟨hcolumn, before, after, (List.cons.inj heq).2⟩
  · rintro (⟨after, hcolumn, heq⟩ | ⟨hcolumn, before, after, rfl⟩)
    · exact ⟨hcolumn, [], after, heq⟩
    · exact ⟨hcolumn, c :: before, after, rfl⟩

theorem not_mentions_nil (column : List Char) : ¬ Mentions [] column := by
  rintro ⟨-, before, after, heq⟩
  exact absurd heq.symm (List.append_ne_nil_of_right_ne_nil before (List.cons_ne_nil _ _))

/-- No placeholder stands across the cut between two texts. -/
def Separate (front back : List Char) : Prop :=
  ∀ before left right after, front = before ++ '<' :: left → back = right ++ '>' :: after →
    ¬ IsColumn (left ++ right)

/-- No placeholder begins in a text without the mark that opens one. -/
theorem separate_of_not_mem {front : List Char} (h : '<' ∉ front) (back : List Char) :
    Separate front back := by
  rintro before left right after rfl -
  exact absurd (List.mem_append_right before List.mem_cons_self) h

/-- A character that is neither a letter of a column nor the closing mark ends every placeholder. -/
theorem separate_of_head {mark : Char} (hmark : isColumnChar mark = false) (hclose : mark ≠ '>')
    (front back : List Char) : Separate front (mark :: back) := by
  rintro before left (_ | ⟨c, right⟩) after - heq hcolumn
  · exact hclose (List.cons.inj heq).1
  · obtain ⟨rfl, -⟩ := List.cons.inj heq
    rw [hcolumn.letters mark (List.mem_append_right left List.mem_cons_self)] at hmark
    cases hmark

theorem Separate.of_cons {c : Char} {front back : List Char} (h : Separate (c :: front) back) :
    Separate front back :=
  fun before left right after hfront => h (c :: before) left right after (by rw [hfront]; rfl)

theorem Separate.of_append {front middle back : List Char} (h : Separate (front ++ middle) back) :
    Separate middle back := by
  induction front with
  | nil => exact h
  | cons c front ih => exact ih h.of_cons

/-- A placeholder that begins before the cut between two texts ends before it. -/
theorem takePlaceholder_append {front back column after : List Char} (h : Separate front back)
    (hfront : front ≠ []) :
    takePlaceholder (front ++ back) = some (column, after) ↔
      ∃ rest, takePlaceholder front = some (column, rest) ∧ after = rest ++ back := by
  simp only [takePlaceholder_eq_some_iff]
  constructor
  · rintro ⟨hcolumn, heq⟩
    obtain ⟨c, front, rfl⟩ := List.exists_cons_of_ne_nil hfront
    obtain ⟨rfl, hrest⟩ := List.cons.inj heq
    rcases List.append_eq_append_iff.mp hrest with ⟨right, hright, hback⟩ | ⟨inner, hinner, hclose⟩
    · -- The column would go on behind the cut.
      exact absurd (hright ▸ hcolumn) (h [] front right after rfl hback)
    · rcases List.cons_eq_append_iff.mp hclose with ⟨rfl, hback⟩ | ⟨rest, rfl, hafter⟩
      · refine absurd ?_ (h [] column [] after (by rw [hinner, List.append_nil]; rfl) hback)
        rwa [List.append_nil]
      · exact ⟨rest, ⟨hcolumn, by rw [hinner]⟩, hafter⟩
  · rintro ⟨rest, ⟨hcolumn, rfl⟩, rfl⟩
    exact ⟨hcolumn, by simp⟩

/-- What is put behind a text puts no placeholder at its head. -/
theorem takePlaceholder_append_eq_none_iff {front back : List Char} (h : Separate front back)
    (hfront : front ≠ []) : takePlaceholder (front ++ back) = none ↔ takePlaceholder front = none := by
  simp only [Option.eq_none_iff_forall_ne_some, Prod.forall, ne_eq, takePlaceholder_append h hfront,
    not_exists, not_and]
  constructor
  · intro hnone column rest hrest
    exact hnone column (rest ++ back) rest hrest rfl
  · intro hnone column after rest hrest _
    exact hnone column rest hrest

/-- The placeholders of two texts put together are those of the two, if none stands across the cut. -/
theorem mentions_append_iff {front back column : List Char} (h : Separate front back) :
    Mentions (front ++ back) column ↔ Mentions front column ∨ Mentions back column := by
  induction front with
  | nil => simp only [List.nil_append, not_mentions_nil, false_or]
  | cons c front ih =>
      have hhead : ∀ after, takePlaceholder (c :: (front ++ back)) = some (column, after) ↔
          ∃ rest, takePlaceholder (c :: front) = some (column, rest) ∧ after = rest ++ back :=
        fun _ => takePlaceholder_append h (List.cons_ne_nil c front)
      rw [List.cons_append, mentions_cons_iff, mentions_cons_iff, ih h.of_cons, or_assoc]
      refine or_congr_left ?_
      simp only [hhead]
      constructor
      · rintro ⟨after, rest, hrest, -⟩
        exact ⟨rest, hrest⟩
      · rintro ⟨rest, hrest⟩
        exact ⟨rest ++ back, rest, hrest, rfl⟩

/-- A text has no placeholder, or it has a first one. -/
theorem exists_first (cs : List Char) : (∀ column, ¬ Mentions cs column) ∨
    ∃ before column after, cs = before ++ '<' :: (column ++ '>' :: after) ∧ IsColumn column ∧
      ∀ other, ¬ Mentions before other := by
  induction cs with
  | nil => exact Or.inl not_mentions_nil
  | cons c cs ih =>
      rcases htake : takePlaceholder (c :: cs) with _ | ⟨column, after⟩
      · rcases ih with hnone | ⟨before, column, after, rfl, hcolumn, hbefore⟩
        · refine Or.inl fun column hmention => ?_
          rcases mentions_cons_iff.mp hmention with ⟨after, hafter⟩ | hrest
          · rw [htake] at hafter
            cases hafter
          · exact hnone column hrest
        · refine Or.inr ⟨c :: before, column, after, rfl, hcolumn, fun other hmention => ?_⟩
          rcases mentions_cons_iff.mp hmention with ⟨rest, hrest⟩ | hmention
          · -- A placeholder at the head of what stands before would be one at the head of all.
            have hcut : Separate (c :: before) ('<' :: (column ++ '>' :: after)) :=
              separate_of_head not_isColumnChar_open (by decide) _ _
            have hnone := (takePlaceholder_append_eq_none_iff hcut (List.cons_ne_nil c before)).mp htake
            rw [hnone] at hrest
            cases hrest
          · exact hbefore other hmention
      · rcases takePlaceholder_eq_some_iff.mp htake with ⟨hcolumn, heq⟩
        exact Or.inr ⟨[], column, after, heq, hcolumn, not_mentions_nil⟩

/-! ## Filling -/

/-- A text with its placeholders replaced: what stands between them is left as it is, and each of them is
    replaced by the value of its column, which is not read again. -/
inductive Filled (row : Example) : List Char → List Char → Prop
  | plain {cs : List Char} (bare : ∀ column, ¬ Mentions cs column) : Filled row cs cs
  | next {before column after filled : List Char} {value : String}
      (bare : ∀ other, ¬ Mentions before other) (name : IsColumn column)
      (held : row.lookup (String.ofList column) = some value) (rest : Filled row after filled) :
      Filled row (before ++ '<' :: (column ++ '>' :: after)) (before ++ (value.toList ++ filled))

/-- Texts are filled piece by piece, if no placeholder stands across the cut. -/
theorem fillFrom_append {front back : List Char} (h : Separate front back) :
    fillFrom row 0 (front ++ back) = do
      let filled ← fillFrom row 0 front
      return filled ++ (← fillFrom row 0 back) := by
  -- A placeholder is passed over as a whole, so the induction is on the length of what is left.
  induction hn : front.length using Nat.strong_induction_on generalizing front with
  | _ n ih =>
    cases front with
    | nil =>
        rw [List.nil_append, fillFrom, ok_bind]
        simp only [List.nil_append, bind_pure]
    | cons c front =>
        rcases htake : takePlaceholder (c :: front) with _ | ⟨column, rest⟩
        · have hnone : takePlaceholder (c :: (front ++ back)) = none :=
            (takePlaceholder_append_eq_none_iff h (List.cons_ne_nil c front)).mpr htake
          rw [List.cons_append, fillFrom, fillFrom, hnone, htake]
          simp only [ih front.length (by rw [← hn]; exact Nat.lt_succ_self _) h.of_cons rfl]
          rcases fillFrom row 0 front with e | filled <;> rcases fillFrom row 0 back with e | more <;> rfl
        · rcases takePlaceholder_eq_some_iff.mp htake with ⟨hcolumn, heq⟩
          have hrest : Separate rest back := by
            rw [heq, List.append_cons, ← List.cons_append] at h
            exact h.of_append
          have hshort : rest.length < n := by
            rw [← hn, heq]
            simp only [List.length_cons, List.length_append]
            omega
          rw [heq, List.cons_append, List.append_assoc, List.cons_append]
          -- Without the column neither text can be filled, and with it both go on behind the value.
          rcases hheld : row.lookup (String.ofList column) with _ | value
          · rw [fillFrom, fillFrom, takePlaceholder_eq hcolumn.named hcolumn.letters,
              takePlaceholder_eq hcolumn.named hcolumn.letters]
            simp only [hheld, error_bind]
          · rw [fillFrom_placeholder hcolumn.named hcolumn.letters hheld,
              fillFrom_placeholder hcolumn.named hcolumn.letters hheld, ih _ hshort hrest rfl]
            rcases fillFrom row 0 rest with e | filled <;> rcases fillFrom row 0 back with e | more
            · rfl
            · rfl
            · rfl
            · simp [Except.map, bind, Except.bind, pure, Except.pure]

/-- A text without placeholders stays. -/
theorem fillFrom_of_bare {cs : List Char} (h : ∀ column, ¬ Mentions cs column) :
    fillFrom row 0 cs = .ok cs := by
  induction cs with
  | nil => rfl
  | cons c cs ih =>
      have hnone : takePlaceholder (c :: cs) = none := by
        by_contra hsome
        rcases Option.ne_none_iff_exists'.mp hsome with ⟨⟨column, after⟩, hafter⟩
        exact h column (mentions_cons_iff.mpr (Or.inl ⟨after, hafter⟩))
      rw [fillFrom, hnone]
      simp only [ih fun column hmention => h column (mentions_cons_iff.mpr (Or.inr hmention)),
        Except.map]

/-- The first placeholder of a text is replaced, and the text after it is filled. -/
theorem fillFrom_first {before column : List Char} (hbefore : ∀ other, ¬ Mentions before other)
    (hcolumn : IsColumn column) (after : List Char) :
    fillFrom row 0 (before ++ '<' :: (column ++ '>' :: after)) =
      match row.lookup (String.ofList column) with
      | some value => (fillFrom row 0 after).map fun filled => before ++ (value.toList ++ filled)
      | none => .error (String.ofList column) := by
  rw [fillFrom_append (separate_of_head not_isColumnChar_open (by decide) _ _), fillFrom_of_bare hbefore,
    ok_bind]
  rcases hheld : row.lookup (String.ofList column) with _ | value
  · rw [fillFrom, takePlaceholder_eq hcolumn.named hcolumn.letters]
    simp only [hheld, error_bind]
  · rw [fillFrom_placeholder hcolumn.named hcolumn.letters hheld]
    rcases fillFrom row 0 after with e | filled <;> rfl

/-- What characters are filled to. -/
theorem fillFrom_eq_ok_iff {cs filled : List Char} :
    fillFrom row 0 cs = .ok filled ↔ Filled row cs filled := by
  constructor
  · intro h
    -- The text behind the first placeholder is shorter, whatever is put in its place.
    induction hn : cs.length using Nat.strong_induction_on generalizing cs filled with
    | _ n ih =>
      rcases exists_first cs with hbare | ⟨before, column, after, rfl, hcolumn, hbefore⟩
      · rw [fillFrom_of_bare hbare, Except.ok.injEq] at h
        exact h ▸ .plain hbare
      · rw [fillFrom_first hbefore hcolumn] at h
        split at h
        · rename_i value hheld
          rcases hafter : fillFrom row 0 after with e | rest
          · rw [hafter] at h
            cases h
          · rw [hafter] at h
            cases h
            refine .next hbefore hcolumn hheld (ih after.length ?_ hafter rfl)
            rw [← hn, List.length_append, List.length_cons, List.length_append, List.length_cons]
            omega
        · cases h
  · intro h
    induction h with
    | plain bare => exact fillFrom_of_bare bare
    | next bare name held rest ih => rw [fillFrom_first bare name, held, ih]; rfl

/-- What a text is filled to. -/
theorem fill_eq_ok_iff_filled {text filled : String} :
    fill row text = .ok filled ↔ Filled row text.toList filled.toList := by
  rw [fill_eq_ok_iff, fillFrom_eq_ok_iff]

/-- The placeholders of a text from the first one on. -/
theorem mentions_first_iff {before column : List Char} (hbefore : ∀ other, ¬ Mentions before other)
    (hcolumn : IsColumn column) (after other : List Char) :
    Mentions (before ++ '<' :: (column ++ '>' :: after)) other ↔
      other = column ∨ Mentions after other := by
  -- A name can neither hold a placeholder nor begin one.
  have hopen : '<' ∉ column := by
    intro hmem
    have := hcolumn.letters _ hmem
    rw [not_isColumnChar_open] at this
    cases this
  have hhead := takePlaceholder_eq hcolumn.named hcolumn.letters after
  have hnone : ∀ rest, takePlaceholder ('>' :: rest) = none := fun rest => rfl
  have hplain : ¬ Mentions column other := by
    rintro ⟨-, front, back, rfl⟩
    exact hopen (List.mem_append_right front List.mem_cons_self)
  rw [mentions_append_iff (separate_of_head not_isColumnChar_open (by decide) _ _),
    mentions_cons_iff, mentions_append_iff (separate_of_not_mem hopen _), mentions_cons_iff, hhead]
  simp only [hbefore other, hplain, hnone, false_or, Option.some.injEq, Prod.mk.injEq, reduceCtorEq,
    exists_false, exists_and_left, exists_eq', and_true, eq_comm]

/-- Characters can be filled where the example has the columns of all their placeholders. -/
theorem exists_fillFrom_iff {cs : List Char} : (∃ filled, fillFrom row 0 cs = .ok filled) ↔
    ∀ column, Mentions cs column → ∃ value, row.lookup (String.ofList column) = some value := by
  induction hn : cs.length using Nat.strong_induction_on generalizing cs with
  | _ n ih =>
    rcases exists_first cs with hbare | ⟨before, column, after, rfl, hcolumn, hbefore⟩
    · simp only [fillFrom_of_bare hbare, Except.ok.injEq, exists_eq', hbare, false_implies, implies_true]
    · have hshort : after.length < n := by
        rw [← hn, List.length_append, List.length_cons, List.length_append, List.length_cons]
        omega
      simp only [mentions_first_iff hbefore hcolumn, forall_eq_or_imp, ← ih _ hshort rfl,
        fillFrom_first hbefore hcolumn]
      rcases row.lookup (String.ofList column) with _ | value
      · simp only [reduceCtorEq, exists_false, false_and]
      · rcases fillFrom row 0 after with e | rest <;> simp [Except.map]

/-- A text can be filled where the example has the columns of all its placeholders. -/
theorem exists_fill_iff {text : String} : (∃ filled, fill row text = .ok filled) ↔
    ∀ column, Mentions text.toList column →
      ∃ value, row.lookup (String.ofList column) = some value := by
  rw [← exists_fillFrom_iff]
  constructor
  · rintro ⟨filled, h⟩
    exact ⟨_, fill_eq_ok_iff.mp h⟩
  · rintro ⟨filled, h⟩
    exact ⟨String.ofList filled, fill_eq_ok_iff.mpr (by rwa [String.toList_ofList])⟩

end Assay.Template
