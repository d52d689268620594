import Mathlib
import Assay.Text.Blank
import Assay.Text.Digit
import Assay.Text.Search

/-!
# Texts that are cut

What the pieces of a text are when it is cut at a mark, or freed of the blanks at its ends: each cut
is undone by putting the pieces together again, and what a mark does not occur in is not cut by it.

## Theorems

* `dropFront?_eq_some_iff`: What follows the front of a text.
* `partitionChars_eq_some_iff`, `partitionLastChars_eq_some_iff`: The two sides of the first mark of
  a text, and those of the last.
* `exists_of_append_eq_append_cons`, `mem_takeWhile_of_not_mem`, `takeWhile_append_of_mem`: Where a mark
  stands in texts put together.
* `splitChars_append_cons`, `splitChars_append`: The pieces of texts put together, with a mark
  between them and without one.
* `takeWhile_stretch`, `dropWhile_stretch`: Where a stretch of characters of a kind ends.
* `intercalate_cons_eq`, `mem_intercalate_iff`: Pieces with a mark between them.
* `splitChars_of_not_mem`, `stripChars_eq_self_iff`: Texts that are left as they are.
* `strip_strip`: A text that was stripped is.
-/

namespace Assay.Text

/-! ## Marks -/

theorem dropFront?_eq_some_iff {front cs after : List Char} :
    dropFront? front cs = some after ↔ cs = front ++ after := by
  induction front generalizing cs with
  | nil => simp only [dropFront?, Option.some.injEq, List.nil_append]
  | cons p ps ih =>
      cases cs with
      | nil => simp only [dropFront?, reduceCtorEq, List.cons_append]
      | cons c cs =>
          rw [dropFront?]
          by_cases h : p = c
          · rw [if_pos h, ih, List.cons_append, List.cons.injEq, h]
            simp only [true_and]
          · rw [if_neg h, List.cons_append, List.cons.injEq]
            simp only [reduceCtorEq, Ne.symm h, false_and]

/-- Whether a text that is written out holds a character is read off its characters. -/
theorem notMem_toList_ofList {c : Char} {cs : List Char} (h : c ∉ cs) :
    c ∉ (String.ofList cs).toList := by
  rwa [String.toList_ofList]

theorem partitionChars_append {mark : Char} {before : List Char} (h : mark ∉ before)
    (after : List Char) : partitionChars mark (before ++ mark :: after) = some (before, after) := by
  induction before with
  | nil => rw [List.nil_append, partitionChars, if_pos rfl]
  | cons c before ih =>
      rw [List.mem_cons, not_or] at h
      rw [List.cons_append, partitionChars, if_neg (Ne.symm h.1), ih h.2]
      rfl

theorem eq_append_of_partitionChars {mark : Char} {cs before after : List Char}
    (h : partitionChars mark cs = some (before, after)) :
    cs = before ++ mark :: after ∧ mark ∉ before := by
  induction cs generalizing before with
  | nil => cases h
  | cons c cs ih =>
      rw [partitionChars] at h
      by_cases hc : c = mark
      · rw [if_pos hc] at h
        cases h
        exact ⟨by rw [hc, List.nil_append], List.not_mem_nil⟩
      · rw [if_neg hc] at h
        rcases Option.map_eq_some_iff.mp h with ⟨⟨front, back⟩, hfound, heq⟩
        cases heq
        rcases ih hfound with ⟨rfl, hfront⟩
        exact ⟨rfl, List.not_mem_cons_of_ne_of_not_mem (Ne.symm hc) hfront⟩

/-- The first mark of a text has no mark before it. -/
theorem partitionChars_eq_some_iff {mark : Char} {cs before after : List Char} :
    partitionChars mark cs = some (before, after) ↔
      cs = before ++ mark :: after ∧ mark ∉ before := by
  refine ⟨eq_append_of_partitionChars, ?_⟩
  rintro ⟨rfl, h⟩
  exact partitionChars_append h after

theorem partitionChars_ne_none {mark : Char} {cs : List Char} (h : mark ∈ cs) :
    partitionChars mark cs ≠ none := by
  rcases List.eq_append_cons_of_mem h with ⟨before, after, rfl, hbefore⟩
  rw [partitionChars_append hbefore]
  exact Option.some_ne_none _

/-- The last mark of a text has no mark after it. -/
theorem partitionLastChars_eq_some_iff {mark : Char} {cs before after : List Char} :
    partitionLastChars mark cs = some (before, after) ↔
      cs = before ++ mark :: after ∧ mark ∉ after := by
  unfold partitionLastChars
  rw [Option.map_eq_some_iff]
  constructor
  · rintro ⟨⟨back, front⟩, hcut, heq⟩
    cases heq
    -- The last mark is the first from the other end.
    rcases partitionChars_eq_some_iff.mp hcut with ⟨hcs, hback⟩
    rw [List.reverse_eq_iff] at hcs
    rw [List.mem_reverse]
    exact ⟨by simpa using hcs, hback⟩
  · rintro ⟨rfl, hafter⟩
    refine ⟨(after.reverse, before.reverse), partitionChars_eq_some_iff.mpr ⟨?_, ?_⟩, ?_⟩
    · simp
    · rwa [List.mem_reverse]
    · simp

theorem partitionLastChars_ne_none {mark : Char} {cs : List Char} (h : mark ∈ cs) :
    partitionLastChars mark cs ≠ none := by
  unfold partitionLastChars
  rw [ne_eq, Option.map_eq_none_iff]
  exact partitionChars_ne_none (List.mem_reverse.mpr h)

theorem splitChars_of_not_mem {mark : Char} {cs : List Char} (h : mark ∉ cs) :
    splitChars mark cs = [cs] := by
  induction cs with
  | nil => rfl
  | cons c rest ih =>
      rw [List.mem_cons, not_or] at h
      rw [splitChars, if_neg (Ne.symm h.1), ih h.2]

theorem splitChars_ne_nil (mark : Char) (cs : List Char) : splitChars mark cs ≠ [] := by
  cases cs with
  | nil => exact List.cons_ne_nil _ _
  | cons c rest =>
      unfold splitChars
      split
      · exact List.cons_ne_nil _ _
      · split
        · exact List.cons_ne_nil _ _
        · exact List.cons_ne_nil _ _

/-- A mark between two texts keeps their pieces apart. -/
theorem splitChars_append_cons (mark : Char) (cs rest : List Char) :
    splitChars mark (cs ++ mark :: rest) = splitChars mark cs ++ splitChars mark rest := by
  induction cs with
  | nil => simp only [splitChars, List.nil_append, if_true, List.singleton_append]
  | cons c cs ih =>
      rw [List.cons_append, splitChars, splitChars, ih]
      by_cases h : c = mark
      · rw [if_pos h, if_pos h, List.cons_append]
      · rw [if_neg h, if_neg h]
        rcases hpieces : splitChars mark cs with _ | ⟨piece, pieces⟩
        · exact absurd hpieces (splitChars_ne_nil mark cs)
        · rfl

/-- A text without a mark only makes the first piece longer. -/
theorem splitChars_append {mark : Char} {front : List Char} (h : mark ∉ front) (cs : List Char) :
    splitChars mark (front ++ cs) =
      (front ++ (splitChars mark cs).headD []) :: (splitChars mark cs).tail := by
  induction front with
  | nil =>
      rcases hpieces : splitChars mark cs with _ | ⟨piece, pieces⟩
      · exact absurd hpieces (splitChars_ne_nil mark cs)
      · rw [List.nil_append, hpieces]
        rfl
  | cons c rest ih =>
      rw [List.mem_cons, not_or] at h
      rw [List.cons_append, splitChars, if_neg (Ne.symm h.1), ih h.2]
      rfl

/-- A mark that stands in two texts put together, and not in the second, stands in the first. -/
theorem exists_of_append_eq_append_cons {mark : Char} {cs piece before after : List Char}
    (hpiece : mark ∉ piece) (h : cs ++ piece = before ++ mark :: after) :
    ∃ between, cs = before ++ mark :: between := by
  -- The first text ends before the mark, at it, or behind it.
  rcases List.append_eq_append_iff.mp h with ⟨between, -, hin⟩ | ⟨between, hcs, hout⟩
  · refine absurd ?_ hpiece
    rw [hin]
    exact List.mem_append_right _ List.mem_cons_self
  · rcases List.cons_eq_append_iff.mp hout with ⟨-, hin⟩ | ⟨between, rfl, -⟩
    · refine absurd ?_ hpiece
      rw [hin]
      exact List.mem_cons_self
    · exact ⟨between, hcs⟩

/-- What stands before the first mark is kept up to the mark. -/
theorem mem_takeWhile_of_not_mem {mark c : Char} {before after : List Char} (hbefore : mark ∉ before)
    (hc : c ≠ mark) : c ∈ (before ++ c :: after).takeWhile (· != mark) := by
  have hkept : ∀ d ∈ before, (d != mark) = true := by
    intro d hd
    rw [bne_iff_ne]
    exact fun heq => hbefore (heq ▸ hd)
  rw [List.takeWhile_append_of_pos hkept, List.takeWhile_cons_of_pos (by rwa [bne_iff_ne])]
  exact List.mem_append_right _ List.mem_cons_self

/-- A line that ends in the first of two texts does not reach the second. -/
theorem takeWhile_append_of_mem {mark : Char} {front : List Char} (h : mark ∈ front) (back : List Char) :
    (front ++ back).takeWhile (· != mark) = front.takeWhile (· != mark) := by
  induction front with
  | nil => cases h
  | cons c front ih =>
      by_cases hc : c = mark
      · rw [hc, List.cons_append, List.takeWhile_cons_of_neg (by simp), List.takeWhile_cons_of_neg (by simp)]
      · rw [List.cons_append, List.takeWhile_cons, List.takeWhile_cons,
          ih ((List.mem_cons.mp h).resolve_left (Ne.symm hc))]

section Stretch

variable {p : Char → Bool} {front rest : List Char}

/-- A stretch of characters of a kind ends where what follows is of another kind. -/
theorem takeWhile_stretch (hfront : ∀ c ∈ front, p c = true) (hrest : ∀ c ∈ rest.head?, p c = false) :
    (front ++ rest).takeWhile p = front := by
  rw [List.takeWhile_append_of_pos hfront]
  cases rest with
  | nil => simp
  | cons c rest => rw [List.takeWhile_cons_of_neg (by simp [hrest c rfl]), List.append_nil]

theorem dropWhile_stretch (hfront : ∀ c ∈ front, p c = true) (hrest : ∀ c ∈ rest.head?, p c = false) :
    (front ++ rest).dropWhile p = rest := by
  rw [List.dropWhile_append_of_pos hfront]
  cases rest with
  | nil => rfl
  | cons c rest => rw [List.dropWhile_cons_of_neg (by simp [hrest c rfl])]

end Stretch

/-- Pieces with a mark between them are one piece and then each of the others behind its mark. -/
theorem intercalate_cons_eq (mark piece : List Char) (pieces : List (List Char)) :
    mark.intercalate (piece :: pieces) = piece ++ pieces.flatMap (mark ++ ·) := by
  induction pieces generalizing piece with
  | nil => simp [List.intercalate]
  | cons next pieces ih =>
      rw [List.intercalate_cons_cons, ih, List.flatMap_cons, List.append_assoc, List.append_assoc]

theorem mem_intercalate_iff {mark : List Char} {pieces : List (List Char)} {c : Char} (h : c ∉ mark) :
    c ∈ mark.intercalate pieces ↔ ∃ piece ∈ pieces, c ∈ piece := by
  cases pieces with
  | nil => simp [List.intercalate]
  | cons piece pieces =>
      rw [intercalate_cons_eq, List.mem_append, List.mem_flatMap]
      simp only [List.mem_append, h, false_or, List.mem_cons, exists_eq_or_imp]

/-! ## Blanks -/

theorem dropWhile_isBlank_eq_self_iff {cs : List Char} :
    cs.dropWhile isBlank = cs ↔ ∀ c ∈ cs.head?, isBlank c = false := by
  rw [List.dropWhile_eq_self_iff]
  cases cs with
  | nil => simp
  | cons c rest => simp

/-- Stripping leaves a text as it is that neither begins nor ends with a blank. -/
theorem stripChars_eq_self_iff {cs : List Char} : stripChars cs = cs ↔
    (∀ c ∈ cs.head?, isBlank c = false) ∧ ∀ c ∈ cs.getLast?, isBlank c = false := by
  have hend : ∀ {cs : List Char}, stripEndChars cs = cs ↔ ∀ c ∈ cs.getLast?, isBlank c = false := by
    intro cs
    rw [stripEndChars, List.reverse_eq_iff, dropWhile_isBlank_eq_self_iff, List.head?_reverse]
  rw [← dropWhile_isBlank_eq_self_iff, ← hend, stripChars]
  constructor
  · intro h
    -- What is stripped at the one end cannot be made up for at the other.
    have hfront : cs.dropWhile isBlank = cs := by
      refine (List.dropWhile_sublist isBlank).eq_of_length_le ?_
      calc cs.length = (stripEndChars (cs.dropWhile isBlank)).length := by rw [h]
        _ ≤ (cs.dropWhile isBlank).reverse.length := by
            rw [stripEndChars, List.length_reverse]
            exact (List.dropWhile_sublist isBlank).length_le
        _ = (cs.dropWhile isBlank).length := List.length_reverse
    rw [hfront] at h
    exact ⟨hfront, h⟩
  · rintro ⟨hfront, hback⟩
    rw [hfront, hback]

/-- What is stripped neither begins nor ends with a blank. -/
theorem stripChars_stripChars (cs : List Char) : stripChars (stripChars cs) = stripChars cs := by
  have hdrop : ∀ {ds : List Char}, ∀ c ∈ (ds.dropWhile isBlank).head?, isBlank c = false := by
    intro ds c hc
    have hnot := List.head?_dropWhile_not isBlank ds
    rw [Option.mem_def.mp hc] at hnot
    exact hnot
  rw [stripChars_eq_self_iff]
  constructor
  · intro c hc
    -- The end is taken off what is left of the front, so the first character is the same.
    have hkept : stripEndChars (cs.dropWhile isBlank) <+: cs.dropWhile isBlank := by
      rw [stripEndChars, ← List.reverse_suffix, List.reverse_reverse]
      exact List.dropWhile_suffix isBlank
    rcases hkept with ⟨rest, hrest⟩
    have hhead : (cs.dropWhile isBlank).head? = some c := by
      rw [← hrest, List.head?_append]
      exact Option.or_eq_some_iff.mpr (Or.inl hc)
    exact hdrop c hhead
  · intro c hc
    rw [stripChars, stripEndChars, List.getLast?_reverse] at hc
    exact hdrop c hc

/-- What is left after stripping was there before, from whichever end the blanks were taken. -/
theorem mem_of_mem_stripChars {c : Char} {cs : List Char} (h : c ∈ stripChars cs) : c ∈ cs := by
  rw [stripChars, stripEndChars, List.mem_reverse] at h
  have hend : c ∈ cs.dropWhile isBlank := List.mem_reverse.mp ((List.dropWhile_sublist isBlank).mem h)
  exact (List.dropWhile_sublist isBlank).mem hend

theorem strip_strip (s : String) : strip (strip s) = strip s := by
  rw [strip, strip, String.toList_ofList, stripChars_stripChars]

theorem strip_eq_self_iff {s : String} : strip s = s ↔ stripChars s.toList = s.toList := by
  rw [strip, ← String.toList_inj, String.toList_ofList]

theorem stripChars_of_not_blank {cs : List Char} (h : ∀ c ∈ cs, isBlank c = false) :
    stripChars cs = cs :=
  stripChars_eq_self_iff.mpr
    ⟨fun c hc => h c (List.mem_of_mem_head? hc), fun c hc => h c (List.mem_of_mem_getLast? hc)⟩

theorem isBlank_of_isAsciiDigit {c : Char} (h : isAsciiDigit c = true) : isBlank c = false := by
  simp only [isAsciiDigit, Bool.and_eq_true, decide_eq_true_eq, Char.le_def,
    UInt32.le_iff_toNat_le] at h
  have hlow : 48 ≤ c.toNat := h.1
  have hhigh : c.toNat ≤ 57 := h.2
  simp only [isBlank, Bool.or_eq_false_iff, Bool.and_eq_false_iff, decide_eq_false_iff_not,
    beq_eq_false_iff_ne]
  omega

end Assay.Text
