import Assay.Proofs.Text

/-!
# Texts that are searched

What searching and replacing come to, on lists of characters. A text occurs in another where it is a part
of it (`occursIn_iff`), and replacing leaves no occurrence behind, if what is put in its place can take no
part in one.

That is a matter of the ends. A replacement that begins and ends with characters which a word does not hold
cannot be joined to what stands next to it, so an occurrence of the word in the outcome is one in a
stretch that was left as it was. It was then there before, and for the replaced text itself there is no
such stretch, since the search would have stopped at it. Both cases are one induction
(`not_infix_replaceFrom`): it asks only that the word began nowhere but where the replaced text did.

## Main definitions

* `KeepsOut`: A text that takes no part in an occurrence of a word.

## Theorems

* `occursIn_iff`: Where a search succeeds.
* `infix_of_infix_append`: A part of two texts put together, where it cannot begin in the first.
* `not_infix_replaceFrom`: What replacing does not leave, and does not bring about.
* `replaceFrom_of_not_infix`: Texts that replacing leaves as they are.
-/

namespace Assay.Text

/-! ## Searching -/

theorem dropFront?_isSome_iff {front cs : List Char} :
    (dropFront? front cs).isSome = true ↔ front <+: cs := by
  rw [Option.isSome_iff_exists]
  refine exists_congr fun after => ?_
  rw [dropFront?_eq_some_iff, eq_comm]

theorem dropFront?_eq_none_iff {front cs : List Char} :
    dropFront? front cs = none ↔ ¬ front <+: cs := by
  rw [← dropFront?_isSome_iff, Bool.not_eq_true, Option.isSome_eq_false_iff, Option.isNone_iff_eq_none]

theorem occursInChars_iff {needle cs : List Char} :
    occursInChars needle cs = true ↔ needle <:+: cs := by
  induction cs with
  | nil => rw [occursInChars, List.isEmpty_iff, List.infix_nil]
  | cons c cs ih =>
      rw [occursInChars, Bool.or_eq_true, dropFront?_isSome_iff, ih, List.infix_cons_iff]

/-- A text occurs in another where it is a part of it. -/
theorem occursIn_iff {needle s : String} :
    occursIn needle s = true ↔ needle.toList <:+: s.toList :=
  occursInChars_iff

/-! ## Parts of texts put together -/

/-- A part that cannot begin in the first of two texts is a part of the second. -/
theorem infix_of_infix_append {word front cs : List Char} (hword : word ≠ [])
    (hfirst : ∀ c ∈ word.head?, c ∉ front) (h : word <:+: front ++ cs) : word <:+: cs := by
  induction front with
  | nil => exact h
  | cons d front ih =>
      rcases List.infix_cons_iff.mp h with hbegins | hpart
      · obtain ⟨w, rest, rfl⟩ := List.exists_cons_of_ne_nil hword
        rcases hbegins with ⟨after, hafter⟩
        rw [List.cons_append, List.cons.injEq] at hafter
        exact absurd (hafter.1 ▸ List.mem_cons_self) (hfirst w rfl)
      · exact ih (fun c hc hmem => hfirst c hc (List.mem_cons_of_mem d hmem)) hpart

/-- A part without the character between two texts is a part of one of them. -/
theorem infix_append_cons {word before after : List Char} {mark : Char} (hmark : mark ∉ word)
    (h : word <:+: before ++ mark :: after) : word <:+: before ∨ word <:+: after := by
  rcases h with ⟨front, back, heq⟩
  rcases List.append_eq_append_iff.mp heq with ⟨between, hbefore, -⟩ | ⟨between, hword, hback⟩
  · -- The word ends before the mark.
    exact Or.inl ⟨front, between, hbefore.symm⟩
  · rcases List.cons_eq_append_iff.mp hback with ⟨rfl, -⟩ | ⟨rest, rfl, rfl⟩
    · -- The word ends at the mark.
      exact Or.inl ⟨front, [], by rwa [List.append_nil] at hword ⊢⟩
    · -- The word begins behind it, since it would have to hold the mark otherwise.
      rcases List.append_eq_append_iff.mp hword with ⟨piece, -, hin⟩ | ⟨piece, -, hin⟩
      · exact absurd (hin ▸ List.mem_append_right _ List.mem_cons_self) hmark
      · rcases List.cons_eq_append_iff.mp hin with ⟨-, rfl⟩ | ⟨gap, -, rfl⟩
        · exact absurd List.mem_cons_self hmark
        · exact Or.inr ⟨gap, back, rfl⟩

/-- A text that takes no part in an occurrence of a word: the word does not occur in it, and holds
    neither its first nor its last character. -/
structure KeepsOut (word cs : List Char) : Prop where
  first : ∃ c ∈ cs.head?, c ∉ word
  last : ∃ c ∈ cs.getLast?, c ∉ word
  free : ¬ word <:+: cs

instance (word cs : List Char) : Decidable (KeepsOut word cs) :=
  decidable_of_iff
    (cs.head?.any (· ∉ word) = true ∧ cs.getLast?.any (· ∉ word) = true ∧ ¬ word <:+: cs) <| by
  simp only [Option.any_eq_true, decide_eq_true_eq]
  exact ⟨fun h => ⟨h.1, h.2.1, h.2.2⟩, fun h => ⟨h.first, h.last, h.free⟩⟩

theorem KeepsOut.infix_of_append {word front cs : List Char} (hkeeps : KeepsOut word front)
    (h : word <:+: front ++ cs) : word <:+: cs := by
  rcases hkeeps.last with ⟨mark, hlast, hmark⟩
  obtain ⟨before, rfl⟩ := List.getLast?_eq_some_iff.mp hlast
  rw [List.append_assoc, List.singleton_append] at h
  refine (infix_append_cons hmark h).resolve_left fun hbefore => hkeeps.free ?_
  exact hbefore.trans (List.prefix_append before [mark]).isInfix

/-! ## Replacing -/

/-- What an outcome begins with the text began with, if no replacement begins with it. -/
theorem prefix_of_prefix_replaceFrom {needle replacement word cs : List Char}
    (hfirst : ∃ c ∈ replacement.head?, c ∉ word)
    (h : word <+: replaceFrom needle replacement 0 cs) : word <+: cs := by
  induction word generalizing cs with
  | nil => exact List.nil_prefix
  | cons w ws ih =>
      rcases hfirst with ⟨d, hd, hnot⟩
      rw [List.mem_cons, not_or] at hnot
      cases cs with
      | nil => exact h
      | cons c cs =>
          rw [replaceFrom] at h
          -- Where the text was replaced the outcome begins with the replacement, whose first character is
          -- not in the word.
          rcases hfront : dropFront? needle (c :: cs) with _ | after
          · rw [hfront, List.cons_prefix_cons] at h
            exact List.cons_prefix_cons.mpr ⟨h.1, ih ⟨d, hd, hnot.2⟩ h.2⟩
          · obtain ⟨rest, rfl⟩ := List.head?_eq_some_iff.mp hd
            rw [hfront, List.cons_append, List.cons_prefix_cons] at h
            exact absurd h.1.symm hnot.1

/-- A word does not occur in an outcome if the replaced text began wherever it did, and no replacement
    takes part in it. -/
theorem not_infix_replaceFrom {needle replacement word cs : List Char} (hword : word ≠ [])
    (hkeeps : KeepsOut word replacement)
    (hneedle : ∀ rest, rest <:+ cs → word <+: rest → needle <+: rest) (skip : Nat) :
    ¬ word <:+: replaceFrom needle replacement skip cs := by
  induction cs generalizing skip with
  | nil =>
      rw [replaceFrom, List.infix_nil]
      exact hword
  | cons c cs ih =>
      have hthere : ∀ skip, ¬ word <:+: replaceFrom needle replacement skip cs :=
        ih fun rest hrest => hneedle rest (hrest.trans (List.suffix_cons c cs))
      cases skip with
      | succ skip =>
          rw [replaceFrom]
          exact hthere skip
      | zero =>
          by_cases hfront : needle <+: c :: cs
          · -- The search stops here, and the word is to be found behind what is put here.
            obtain ⟨after, hafter⟩ := Option.isSome_iff_exists.mp (dropFront?_isSome_iff.mpr hfront)
            rw [replaceFrom, hafter]
            exact fun hpart => hthere _ (hkeeps.infix_of_append hpart)
          · -- The search goes on, since the word does not begin here either.
            have hhere : ¬ word <+: replaceFrom needle replacement 0 (c :: cs) := fun hbegins =>
              hfront (hneedle _ List.suffix_rfl (prefix_of_prefix_replaceFrom hkeeps.first hbegins))
            rw [replaceFrom, dropFront?_eq_none_iff.mpr hfront] at hhere ⊢
            rw [List.infix_cons_iff, not_or]
            exact ⟨hhere, hthere 0⟩

/-- Replacing leaves a text as it is in which the replaced text does not occur. -/
theorem replaceFrom_of_not_infix {needle replacement cs : List Char} (h : ¬ needle <:+: cs) :
    replaceFrom needle replacement 0 cs = cs := by
  induction cs with
  | nil => rfl
  | cons c cs ih =>
      rw [List.infix_cons_iff, not_or] at h
      rw [replaceFrom, dropFront?_eq_none_iff.mpr h.1, ih h.2]

theorem replaceAll_of_not_infix {needle replacement s : String} (h : ¬ needle.toList <:+: s.toList) :
    replaceAll needle replacement s = s := by
  rw [replaceAll, replaceFrom_of_not_infix h, String.ofList_toList]

end Assay.Text
