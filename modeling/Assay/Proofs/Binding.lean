import Assay.Proofs.Text
import Assay.Rule.Script

/-!
# Step texts and their checks

A text has at most one form. The forms differ in what stands outside of quotation marks, and the
arguments, which have no quotation marks, cannot change that: whatever they are, the marks around
them tell where the fixed words end and begin. So the form of a text is settled by its outline, the
text without what is quoted in it, and no outline of one form begins an outline of another.

A text may be read as a form whose remark takes in the rest of it, quotation marks and all, so only
the beginning of its outline is known. The end of a text counts as a part of its outline for the
forms that account for the whole of it; without that the shortest forms would begin longer ones.

## Main definitions

* `unquoted`: A text without what is quoted in it.
* `Phrase.outlines`: How the outlines of a phrase's texts begin.
* `Phrase.Apart`: No text has both of two phrases.
* `Phrase.Fits`: Arguments that can be told apart once they are filled in.

## Theorems

* `exists_outline_of_read`: A text that has a phrase begins as the phrase's outlines do.
* `forms_apart`: The forms of the checks are apart.
* `Phrase.read?_fill`: A phrase reads the arguments that it was filled with.
* `Check.ofText_of_read`: A text that has a form is bound to the check of that form.
-/

namespace Assay

open Text

/-! ## Outlines -/

/-- What stands outside of quotation marks, the marks included; `inside` says whether one is open
    already. -/
def unquoted : Bool → List Char → List Char
  | _, [] => []
  | inside, c :: cs =>
    if c = '"' then c :: unquoted (!inside) cs
    else if inside then unquoted inside cs else c :: unquoted inside cs

/-- Words without quotation marks stand outside of them. -/
theorem unquoted_words {words : List Char} (h : '"' ∉ words) (cs : List Char) :
    unquoted false (words ++ cs) = words ++ unquoted false cs := by
  induction words with
  | nil => rfl
  | cons c words ih =>
      rw [List.mem_cons, not_or] at h
      rw [List.cons_append, unquoted, if_neg (Ne.symm h.1), ih h.2]
      simp only [Bool.false_eq_true, if_false, List.cons_append]

/-- What a pair of quotation marks holds is left out. -/
theorem unquoted_argument {argument : List Char} (h : '"' ∉ argument) (cs : List Char) :
    unquoted false ('"' :: (argument ++ '"' :: cs)) = '"' :: '"' :: unquoted false cs := by
  have hopen : unquoted true (argument ++ '"' :: cs) = '"' :: unquoted false cs := by
    induction argument with
    | nil => rfl
    | cons c argument ih =>
        rw [List.mem_cons, not_or] at h
        rw [List.cons_append, unquoted, if_neg (Ne.symm h.1), if_pos rfl, ih h.2]
  rw [unquoted, if_pos rfl, Bool.not_false, hopen]

/-! ## Reading piece by piece -/

namespace Phrase

variable {rest : Phrase} {cs : List Char} {arguments : List String}

theorem readChars?_nil_iff : readChars? [] cs = some arguments ↔ cs = [] ∧ arguments = [] := by
  cases cs <;> simp [readChars?, eq_comm]

theorem readChars?_words_iff {text : String} :
    readChars? (.words text :: rest) cs = some arguments ↔
      ∃ after, cs = text.toList ++ after ∧ readChars? rest after = some arguments := by
  simp only [readChars?, Option.bind_eq_some_iff, dropFront?_eq_some_iff]

theorem readChars?_argument_iff : readChars? (.argument :: rest) cs = some arguments ↔
    ∃ argument after others, '"' ∉ argument ∧ cs = '"' :: (argument ++ '"' :: after) ∧
      readChars? rest after = some others ∧ arguments = String.ofList argument :: others := by
  constructor
  · intro h
    unfold readChars? at h
    split at h
    · rename_i inner
      split at h
      · rename_i argument after hcut
        rcases Option.map_eq_some_iff.mp h with ⟨others, hafter, rfl⟩
        rcases partitionChars_eq_some_iff.mp hcut with ⟨rfl, hmark⟩
        exact ⟨argument, after, others, hmark, rfl, hafter, rfl⟩
      · cases h
    · cases h
  · rintro ⟨argument, after, others, hmark, rfl, hafter, rfl⟩
    have hcut : partitionChars '"' (argument ++ '"' :: after) = some (argument, after) :=
      partitionChars_eq_some_iff.mpr ⟨rfl, hmark⟩
    simp only [readChars?, hcut, hafter, Option.map_some]

/-- The longer word is tried first, so the shorter one is only read where no further letter follows. -/
theorem readChars?_article (h : cs.head? ≠ some 'n') :
    readChars? (.article :: rest) ('a' :: cs) = readChars? rest cs := by
  conv_lhs => unfold readChars?
  split
  · rename_i heq
    cases heq
    exact absurd rfl h
  · rename_i heq
    cases heq
    rfl
  · rename_i hother
    exact absurd rfl (hother cs)

theorem readChars?_article_cases (h : readChars? (.article :: rest) cs = some arguments) :
    (∃ after, cs = 'a' :: 'n' :: after ∧ readChars? rest after = some arguments) ∨
      ∃ after, cs = 'a' :: after ∧ readChars? rest after = some arguments := by
  unfold readChars? at h
  split at h
  · exact Or.inl ⟨_, rfl, h⟩
  · exact Or.inr ⟨_, rfl, h⟩
  · cases h

theorem readChars?_remark_iff : readChars? (.remark :: rest) cs = some arguments ↔
    '\n' ∉ cs ∧ readChars? rest [] = some arguments := by
  rw [readChars?]
  split <;> simp_all

end Phrase

/-! ## Outlines of phrases -/

namespace Phrase

/-- How the outlines of a phrase's texts begin: `none` is the end of a text, and a remark leaves open
    what follows. -/
def outlines : Phrase → List (List (Option Char))
  | [] => [[none]]
  | .words text :: rest => (outlines rest).map (text.toList.map some ++ ·)
  | .argument :: rest => (outlines rest).map ([some '"', some '"'] ++ ·)
  | .article :: rest =>
    (outlines rest).map ([some 'a', some 'n'] ++ ·) ++ (outlines rest).map ([some 'a'] ++ ·)
  | .remark :: _ => [[]]

/-- No words of a phrase have quotation marks. -/
def isUnmarked (p : Phrase) : Bool :=
  p.all fun
    | .words text => !text.toList.contains '"'
    | _ => true

/-- No outline of one phrase begins one of the other. -/
def Apart (p q : Phrase) : Prop :=
  ∀ a ∈ p.outlines, ∀ b ∈ q.outlines, ¬ a <+: b ∧ ¬ b <+: a

instance (p q : Phrase) : Decidable (p.Apart q) :=
  inferInstanceAs (Decidable (∀ a ∈ p.outlines, ∀ b ∈ q.outlines, ¬ a <+: b ∧ ¬ b <+: a))

/-- The outline of a text, with its end. -/
def outlineOf (cs : List Char) : List (Option Char) :=
  (unquoted false cs).map some ++ [none]

/-- A text that has a phrase begins as the phrase's outlines do. -/
theorem exists_outline_of_read {p : Phrase} (hp : p.isUnmarked = true) {cs : List Char}
    {arguments : List String} (h : p.readChars? cs = some arguments) :
    ∃ a ∈ p.outlines, a <+: outlineOf cs := by
  induction p generalizing cs arguments with
  | nil =>
      rw [(readChars?_nil_iff.mp h).1]
      exact ⟨[none], List.mem_cons_self, List.prefix_rfl⟩
  | cons piece rest ih =>
      rw [isUnmarked, List.all_cons, Bool.and_eq_true] at hp
      cases piece with
      | words text =>
          rcases readChars?_words_iff.mp h with ⟨after, rfl, hrest⟩
          rcases ih hp.2 hrest with ⟨a, ha, hprefix⟩
          refine ⟨_, List.mem_map_of_mem ha, ?_⟩
          have hwords : '"' ∉ text.toList := by simpa using hp.1
          rw [outlineOf, unquoted_words hwords, List.map_append, List.append_assoc]
          exact (List.prefix_append_right_inj _).mpr hprefix
      | argument =>
          rcases readChars?_argument_iff.mp h with ⟨argument, after, others, hmark, rfl, hrest, -⟩
          rcases ih hp.2 hrest with ⟨a, ha, hprefix⟩
          refine ⟨_, List.mem_map_of_mem ha, ?_⟩
          rw [outlineOf, unquoted_argument hmark]
          exact (List.prefix_append_right_inj [some '"', some '"']).mpr hprefix
      | article =>
          rcases readChars?_article_cases h with ⟨after, rfl, hrest⟩ | ⟨after, rfl, hrest⟩
          · rcases ih hp.2 hrest with ⟨a, ha, hprefix⟩
            refine ⟨_, List.mem_append_left _ (List.mem_map_of_mem ha), ?_⟩
            exact (List.prefix_append_right_inj [some 'a', some 'n']).mpr hprefix
          · rcases ih hp.2 hrest with ⟨a, ha, hprefix⟩
            refine ⟨_, List.mem_append_right _ (List.mem_map_of_mem ha), ?_⟩
            exact (List.prefix_append_right_inj [some 'a']).mpr hprefix
      -- What follows a remark is left open, so nothing is asked of it.
      | remark => exact ⟨[], List.mem_cons_self, List.nil_prefix⟩

/-- A text does not have two phrases that are apart. -/
theorem read_eq_none_of_apart {p q : Phrase} (hp : p.isUnmarked = true) (hq : q.isUnmarked = true)
    (hapart : p.Apart q) {text : String} {arguments : List String}
    (h : q.read? text = some arguments) : p.read? text = none := by
  by_contra hne
  rcases Option.ne_none_iff_exists'.mp hne with ⟨others, hread⟩
  rcases exists_outline_of_read hp hread with ⟨a, ha, hprefix⟩
  rcases exists_outline_of_read hq h with ⟨b, hb, hprefix'⟩
  -- Both begin the outline of the text, so one of them begins the other.
  rcases List.prefix_or_prefix_of_prefix hprefix hprefix' with hab | hba
  · exact (hapart a ha b hb).1 hab
  · exact (hapart a ha b hb).2 hba

/-! ## Reading what was filled in -/

/-- The arguments among those that a phrase is filled with. What is filled into a remark is none. -/
def given : Phrase → List String → List String
  | [], _ => []
  | .words _ :: rest, arguments => given rest arguments
  | .argument :: rest, arguments => arguments.headD "" :: given rest arguments.tail
  | .article :: rest, arguments => given rest arguments
  | .remark :: rest, arguments => given rest arguments.tail

/-- Arguments can be told apart again: none of them holds a quotation mark, a remark is the last and
    of one line, and what follows the article cannot be taken for a letter of it. -/
def Fits : Phrase → List String → Prop
  | [], _ => True
  | .words _ :: rest, arguments => Fits rest arguments
  | .argument :: rest, arguments => '"' ∉ (arguments.headD "").toList ∧ Fits rest arguments.tail
  | .article :: rest, arguments =>
    (fill rest arguments).toList.head? ≠ some 'n' ∧ Fits rest arguments
  | .remark :: rest, arguments => '\n' ∉ (arguments.headD "").toList ∧ rest = []

/-- A phrase reads the arguments that it was filled with. -/
theorem read?_fill {p : Phrase} {arguments : List String} (h : p.Fits arguments) :
    p.read? (p.fill arguments) = some (p.given arguments) := by
  induction p generalizing arguments with
  | nil => rfl
  | cons piece rest ih =>
      cases piece with
      | words text =>
          rw [fill, read?, String.toList_append, readChars?_words_iff]
          exact ⟨_, rfl, ih h⟩
      | argument =>
          have hmark : "\"".toList = ['"'] := String.toList_ofList
          rw [read?, readChars?_argument_iff, given]
          refine ⟨(arguments.headD "").toList, (fill rest arguments.tail).toList, _, h.1, ?_, ih h.2, ?_⟩
          · simp only [fill, String.toList_append, hmark, List.append_assoc, List.cons_append,
              List.nil_append]
          · rw [String.ofList_toList]
      | article =>
          have hletter : "a".toList = ['a'] := String.toList_ofList
          -- What follows the article begins with no letter of the longer word, so the shorter one is read.
          have hrest : readChars? rest (fill rest arguments).toList =
              some (given rest arguments) := ih h.2
          rw [fill, read?, String.toList_append, hletter, List.singleton_append,
            readChars?_article h.1, hrest, given]
      | remark =>
          rcases h with ⟨hline, rfl⟩
          rw [fill, fill, String.append_empty, read?, readChars?_remark_iff]
          exact ⟨hline, rfl⟩

end Phrase

/-! ## Binding -/

/-- The forms of the checks are apart, and have no quotation marks in their words. -/
theorem forms_apart : (∀ form ∈ Form.all, form.phrase.isUnmarked = true) ∧
    Form.all.Pairwise fun a b => a.phrase.Apart b.phrase :=
  ⟨by decide +kernel, by decide +kernel⟩

namespace Check

/-- Among forms that are apart, a text that has one of them is bound as if there were no other. -/
theorem ofTextIn_eq_of_read {forms : List Form}
    (hmarks : ∀ form ∈ forms, form.phrase.isUnmarked = true)
    (hapart : forms.Pairwise fun a b => a.phrase.Apart b.phrase) {form : Form}
    (hform : form ∈ forms) {text : String} {arguments : List String}
    (hread : form.phrase.read? text = some arguments) :
    ofTextIn text forms = ofTextIn text [form] := by
  induction forms with
  | nil => exact absurd hform List.not_mem_nil
  | cons first rest ih =>
      rcases List.mem_cons.mp hform with rfl | hmem
      · simp only [ofTextIn, hread]
      · have hother : first.phrase.read? text = none :=
          Phrase.read_eq_none_of_apart (hmarks first List.mem_cons_self) (hmarks form hform)
            (List.rel_of_pairwise_cons hapart hmem) hread
        rw [ofTextIn, hother]
        exact ih (fun other h => hmarks other (List.mem_cons_of_mem first h)) hapart.of_cons hmem

/-- A text that has a form is bound to the check that the form makes. -/
theorem ofText_of_read {form : Form} (hform : form ∈ Form.all) {text : String}
    {arguments : List String} {check : Check} (hread : form.phrase.read? text = some arguments)
    (hmake : form.make arguments = .ok check) : ofText text = .ok check := by
  rw [ofText, ofTextIn_eq_of_read forms_apart.1 forms_apart.2 hform hread]
  simp only [ofTextIn, hread, hmake]

end Check

/-- The step of a text that is a form of the table with its arguments filled in. -/
theorem Script.bindStep_fill (place : Nat) {form : Form} (hform : Form.all[place]? = some form)
    {text : String} (arguments : List String) {check : Check}
    (htext : form.phrase.fill arguments = text) (hfits : form.phrase.Fits arguments)
    (hmake : form.make (form.phrase.given arguments) = .ok check) :
    bindStep text = .ok ⟨text, check⟩ := by
  have hread : form.phrase.read? text = some (form.phrase.given arguments) := by
    rw [← htext]
    exact Phrase.read?_fill hfits
  rw [bindStep, Check.ofText_of_read (List.mem_of_getElem? hform) hread hmake]
  rfl

/-- The step of a text that is the phrase of a check without arguments. -/
theorem Script.bindStep_plain (place : Nat) {text : String} {check : Check}
    (hform : Form.all[place]? = some (.plain text check)) : bindStep text = .ok ⟨text, check⟩ :=
  bindStep_fill place hform [] String.append_empty trivial rfl

end Assay
