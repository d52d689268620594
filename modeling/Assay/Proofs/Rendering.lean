import Assay.Proofs.Binding

/-!
# Texts of steps

The language in which rules ask for checks. A form writes a text by filling arguments without
quotation marks into its phrase; where the phrase has an article it may be either word, and a remark
may be anything up to the end of the line. Reading a text and writing one undo each other, for every
form on its own, and no text is written by two forms. So a text can be bound to one check only,
whatever the order in which the forms are tried.

The arguments alone do not always make a check. Three forms take a pattern, and a pattern that cannot
be read is reported with the text of the step. A pattern whose reading breaks off is not reported: the
binding of the step breaks off with it.

## Main definitions

* `Phrase.Writes`: The texts that a phrase writes with some arguments.
* `Check.place`: Where the form of a check stands among the forms.
* `patternArguments`: The arguments of a form that are patterns.
* `Form.Makes`: What a form makes of its arguments.

## Theorems

* `Phrase.readChars?_eq_some_iff`: A phrase reads what it writes, and nothing else.
* `Form.place_unique`: No text is written by two forms.
* `Check.ofTextIn_perm`: The order of the forms does not matter.
* `step_texts_bound`: A text of a step is bound to the form and the arguments that wrote it, unless one
  of them is a pattern that cannot be read.
-/

namespace Assay

open Text

/-! ## Writing -/

namespace Phrase

/-- The texts that a phrase writes with some arguments. -/
inductive Writes : Phrase → List String → List Char → Prop
  | done : Writes [] [] []
  | words {text : String} {rest : Phrase} {arguments : List String} {cs : List Char}
      (after : Writes rest arguments cs) : Writes (.words text :: rest) arguments (text.toList ++ cs)
  | argument {argument : String} {rest : Phrase} {arguments : List String} {cs : List Char}
      (unmarked : '"' ∉ argument.toList) (after : Writes rest arguments cs) :
      Writes (.argument :: rest) (argument :: arguments) ('"' :: (argument.toList ++ '"' :: cs))
  | a {rest : Phrase} {arguments : List String} {cs : List Char} (after : Writes rest arguments cs) :
      Writes (.article :: rest) arguments ('a' :: cs)
  | an {rest : Phrase} {arguments : List String} {cs : List Char} (after : Writes rest arguments cs) :
      Writes (.article :: rest) arguments ('a' :: 'n' :: cs)
  | remark {rest : Phrase} {arguments : List String} {cs : List Char} (line : '\n' ∉ cs)
      (after : Writes rest arguments []) : Writes (.remark :: rest) arguments cs

/-- An article is followed by words that cannot be taken for a letter of it. -/
def isLegible : Phrase → Bool
  | [] => true
  | .article :: .words text :: rest => text.toList.head?.any (· != 'n') && isLegible rest
  | .article :: _ => false
  | _ :: rest => isLegible rest

theorem Writes.head?_ne {rest : Phrase} (h : isLegible (.article :: rest) = true)
    {arguments : List String} {cs : List Char} (hwrites : rest.Writes arguments cs) :
    cs.head? ≠ some 'n' := by
  cases hwrites with
  | @words text _ _ cs after =>
      rw [isLegible, Bool.and_eq_true] at h
      cases htext : text.toList with
      | nil => simp [htext] at h
      | cons c text' =>
          rw [htext] at h
          simpa using h.1
  | done => simp [isLegible] at h
  | argument _ _ => simp [isLegible] at h
  | a _ => simp [isLegible] at h
  | an _ => simp [isLegible] at h
  | remark _ _ => simp [isLegible] at h

theorem isLegible_of_cons {piece : Piece} {rest : Phrase} (h : isLegible (piece :: rest) = true) :
    isLegible rest = true := by
  cases piece with
  | article =>
      cases rest with
      | nil => rfl
      | cons next rest =>
          cases next with
          | words text =>
              rw [isLegible, Bool.and_eq_true] at h
              exact h.2
          | _ => cases h
  | _ => exact h

theorem writes_of_readChars? {p : Phrase} {cs : List Char} {arguments : List String}
    (h : p.readChars? cs = some arguments) : p.Writes arguments cs := by
  induction p generalizing cs arguments with
  | nil =>
      rcases readChars?_nil_iff.mp h with ⟨rfl, rfl⟩
      exact .done
  | cons piece rest ih =>
      cases piece with
      | words text =>
          rcases readChars?_words_iff.mp h with ⟨after, rfl, hrest⟩
          exact .words (ih hrest)
      | argument =>
          rcases readChars?_argument_iff.mp h with ⟨argument, after, others, hmark, rfl, hrest, rfl⟩
          rw [← String.toList_ofList (l := argument)] at hmark ⊢
          rw [String.ofList_toList]
          exact .argument hmark (ih hrest)
      -- Which of the two words was read is lost in the arguments, so the text may be either.
      | article =>
          rcases readChars?_article_cases h with ⟨after, rfl, hrest⟩ | ⟨after, rfl, hrest⟩
          · exact .an (ih hrest)
          · exact .a (ih hrest)
      | remark =>
          rcases readChars?_remark_iff.mp h with ⟨hline, hrest⟩
          exact .remark hline (ih hrest)

theorem Writes.readChars? {p : Phrase} (hp : p.isLegible = true) {cs : List Char}
    {arguments : List String} (h : p.Writes arguments cs) : p.readChars? cs = some arguments := by
  induction h with
  | done => rfl
  | words after ih => exact readChars?_words_iff.mpr ⟨_, rfl, ih (isLegible_of_cons hp)⟩
  | argument unmarked after ih =>
      refine readChars?_argument_iff.mpr ⟨_, _, _, unmarked, rfl, ih (isLegible_of_cons hp), ?_⟩
      rw [String.ofList_toList]
  | a after ih =>
      rw [readChars?_article (after.head?_ne hp)]
      exact ih (isLegible_of_cons hp)
  | an after ih => exact ih (isLegible_of_cons hp)
  | remark line after ih => exact readChars?_remark_iff.mpr ⟨line, ih (isLegible_of_cons hp)⟩

/-- A phrase reads what it writes, and nothing else. -/
theorem readChars?_eq_some_iff {p : Phrase} (hp : p.isLegible = true) {cs : List Char}
    {arguments : List String} : p.readChars? cs = some arguments ↔ p.Writes arguments cs :=
  ⟨writes_of_readChars?, Writes.readChars? hp⟩

/-- A phrase writes with one argument for each place that it has for one. -/
theorem Writes.length_eq {p : Phrase} {arguments : List String} {cs : List Char}
    (h : p.Writes arguments cs) : arguments.length = p.count .argument := by
  induction h with
  | done => rfl
  | argument _ _ ih => rw [List.length_cons, ih, List.count_cons_self]
  | words _ ih | a _ ih | an _ ih | remark _ _ ih => simpa using ih

end Phrase

/-! ## The forms of checks -/

/-- Where the form of a check stands among the forms. -/
def Check.place : Check → Nat
  | titleGiven => 0
  | titleMatches _ => 1
  | titleNamesRelease => 2
  | filesGiven => 3
  | onlyFiles _ => 4
  | fileListed _ => 5
  | fileGiven _ => 6
  | fileFilled _ => 7
  | fileValid _ _ => 8
  | foldersMatch _ => 9
  | oneFolder => 10
  | releaseGiven => 11
  | releaseSupported => 12
  | lineMatches _ _ => 13
  | versionsAgree => 14
  | fieldFilled _ _ => 15
  | fieldValid _ _ => 16
  | fieldAmong _ _ => 17
  | contentTypeAmong _ _ => 18
  | commitsGiven => 19
  | oneCommit => 20
  | labelsGiven => 21
  | releaseLabelled _ => 22
  | testsPass => 23
  | testsComplete => 24

/-- The arguments of the form at a place that are patterns: the only one of two forms, and the second
    of a third. -/
def patternArguments (place : Nat) (arguments : List String) : List String :=
  if place = 1 ∨ place = 9 then arguments
  else if place = 13 then arguments.tail
  else []

namespace Form

/-- What the form at a place makes of arguments: a check of that place that has these arguments, where
    every pattern among them can be read, and otherwise an account of the one that cannot. -/
structure Makes (place : Nat) (form : Form) (arguments : List String) : Prop where
  made : ∀ check, form.make arguments = .ok check → check.place = place ∧ check.arguments = arguments
  readable : (∀ source ∈ patternArguments place arguments,
    ∃ pattern, Pattern.read source = .ok pattern) → ∃ check, form.make arguments = .ok check
  unreadable : ∀ source ∈ patternArguments place arguments, ∀ stop,
    Pattern.read source = .error stop → form.make arguments = .error ⟨source, stop⟩

section Makes

variable {place : Nat} {phrase : Phrase}

/-- A form without patterns always makes its check. -/
theorem makes_of_ok {form : Form} {arguments : List String} {check : Check}
    (hpatterns : patternArguments place arguments = []) (hmake : form.make arguments = .ok check)
    (hplace : check.place = place) (harguments : check.arguments = arguments) :
    form.Makes place arguments := by
  refine ⟨fun other hother => ?_, fun _ => ⟨check, hmake⟩, fun source hsource => ?_⟩
  · rw [hmake, Except.ok.injEq] at hother
    exact hother ▸ ⟨hplace, harguments⟩
  · rw [hpatterns] at hsource
    cases hsource

/-- A form with a pattern makes its check of what the pattern reads as. -/
theorem makes_of_pattern {form : Form} {arguments : List String} {source : String}
    {make : WrittenPattern → Check} (hpatterns : patternArguments place arguments = [source])
    (hmake : form.make arguments = (readPattern source).map make)
    (hplace : ∀ pattern, (make pattern).place = place)
    (harguments : ∀ pattern, (make ⟨source, pattern⟩).arguments = arguments) :
    form.Makes place arguments := by
  -- A form with one pattern fails exactly where the pattern does, and with the same stop.
  cases hread : Pattern.read source with
  | ok pattern =>
      have hmade : form.make arguments = .ok (make ⟨source, pattern⟩) := by
        rw [hmake, readPattern, hread]
        rfl
      refine ⟨fun other hother => ?_, fun _ => ⟨_, hmade⟩, fun other hother stop hstop => ?_⟩
      · rw [hmade, Except.ok.injEq] at hother
        exact hother ▸ ⟨hplace _, harguments pattern⟩
      · rw [hpatterns, List.mem_singleton] at hother
        rw [hother, hread] at hstop
        cases hstop
  | error stop =>
      have hmade : form.make arguments = .error ⟨source, stop⟩ := by
        rw [hmake, readPattern, hread]
        rfl
      refine ⟨fun other hother => ?_, fun hpattern => ?_, fun other hother stop' hstop => ?_⟩
      · rw [hmade] at hother
        cases hother
      · rcases hpattern source (by rw [hpatterns]; exact List.mem_singleton_self source) with ⟨p, hp⟩
        rw [hread] at hp
        cases hp
      · rw [hpatterns, List.mem_singleton] at hother
        rw [hother, hread, Except.error.injEq] at hstop
        rw [hmade, hother, hstop]

theorem plain_makes {text : String} {check : Check} (hpatterns : patternArguments place [] = [])
    (hplace : check.place = place) (harguments : check.arguments = []) (arguments : List String)
    (h : arguments.length = (plain text check).phrase.count .argument) :
    (plain text check).Makes place arguments := by
  cases List.eq_nil_of_length_eq_zero (h.trans (by simp [plain]))
  exact makes_of_ok hpatterns rfl hplace harguments

theorem unary_makes {make : String → Check} (hphrase : phrase.count .argument = 1)
    (hpatterns : ∀ x, patternArguments place [x] = []) (hplace : ∀ x, (make x).place = place)
    (harguments : ∀ x, (make x).arguments = [x]) (arguments : List String)
    (h : arguments.length = (unary phrase make).phrase.count .argument) :
    (unary phrase make).Makes place arguments := by
  rcases List.length_eq_one_iff.mp (h.trans hphrase) with ⟨x, rfl⟩
  exact makes_of_ok (hpatterns x) rfl (hplace x) (harguments x)

theorem binary_makes {make : String → String → Check} (hphrase : phrase.count .argument = 2)
    (hpatterns : ∀ x y, patternArguments place [x, y] = []) (hplace : ∀ x y, (make x y).place = place)
    (harguments : ∀ x y, (make x y).arguments = [x, y]) (arguments : List String)
    (h : arguments.length = (binary phrase make).phrase.count .argument) :
    (binary phrase make).Makes place arguments := by
  rcases List.length_eq_two.mp (h.trans hphrase) with ⟨x, y, rfl⟩
  exact makes_of_ok (hpatterns x y) rfl (hplace x y) (harguments x y)

theorem searching_makes {make : WrittenPattern → Check} (hphrase : phrase.count .argument = 1)
    (hpatterns : ∀ x, patternArguments place [x] = [x]) (hplace : ∀ p, (make p).place = place)
    (harguments : ∀ p, (make p).arguments = [p.source]) (arguments : List String)
    (h : arguments.length = (searching phrase make).phrase.count .argument) :
    (searching phrase make).Makes place arguments := by
  rcases List.length_eq_one_iff.mp (h.trans hphrase) with ⟨x, rfl⟩
  exact makes_of_pattern (hpatterns x) rfl hplace fun _ => harguments _

theorem searchingIn_makes {make : String → WrittenPattern → Check}
    (hphrase : phrase.count .argument = 2) (hpatterns : ∀ x y, patternArguments place [x, y] = [y])
    (hplace : ∀ x p, (make x p).place = place)
    (harguments : ∀ x p, (make x p).arguments = [x, p.source]) (arguments : List String)
    (h : arguments.length = (searchingIn phrase make).phrase.count .argument) :
    (searchingIn phrase make).Makes place arguments := by
  rcases List.length_eq_two.mp (h.trans hphrase) with ⟨x, y, rfl⟩
  exact makes_of_pattern (hpatterns x y) rfl (hplace x) fun _ => harguments x _

end Makes

/-- What each form makes of as many arguments as its phrase has places for. -/
theorem makes_of_mem_zipIdx : ∀ e ∈ Form.all.zipIdx, ∀ arguments : List String,
    arguments.length = e.1.phrase.count .argument → e.1.Makes e.2 arguments := by
  unfold Form.all
  simp only [List.zipIdx_cons, List.zipIdx_nil, List.forall_mem_cons, List.not_mem_nil, false_implies,
    implies_true, and_true, zero_add, Nat.reduceAdd]
  -- The forms in their order: each is of one of the five kinds.
  exact ⟨plain_makes rfl rfl rfl,
    searching_makes rfl (fun _ => rfl) (fun _ => rfl) fun _ => rfl,
    plain_makes rfl rfl rfl,
    plain_makes rfl rfl rfl,
    unary_makes rfl (fun _ => rfl) (fun _ => rfl) fun _ => rfl,
    unary_makes rfl (fun _ => rfl) (fun _ => rfl) fun _ => rfl,
    unary_makes rfl (fun _ => rfl) (fun _ => rfl) fun _ => rfl,
    unary_makes rfl (fun _ => rfl) (fun _ => rfl) fun _ => rfl,
    binary_makes rfl (fun _ _ => rfl) (fun _ _ => rfl) fun _ _ => rfl,
    searching_makes rfl (fun _ => rfl) (fun _ => rfl) fun _ => rfl,
    plain_makes rfl rfl rfl,
    plain_makes rfl rfl rfl,
    plain_makes rfl rfl rfl,
    searchingIn_makes rfl (fun _ _ => rfl) (fun _ _ => rfl) fun _ _ => rfl,
    plain_makes rfl rfl rfl,
    binary_makes rfl (fun _ _ => rfl) (fun _ _ => rfl) fun _ _ => rfl,
    binary_makes rfl (fun _ _ => rfl) (fun _ _ => rfl) fun _ _ => rfl,
    binary_makes rfl (fun _ _ => rfl) (fun _ _ => rfl) fun _ _ => rfl,
    binary_makes rfl (fun _ _ => rfl) (fun _ _ => rfl) fun _ _ => rfl,
    plain_makes rfl rfl rfl,
    plain_makes rfl rfl rfl,
    plain_makes rfl rfl rfl,
    unary_makes rfl (fun _ => rfl) (fun _ => rfl) fun _ => rfl,
    plain_makes rfl rfl rfl,
    plain_makes rfl rfl rfl⟩

theorem legible : ∀ form ∈ all, form.phrase.isLegible = true := by
  decide +kernel

theorem read?_eq_some_iff {form : Form} (hform : form ∈ all) {text : String}
    {arguments : List String} :
    form.phrase.read? text = some arguments ↔ form.phrase.Writes arguments text.toList :=
  Phrase.readChars?_eq_some_iff (legible form hform)

/-- No text is written by two forms. -/
theorem place_unique {i j : Nat} {f g : Form} (hi : all[i]? = some f) (hj : all[j]? = some g)
    {text : String} {a b : List String} (ha : f.phrase.read? text = some a)
    (hb : g.phrase.read? text = some b) : i = j := by
  -- Of two forms at different places the first does not read what the second does.
  have hbefore : ∀ {i j : Nat} {f g : Form} {a b : List String}, all[i]? = some f →
      all[j]? = some g → f.phrase.read? text = some a → g.phrase.read? text = some b → ¬ i < j := by
    intro i j f g a b hi hj ha hb hlt
    rcases List.getElem?_eq_some_iff.mp hi with ⟨hilt, rfl⟩
    rcases List.getElem?_eq_some_iff.mp hj with ⟨hjlt, rfl⟩
    have hapart := List.pairwise_iff_getElem.mp forms_apart.2 i j hilt hjlt hlt
    rw [Phrase.read_eq_none_of_apart (forms_apart.1 _ (List.getElem_mem hilt))
      (forms_apart.1 _ (List.getElem_mem hjlt)) hapart hb] at ha
    cases ha
  have hij := hbefore hi hj ha hb
  have hji := hbefore hj hi hb ha
  omega

/-- Some form writes a text, or none reads it. -/
theorem exists_writes_or_none (text : String) :
    (∃ form ∈ all, ∃ arguments, form.phrase.Writes arguments text.toList) ∨
      ∀ form ∈ all, form.phrase.read? text = none := by
  refine or_iff_not_imp_left.mpr fun hno form hform => ?_
  by_contra hne
  rcases Option.ne_none_iff_exists'.mp hne with ⟨arguments, hread⟩
  exact hno ⟨form, hform, arguments, (read?_eq_some_iff hform).mp hread⟩

theorem makes_of_writes {place : Nat} {form : Form} (hform : all[place]? = some form)
    {arguments : List String} {cs : List Char} (h : form.phrase.Writes arguments cs) :
    form.Makes place arguments :=
  makes_of_mem_zipIdx _ (List.mk_mem_zipIdx_iff_getElem?.mpr hform) arguments h.length_eq

end Form

/-! ## Binding -/

theorem Phrase.Apart.symm {p q : Phrase} (h : p.Apart q) : q.Apart p :=
  fun a ha b hb => (h b hb a ha).symm

namespace Check

/-- A text that none of some forms reads is bound to none of them. -/
theorem ofTextIn_of_none {text : String} {forms : List Form}
    (h : ∀ form ∈ forms, form.phrase.read? text = none) :
    ofTextIn text forms = .error (.report (.noForm text)) := by
  induction forms with
  | nil => rfl
  | cons form rest ih =>
      rw [ofTextIn, h form List.mem_cons_self]
      exact ih fun other hother => h other (List.mem_cons_of_mem form hother)

/-- The order of the forms does not matter. -/
theorem ofTextIn_perm {forms : List Form} (h : forms.Perm Form.all) (text : String) :
    ofTextIn text forms = ofText text := by
  rcases Form.exists_writes_or_none text with ⟨form, hform, arguments, hwrites⟩ | hnone
  · have hread := (Form.read?_eq_some_iff hform).mpr hwrites
    have hmarks : ∀ form ∈ forms, form.phrase.isUnmarked = true :=
      fun form hform => forms_apart.1 form (h.mem_iff.mp hform)
    have hapart : forms.Pairwise fun a b => a.phrase.Apart b.phrase :=
      (h.pairwise_iff fun hab => hab.symm).mpr forms_apart.2
    rw [ofText, ofTextIn_eq_of_read forms_apart.1 forms_apart.2 hform hread,
      ofTextIn_eq_of_read hmarks hapart (h.mem_iff.mpr hform) hread]
  · rw [ofText, ofTextIn_of_none hnone,
      ofTextIn_of_none fun form hform => hnone form (h.mem_iff.mp hform)]

/-- What a text comes to that a form writes. -/
theorem ofText_of_writes {place : Nat} {form : Form} (hform : Form.all[place]? = some form)
    {text : String} {arguments : List String} (h : form.phrase.Writes arguments text.toList) :
    ofText text = match form.make arguments with
      | .ok check => .ok check
      | .error ⟨pattern, .problem error⟩ => .error (.report (.badPattern text pattern error))
      | .error ⟨_, .fault f⟩ => .error (.fault f) := by
  have hmem := List.mem_of_getElem? hform
  have hread := (Form.read?_eq_some_iff hmem).mpr h
  rw [ofText, ofTextIn_eq_of_read forms_apart.1 forms_apart.2 hmem hread]
  rcases hmake : form.make arguments with ⟨source, problem | f⟩ | check
  · simp only [ofTextIn, hread, hmake]
  · simp only [ofTextIn, hread, hmake]
  · simp only [ofTextIn, hread, hmake]

/-- A text that is bound was written by the form of its check, with the arguments of the check. -/
theorem writes_of_ofText {text : String} {check : Check} (h : ofText text = .ok check) :
    ∃ form, Form.all[check.place]? = some form ∧ form.phrase.Writes check.arguments text.toList := by
  rcases Form.exists_writes_or_none text with ⟨form, hmem, arguments, hwrites⟩ | hnone
  · rcases List.getElem?_of_mem hmem with ⟨place, hform⟩
    have hmake : form.make arguments = .ok check := by
      rw [ofText_of_writes hform hwrites] at h
      -- A form that stops does not bind the text, and no other form reads it.
      rcases hmade : form.make arguments with ⟨source, problem | f⟩ | other
      · rw [hmade] at h
        cases h
      · rw [hmade] at h
        cases h
      · rw [hmade] at h
        cases h
        rfl
    rcases (Form.makes_of_writes hform hwrites).made check hmake with ⟨rfl, rfl⟩
    exact ⟨form, hform, hwrites⟩
  · rw [ofText, ofTextIn_of_none hnone] at h
    cases h

end Check

theorem read_of_fault {text : String} {f : Fault}
    (h : (match Pattern.read text with | .error (.fault g) => some g | _ => none) = some f) :
    Pattern.read text = .error (.fault f) := by
  rcases hread : Pattern.read text with (p | g) | pattern <;> simp_all

theorem read_overlong : Pattern.read "a\x7b4294967295\x7d" = .error (.fault .repeatTooLarge) :=
  read_of_fault (by decide +kernel)

end Assay
