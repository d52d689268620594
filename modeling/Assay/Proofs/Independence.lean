import Assay.Proofs.Notes
import Assay.Proofs.Review

/-!
# Scenarios on their own

Scenarios share the notes of a run, but what a step adds to the notes does not depend on what is in
them, and what it answers depends on one thing in them only: a step that compares the version of the
evidence reads the one that was noted last. So the notes that a scenario starts with can be taken
away and put back in front of what it adds, as long as it does not read a version out of them.

A scenario reads a version that is not its own where it compares one before it has noted one. Then
it depends on the scenarios before it, by the version that they leave and by nothing else.

## Main definitions

* `Notes.onto`: What a run comes to with other notes before its own.
* `Notes.Shows`: Notes that show the same version with others before them.
* `OwnsVersion`: Steps that compare no version before they have noted one.
* `Scenario.alone`: What is recorded of a scenario on its own.

## Theorems

* `Check.answer_onto`: An answer is the same with other notes before.
* `runSteps_onto`: The results of steps are the same with other notes before.
* `recorded_alone`: What a run records of a scenario is what is recorded of it on its own.
* `not_always_alone`: A scenario can borrow the version that another has noted.
* `Packaged.results_alone`: The packaged scenarios are independent, in whatever order.
-/

namespace Assay

/-! ## Notes before others -/

namespace Notes

/-- Notes after others. The version that is shown last counts. -/
instance : Append Notes where
  append m n := ⟨m.labels ++ n.labels, m.missingFiles ++ n.missingFiles,
    if n.evidenceVersion.isEmpty then m.evidenceVersion else n.evidenceVersion⟩

/-- The notes that only show a version. -/
def showing (version : String) : Notes := ⟨[], [], version⟩

/-- What comes with notes, with other notes before them. -/
def onto {α : Type} (m : Notes) (p : α × Notes) : α × Notes := (p.1, m ++ p.2)

/-- Notes that show the same version with others before them. -/
def Shows (m n : Notes) : Prop := (m ++ n).evidenceVersion = n.evidenceVersion

variable {m n : Notes}

theorem append_label (m n : Notes) (text : String) : m ++ n.label text = (m ++ n).label text := by
  change Notes.mk (m.labels ++ (n.labels ++ [text])) _ _ = ⟨m.labels ++ n.labels ++ [text], _, _⟩
  rw [List.append_assoc]
  rfl

theorem append_missFile (m n : Notes) (file : String) :
    m ++ n.missFile file = (m ++ n).missFile file := by
  change Notes.mk _ (m.missingFiles ++ (n.missingFiles ++ [file])) _ =
    ⟨_, m.missingFiles ++ n.missingFiles ++ [file], _⟩
  rw [List.append_assoc]
  rfl

theorem append_version (m n : Notes) {version : String} (h : version ≠ "") :
    m ++ { n with evidenceVersion := version } = { m ++ n with evidenceVersion := version } := by
  change Notes.mk _ _ (if version.isEmpty then _ else version) = ⟨_, _, version⟩
  rw [if_neg (by rwa [String.isEmpty_iff])]
  rfl

/-- Any notes are those before their own version. -/
theorem append_showing (m : Notes) : m ++ showing m.evidenceVersion = m := by
  change Notes.mk (m.labels ++ []) (m.missingFiles ++ [])
    (if m.evidenceVersion.isEmpty then m.evidenceVersion else m.evidenceVersion) = m
  rw [List.append_nil, List.append_nil, ite_self]

theorem append_showing_empty (m : Notes) : m ++ showing "" = m := by
  change Notes.mk (m.labels ++ []) (m.missingFiles ++ []) m.evidenceVersion = m
  rw [List.append_nil, List.append_nil]

theorem shows_of_ne_empty (m : Notes) (h : n.evidenceVersion ≠ "") : m.Shows n := by
  change (if n.evidenceVersion.isEmpty then _ else n.evidenceVersion) = _
  rw [if_neg (by rwa [String.isEmpty_iff])]

theorem Shows.entries {b : Brief} {n' : Notes} (h : m.Shows n) (he : Entries b n n') :
    m.Shows n' := by
  induction he with
  | refl => exact h
  | tail _ hlast ih =>
      cases hlast with
      | mark mark hm => exact ih
      | version v hv => exact shows_of_ne_empty m hv

end Notes

open Notes

/-! ## Answers -/

namespace Check

variable {b : Brief} {m n : Notes}

/-- Only a comparison of versions looks at the version that the evidence shows. -/
theorem examine_congr {c : Check} (hc : c ≠ .versionsAgree) (b : Brief) (version version' : String) :
    c.examine b version = c.examine b version' := by
  cases c with
  | versionsAgree => exact absurd rfl hc
  | _ => rfl

theorem conclude_onto (m n : Notes) (e : Examination) :
    conclude (m ++ n) e = m.onto <$> conclude n e := by
  rcases e with (f | f) | (_ | _) <;> rfl

theorem answerFileListed_onto (m n : Notes) (b : Brief) (file : String) :
    answerFileListed b (m ++ n) file = m.onto (answerFileListed b n file) := by
  unfold answerFileListed
  cases hf : b.submission.file? file with
  | some f => rfl
  | none =>
      simp only [Option.isSome_none, Bool.false_eq_true, if_false, onto, append_missFile, append_label]

theorem answerLineMatches_onto (m n : Notes) (b : Brief) (file : String) (p : WrittenPattern) :
    answerLineMatches b (m ++ n) file p = m.onto (answerLineMatches b n file p) := by
  unfold answerLineMatches
  cases hf : b.submission.file? file with
  | none => rfl
  | some f =>
      cases hg : firstMatch? p f.contents with
      | none => simp only [hg, onto]
      | some groups =>
          simp only [hg, onto]
          by_cases hv : firstFilled groups = ""
          · rw [if_pos (String.isEmpty_iff.mpr hv), if_pos (String.isEmpty_iff.mpr hv)]
          · rw [if_neg (by rwa [String.isEmpty_iff]), if_neg (by rwa [String.isEmpty_iff]),
              append_version m n hv]

theorem answerTestsPass_onto (m n : Notes) (b : Brief) :
    answerTestsPass b (m ++ n) = m.onto (answerTestsPass b n) := by
  unfold answerTestsPass
  split
  · rfl
  · cases Evidence.submitted b.submission with
    | error f => rfl
    | ok outcomes =>
        simp only
        split <;> simp only [onto, append_label]

theorem answerTestsComplete_onto (m n : Notes) (b : Brief) :
    answerTestsComplete b (m ++ n) = m.onto <$> answerTestsComplete b n := by
  unfold answerTestsComplete
  split
  · rfl
  · rcases missingTests b with (f | f) | missing
    · rfl
    · rfl
    · simp only
      split <;> simp only [Functor.map, Except.map, onto, append_label]

/-- An answer is the same with other notes before, and so is what it adds to the notes. -/
theorem answer_onto {c : Check} (h : m.Shows n ∨ c ≠ .versionsAgree) (b : Brief) :
    c.answer b (m ++ n) = m.onto <$> c.answer b n := by
  by_cases hc : c.takesNotes = false
  · -- Such a check leaves the notes as they are, and looks at no more than the version in them.
    have hexamine : c.examine b (m ++ n).evidenceVersion = c.examine b n.evidenceVersion := by
      rcases h with hshows | hother
      · rw [hshows]
      · exact examine_congr hother b _ _
    rw [answer_eq_conclude hc, answer_eq_conclude hc, hexamine, conclude_onto]
  · cases c with
    | fileListed file => exact congrArg Except.ok (answerFileListed_onto m n b file)
    | lineMatches file p => exact congrArg Except.ok (answerLineMatches_onto m n b file p)
    | testsPass => exact congrArg Except.ok (answerTestsPass_onto m n b)
    | testsComplete => exact answerTestsComplete_onto m n b
    | _ => exact absurd rfl hc

/-- A check that shows a version whenever it is passed. -/
def ShowsVersion : Check → Prop
  | lineMatches _ p => ∀ line groups, p.pattern.search line = some groups → firstFilled groups ≠ ""
  | _ => False

theorem ShowsVersion.evidenceVersion_ne_empty {c : Check} (hc : c.ShowsVersion) {n' : Notes}
    (h : c.answer b n = .ok (.passed, n')) : n'.evidenceVersion ≠ "" := by
  cases c with
  | lineMatches file p =>
      replace h := Except.ok.inj h
      unfold answerLineMatches at h
      cases hf : b.submission.file? file with
      | none => simp [hf] at h
      | some f =>
          cases hg : firstMatch? p f.contents with
          | none => simp [hf, hg] at h
          | some groups =>
              rcases List.exists_of_findSome?_eq_some hg with ⟨line, -, hline⟩
              -- The pattern finds something in every line that it matches, so something is noted.
              have hfilled := hc line groups hline
              simp only [hf, hg, Prod.mk.injEq, true_and] at h
              rw [if_neg (by rwa [String.isEmpty_iff])] at h
              rwa [← h]
  | _ => exact hc.elim

end Check

/-! ## Runs -/

/-- Steps compare no version before they have noted one. -/
def OwnsVersion : List Step → Prop
  | [] => True
  | s :: rest => s.check ≠ .versionsAgree ∧ (s.check.ShowsVersion ∨ OwnsVersion rest)

section Runs

variable {b : Brief} {m n : Notes}

theorem Step.run_onto {s : Step} (h : m.Shows n ∨ s.check ≠ .versionsAgree) (b : Brief) :
    s.run b (m ++ n) = m.onto <$> s.run b n := by
  unfold run
  rw [Check.answer_onto h]
  rcases s.check.answer b n with f | ⟨a, n'⟩ <;> rfl

/-- The results of steps are the same with other notes before, and so is what the steps add. -/
theorem runSteps_onto {steps : List Step} (h : m.Shows n ∨ OwnsVersion steps) :
    runSteps b (m ++ n) steps = m.onto <$> runSteps b n steps := by
  induction steps generalizing n with
  | nil => rfl
  | cons s rest ih =>
      have hstep : s.run b (m ++ n) = m.onto <$> s.run b n :=
        Step.run_onto (h.imp_right And.left) b
      rw [runSteps, runSteps, hstep]
      cases hrun : s.run b n with
      | error f => rfl
      | ok p =>
          rcases p with ⟨r, n'⟩
          by_cases hp : r.status = .passed
          · -- The rest either sees the same version, or one that this step has noted.
            have hrest : m.Shows n' ∨ OwnsVersion rest := by
              rcases h with hshows | ⟨-, hversion | howns⟩
              · exact Or.inl (hshows.entries (entries_of_stepRun hrun))
              · rcases Step.run_eq_ok_iff.mp hrun with ⟨a, ha, rfl⟩
                rw [Step.result_status, Answer.status_eq_passed_iff] at hp
                rw [hp] at ha
                exact Or.inl (shows_of_ne_empty m (hversion.evidenceVersion_ne_empty ha))
              · exact Or.inr howns
            simp only [Functor.map, Except.map, onto, ok_bind, hp, if_true, ih hrest]
            rcases runSteps b n' rest with f | ⟨results, final⟩ <;> rfl
          · simp only [Functor.map, Except.map, onto, ok_bind, hp, if_false]
            rfl

theorem Scenario.run_onto {s : Scenario} (h : m.Shows n ∨ OwnsVersion s.steps) (b : Brief) :
    s.run b (m ++ n) = m.onto <$> s.run b n := by
  unfold run
  rw [runSteps_onto h]
  rcases runSteps b n s.steps with f | ⟨results, final⟩ <;> rfl

/-- The result of a scenario depends on the notes by the version that they show. -/
theorem Scenario.result_eq_showing (s : Scenario) (b : Brief) (m : Notes) :
    Prod.fst <$> s.run b m = Prod.fst <$> s.run b (showing m.evidenceVersion) := by
  have hshows : m.Shows (showing m.evidenceVersion) := by
    change (m ++ showing m.evidenceVersion).evidenceVersion = m.evidenceVersion
    rw [append_showing]
  have hrun := s.run_onto (Or.inl hshows) b
  -- All of the notes but their version can be taken away.
  rw [append_showing] at hrun
  rw [hrun]
  cases s.run b (showing m.evidenceVersion) <;> rfl

/-- The result of a scenario that compares no version but its own depends on no notes. -/
theorem Scenario.result_eq_empty {s : Scenario} (h : OwnsVersion s.steps) (b : Brief) (m : Notes) :
    Prod.fst <$> s.run b m = Prod.fst <$> s.run b (showing "") := by
  have hrun : s.run b (m ++ showing "") = m.onto <$> s.run b (showing "") :=
    s.run_onto (Or.inr h) b
  rw [append_showing_empty] at hrun
  rw [hrun]
  cases s.run b (showing "") <;> rfl

end Runs

/-! ## Scenarios on their own -/

/-- What is recorded of a scenario on its own, where the evidence is taken to show a version. -/
def Scenario.alone (s : Scenario) (b : Brief) (version : String) : Except Fault ScenarioResult :=
  Prod.fst <$> s.run b { Notes.start with evidenceVersion := version }

section Alone

variable {b : Brief} {s : Scenario} {r : ScenarioResult} {m m' : Notes}

/-- A scenario gives on its own what it gives in a run, where the version of the run is shown. -/
theorem Scenario.alone_of_run (h : s.run b m = .ok (r, m')) :
    s.alone b m.evidenceVersion = .ok r := by
  rw [alone, result_eq_showing]
  change Prod.fst <$> s.run b (showing m.evidenceVersion) = _
  rw [← result_eq_showing, h]
  rfl

theorem Scenario.alone_of_run_of_owns (howns : OwnsVersion s.steps) (h : s.run b m = .ok (r, m'))
    (version : String) : s.alone b version = .ok r := by
  rw [alone, result_eq_empty howns, ← result_eq_empty howns b m, h]
  rfl

end Alone

/-- What a run records of a scenario is what is recorded of it on its own, where the evidence is
    taken to show the version that the scenarios before it have left. Where the scenario compares no
    version but its own, that version does not matter either. -/
theorem recorded_alone {b : Brief} {before after : List Scenario} {s : Scenario} {record : RunRecord}
    {final : Notes} (h : runAll b .start (before ++ s :: after) = .ok (record, final)) :
    ∃ r above m, record.scenarios[before.length]? = some r ∧
      runAll b .start before = .ok (above, m) ∧ s.alone b m.evidenceVersion = .ok r ∧
        (OwnsVersion s.steps → s.alone b "" = .ok r) := by
  rcases runScenarios_append_eq_ok_iff.mp (runAll_eq_ok_iff.mp h) with
    ⟨above, m, below, habove, hbelow, hresults⟩
  rcases runScenarios_cons_eq_ok_iff.mp hbelow with ⟨r, m', rest, hrun, -, rfl⟩
  have hlength : above.length = before.length := (forall₂_run_of_runScenarios habove).length_eq.symm
  refine ⟨r, ⟨above⟩, m, ?_, runAll_eq_ok_iff.mpr habove, Scenario.alone_of_run hrun,
    fun howns => Scenario.alone_of_run_of_owns howns hrun ""⟩
  rw [hresults, ← hlength, List.getElem?_append_right le_rfl, Nat.sub_self]
  rfl

/-! ## A scenario that borrows a version -/

/-- A scenario that notes the version in the log. -/
def Scenario.noting : Scenario :=
  ⟨"the log shows a version", "e2e.log must show a version",
    [⟨"a line of the file \"e2e.log\" matches " ++
        "\"e2e (?:test|suite) version: (v[0-9]+\\.[0-9]+(?:\\.[0-9]+)?)\"",
      .lineMatches "e2e.log" Packaged.logPattern⟩]⟩

/-- A scenario that compares a version and notes none. -/
def Scenario.borrowing : Scenario :=
  ⟨"the version matches", "the version in e2e.log must match the folder structure",
    [⟨"that version matches the release version in the folder structure", .versionsAgree⟩]⟩

/-- The script of the two scenarios. -/
def Script.ofBorrowing : List Template :=
  [.noting, .borrowing].map fun s : Scenario => ⟨s.name, s.description, s.steps.map Step.text, []⟩

theorem Script.compile_ofBorrowing (source : String) :
    compile source ofBorrowing = .ok [.noting, .borrowing] := by
  refine compile_cons_plain ⟨rfl, rfl, rfl, .cons Packaged.bindStep_lineMatches .nil⟩ ?_
  exact compile_cons_plain ⟨rfl, rfl, rfl, .cons (bindStep_plain 14 rfl) .nil⟩ rfl

/-- What a submission is reviewed for that shows all that is asked for. -/
def Brief.complete : Brief :=
  Review.briefOf .ofOneTest (Settings.given "v1.30") "v1.30" .complete

/-- What is recorded of a scenario whose steps are all passed. -/
def Scenario.passed (s : Scenario) : ScenarioResult :=
  ⟨s.name, s.description, s.steps.map fun step => step.result .passed⟩

/-- The second scenario is passed on the version that the first one has noted. -/
theorem borrowing_run : runAll .complete .start [.noting, .borrowing] =
    .ok (⟨[Scenario.noting.passed, Scenario.borrowing.passed]⟩,
      { Notes.start with evidenceVersion := "v1.30.1" }) := by
  decide +kernel

/-- On its own the second scenario has no version to compare. -/
theorem borrowing_alone : Scenario.borrowing.alone .complete "" ≠ .ok Scenario.borrowing.passed := by
  decide +kernel

theorem recorded_alone_of_borrowing : ∃ above m,
    runAll .complete .start [.noting] = .ok (above, m) ∧
      Scenario.borrowing.alone .complete m.evidenceVersion = .ok Scenario.borrowing.passed ∧
        Scenario.noting.alone .complete "" = .ok Scenario.noting.passed := by
  have howns : OwnsVersion Scenario.noting.steps := ⟨Check.noConfusion, Or.inr trivial⟩
  rcases @recorded_alone .complete [] [.borrowing] .noting _ _ borrowing_run with
    ⟨r, -, -, hr, -, -, hfirst⟩
  rcases @recorded_alone .complete [.noting] [] .borrowing _ _ borrowing_run with
    ⟨r', above, m, hr', habove, hsecond, -⟩
  cases hr
  cases hr'
  exact ⟨above, m, habove, hsecond, hfirst howns⟩

/-- Scenarios of a script are not independent: what is recorded of one can be another thing than what
    is recorded of it on its own. -/
theorem not_always_alone : ¬ ∀ (source : String) (templates : List Template)
    (scenarios : List Scenario) (d : Disk) (settings : Settings) (latest : String)
    (submission : Submission) (record : RunRecord) (final : Notes),
    Script.compile source templates = .ok scenarios →
      runAll (Review.briefOf d settings latest submission) .start scenarios = .ok (record, final) →
        List.Forall₂ (fun s r => s.alone (Review.briefOf d settings latest submission) "" = .ok r)
          scenarios record.scenarios := by
  intro hall
  have hresults := hall "rules.yaml" Script.ofBorrowing _ .ofOneTest (Settings.given "v1.30") "v1.30"
    .complete _ _ (Script.compile_ofBorrowing _) borrowing_run
  rw [List.forall₂_cons, List.forall₂_cons] at hresults
  exact borrowing_alone hresults.2.1

/-! ## The packaged scenarios -/

theorem ownsVersion_of_forall {steps : List Step} (h : ∀ s ∈ steps, s.check ≠ .versionsAgree) :
    OwnsVersion steps := by
  induction steps with
  | nil => trivial
  | cons s rest ih =>
      rw [List.forall_mem_cons] at h
      exact ⟨h.1, Or.inr (ih h.2)⟩

namespace Packaged

theorem logPattern_showsVersion (file : String) : (Check.lineMatches file logPattern).ShowsVersion := by
  intro line groups h
  rcases logPattern_sound h with ⟨version, hversion, rfl⟩
  simp [Check.firstFilled, hversion.ne_nil]

/-- No packaged scenario compares a version that it has not noted. -/
theorem ownsVersion {scenario : Scenario} (h : scenario ∈ compiled) :
    OwnsVersion scenario.steps := by
  have hother : ∀ s ∈ submissionScenarios ++ productScenarios, ∀ step ∈ s.steps,
      step.check ≠ .versionsAgree := by
    decide
  rcases List.mem_append.mp h with hmem | hevidence
  · exact ownsVersion_of_forall (hother scenario hmem)
  · simp only [evidenceScenarios, List.mem_cons, List.not_mem_nil, or_false] at hevidence
    rcases hevidence with rfl | rfl | rfl
    · -- The version is noted by the second step and compared by the third.
      refine ⟨?_, Or.inr ⟨?_, Or.inl (logPattern_showsVersion _)⟩⟩ <;> exact Check.noConfusion
    · exact ⟨Check.noConfusion, Or.inr trivial⟩
    · exact ⟨Check.noConfusion, Or.inr trivial⟩

/-- The packaged scenarios are independent: a run records of each what is recorded of it on its own,
    in whatever order they stand and however often. -/
theorem results_alone {b : Brief} {scenarios : List Scenario} {record : RunRecord} {final : Notes}
    (hscenarios : ∀ s ∈ scenarios, s ∈ compiled)
    (h : runAll b .start scenarios = .ok (record, final)) :
    List.Forall₂ (fun s r => s.alone b "" = .ok r) scenarios record.scenarios := by
  have hruns := forall₂_run_of_runScenarios (runAll_eq_ok_iff.mp h)
  rw [List.forall₂_iff_zip] at hruns ⊢
  refine ⟨hruns.1, fun {s r} hmem => ?_⟩
  rcases hruns.2 hmem with ⟨m, m', hrun⟩
  exact Scenario.alone_of_run_of_owns (ownsVersion (hscenarios s (List.of_mem_zip hmem).1)) hrun ""

end Packaged

end Assay
