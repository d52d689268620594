import Assay.Proofs.Breakage
import Assay.Proofs.Manifest
import Assay.Proofs.Record
import Assay.Proofs.Script

/-!
# Loading metadata and rules

How the three loaders end: that of a manifest, that of the latest release and that of a rule script. Each
gives what its file holds, or a report of its own, and a file that cannot be found or opened always has its
report. What is in a file can still be too much for its reader, and then the loader breaks off: with bytes
that are no text, and with a document whose values cannot be made, as that of an impossible date. A script
can also break off after it was read, on an example whose report has no order or on a pattern.

Nothing else breaks a loader off. So a review or a sweep under settings that these spare begins, or it
reports why it does not.

## Main definitions

* `Disk.BreaksReading`, `Disk.BreaksIn`: A file that breaks its loader off.
* `Script.BreaksDecoding`, `Script.BreaksCompiling`: What a script has in it that breaks its loader off.
* `Settings.BreaksLoading`: Settings whose loading breaks off.

## Theorems

* `Manifest.load_concludes`, `latestRelease_concludes`, `Script.load_concludes`: How the loaders end.
* `Settings.begins_or_reports`: A sweep and its reviews under settings that do not break off.
* `loading_exact`: All of this together.
-/

namespace Assay

open Text

/-! ## Files -/

/-- The fault of a problem about which nothing is reported where metadata and rules are read. -/
def ReadProblem.fault? : ReadProblem → Option Fault
  | undecodable stretch => some (.undecodable stretch)
  | nulInPath => some .nulInPath
  | _ => none

/-- What a loader makes of a problem, given its reports. -/
def ReadProblem.halt {α β : Type} (report : ReadProblem → α) (problem : ReadProblem) : Except (Halt α) β :=
  match problem.fault? with
  | some f => .error (.fault f)
  | none => .error (.report (report problem))

namespace Disk

variable {d : Disk} {p : Path} {f : Fault}

/-- A file whose reading breaks off: its path cannot be one, or its bytes are no text. -/
inductive BreaksReading (d : Disk) (p : Path) : Fault → Prop
  | path (null : p.HasNull) : BreaksReading d p .nulInPath
  | bytes {bytes : List UInt8} {stretch : Malformed} (file : d.bytesAt p = .ok bytes)
      (malformed : decodeUtf8 bytes = .error stretch) : BreaksReading d p (.undecodable stretch)

theorem breaksReading_iff :
    d.BreaksReading p f ↔ ∃ problem, d.read p = .error problem ∧ problem.fault? = some f := by
  constructor
  · rintro (hnull | ⟨hfile, hbytes⟩)
    · refine ⟨.nulInPath, ?_, rfl⟩
      rw [read, bytesAt, follow_of_hasNull hnull]
      rfl
    · refine ⟨.undecodable _, ?_, rfl⟩
      rw [read_of_bytesAt hfile, hbytes]
  · rintro ⟨problem, hread, hfault⟩
    rcases hbytes : d.bytesAt p with problem' | bytes
    · have hproblem : problem' = problem := by
        rw [read, hbytes] at hread
        exact Except.error.inj hread
      subst hproblem
      rcases bytesAt_eq_error hbytes with ⟨hnull, rfl⟩ | ⟨-, hmem⟩
      · cases hfault
        exact .path hnull
      · -- Every other problem is reported.
        simp only [List.mem_cons, List.not_mem_nil, or_false] at hmem
        rcases hmem with rfl | rfl | rfl | rfl <;> cases hfault
    · rw [read_of_bytesAt hbytes] at hread
      rcases htext : decodeUtf8 bytes with stretch | text
      · rw [htext] at hread
        cases hread
        cases hfault
        exact .bytes hbytes htext
      · rw [htext] at hread
        cases hread

/-- A file that breaks its loader off: its reading does, or what the loader makes of its text. -/
def BreaksIn (d : Disk) (p : Path) (breaks : String → Fault → Prop) (f : Fault) : Prop :=
  d.BreaksReading p f ∨ ∃ text, d.read p = .ok text ∧ breaks text f

/-- A loader ends with what it makes of a text, or with what it makes of a problem. -/
theorem concludes_of_read {α β : Type} {x : Except (Halt α) β} (problem : ReadProblem → α)
    {result : String → β → Prop} {report : α → Prop} {breaks : String → Fault → Prop}
    (hreport : ∀ e, report (problem e)) (hproblem : ∀ e, d.read p = .error e → x = e.halt problem)
    (htext : ∀ text, d.read p = .ok text → Concludes x (result text) report (breaks text)) :
    Concludes x (fun b => ∃ text, d.read p = .ok text ∧ result text b) report (d.BreaksIn p breaks) := by
  rcases hread : d.read p with e | text
  · -- A problem is reported or breaks off, and no other problem stands in the same file.
    have hx := hproblem e hread
    have hbreaks : ∀ f, d.BreaksIn p breaks f ↔ e.fault? = some f := by
      intro f
      simp [BreaksIn, breaksReading_iff, hread]
    rw [ReadProblem.halt] at hx
    rcases hfault : e.fault? with _ | f
    · rw [hfault] at hx
      refine .of_report hx (hreport e) fun f hf => ?_
      rw [hbreaks, hfault] at hf
      cases hf
    · rw [hfault] at hx
      refine .of_fault hx fun g => ?_
      rw [hbreaks, hfault, Option.some.injEq, eq_comm]
  · -- A file that can be read breaks off on its text alone.
    refine (htext text hread).imp (fun b hb => ⟨text, rfl, hb⟩) (fun _ => id) fun f => ?_
    simp [BreaksIn, breaksReading_iff, hread]

end Disk

/-! ## Manifests -/

/-- The loader of a manifest gives the records of a document that is one, or it reports that the document is
    not available or corrupt. -/
theorem Manifest.load_concludes (d : Disk) (root : Path) (version : String) :
    Concludes (load d root version)
      (fun records => ∃ text, d.read (path root version) = .ok text ∧
        ∃ v, Yaml.read text = .ok v ∧ IsManifest v records)
      (fun g => g.kind = .metadataUnavailable ∨ g.kind = .metadataCorrupt)
      (d.BreaksIn (path root version) fun text f => Yaml.read text = .error (.fault f)) := by
  refine Disk.concludes_of_read
    (fun _ => .manifestUnavailable (strip version) (path root version).render)
    (fun _ => Or.inl rfl) (fun e hread => ?_) fun text hread => ?_
  · unfold load
    cases e <;> simp only [hread, ReadProblem.halt, ReadProblem.fault?]
  · rw [load_eq_ofText hread, ofText]
    rcases hv : Yaml.read text with (_ | f) | v
    · exact .of_report rfl (Or.inr rfl) fun f hf => by cases hf
    · exact .of_fault rfl fun g => by simp [eq_comm]
    · rcases ofValue_cases (path root version) v with ⟨records, hmanifest, hvalue⟩ | ⟨-, g, hg, hkind⟩
      · exact .of_ok hvalue ⟨v, rfl, hmanifest⟩ fun f hf => by cases hf
      · exact .of_report hg (Or.inr hkind) fun f hf => by cases hf

/-! ## The latest release -/

/-- The loader of the latest release gives a text with something in it and no blanks around it, or it reports
    that there is none. -/
theorem latestRelease_concludes (d : Disk) (root : Path) :
    Concludes (latestRelease d root)
      (fun latest => ∃ text, d.read (root.child latestFileName) = .ok text ∧
        latest = strip text ∧ latest ≠ "" ∧ strip latest = latest)
      (fun g => g.kind = .metadataUnavailable)
      (d.BreaksIn (root.child latestFileName) fun _ _ => False) := by
  refine Disk.concludes_of_read (fun _ => .latestUnreadable (root.child latestFileName).render)
    (fun _ => rfl) (fun e hread => ?_) fun text hread => ?_
  · unfold latestRelease
    cases e <;> simp only [hread, ReadProblem.halt, ReadProblem.fault?]
  · unfold latestRelease
    simp only [hread]
    by_cases hempty : (strip text).isEmpty
    · rw [if_pos hempty]
      exact .of_report rfl rfl fun _ => id
    · rw [if_neg hempty]
      rw [String.isEmpty_iff] at hempty
      exact .of_ok rfl ⟨rfl, hempty, strip_strip text⟩ fun _ => id

/-! ## Scripts -/

namespace Script

/-- A document that breaks the compiling of a script off: its report has no order, or it is a script and
    breaks off on a pattern. -/
def BreaksCompiling (v : Value) (f : Fault) : Prop :=
  HasMixedExample v ∧ f = .incomparablePlaces ∨ Schema.Fits schema v ∧ BreaksOff (readTemplates v) f

/-- A text that breaks the loading of a script off: as a document, or on what the document holds. -/
def BreaksDecoding (text : String) (f : Fault) : Prop :=
  Yaml.read text = .error (.fault f) ∨ ∃ v, Yaml.read text = .ok v ∧ BreaksCompiling v f

/-- A document is compiled if it is a script, or else what is wrong with it is reported. -/
theorem ofValue_concludes (source : String) (v : Value) :
    Concludes (ofValue source v)
      (fun scenarios => Schema.Fits schema v ∧ ∃ groups,
        List.Forall₂ Template.Yields (readTemplates v) groups ∧ groups.flatten = scenarios)
      (fun _ => True) (BreaksCompiling v) := by
  rcases ofValue_cases source v with ⟨hfits, hmixed, hvalue⟩ | ⟨hfits, hmixed, hvalue⟩ |
    ⟨hfits, hmixed, p, hp⟩
  · have hbreaks : ∀ f, BreaksCompiling v f ↔ BreaksOff (readTemplates v) f := by
      intro f
      simp [BreaksCompiling, hfits, hmixed]
    -- A document without an order of its violations is no script, so nothing else can break it off.
    rw [hvalue]
    rcases hcompile : compile source (readTemplates v) with (p | f) | scenarios
    · refine .of_report rfl trivial fun f hf => ?_
      cases hcompile.symm.trans (compile_eq_fault_iff.mpr ((hbreaks f).mp hf))
    · refine .of_fault rfl fun g => ?_
      have hiff : compile source (readTemplates v) = .error (.fault g) ↔
          BreaksOff (readTemplates v) g := compile_eq_fault_iff
      rw [hbreaks, ← hiff, hcompile, Except.error.injEq, Halt.fault.injEq, eq_comm]
    · refine .of_ok rfl ⟨hfits, compile_eq_ok_iff.mp hcompile⟩ fun f hf => ?_
      cases hcompile.symm.trans (compile_eq_fault_iff.mpr ((hbreaks f).mp hf))
  · rw [hvalue]
    exact .of_fault rfl fun g => by simp [BreaksCompiling, hfits, hmixed]
  · exact .of_report hp trivial fun f hf => by simp [BreaksCompiling, hfits, hmixed] at hf

/-- The loader of a script gives the scenarios of its templates, or a report. -/
theorem load_concludes (d : Disk) (path : Path) :
    Concludes (load d path)
      (fun scenarios => ∃ text, d.read path = .ok text ∧ ∃ v, Yaml.read text = .ok v ∧
        Schema.Fits schema v ∧ ∃ groups, List.Forall₂ Template.Yields (readTemplates v) groups ∧
          groups.flatten = scenarios)
      (fun _ => True) (d.BreaksIn path BreaksDecoding) := by
  refine Disk.concludes_of_read (.unreadable path) (fun _ => trivial) (fun e hread => ?_)
    fun text hread => ?_
  · unfold load
    cases e <;> simp only [hread, ReadProblem.halt, ReadProblem.fault?]
  · unfold load
    simp only [hread]
    rcases hv : Yaml.read text with (_ | f) | v
    · exact .of_report rfl trivial fun f hf => by simp [BreaksDecoding, hv] at hf
    · exact .of_fault rfl fun g => by simp [BreaksDecoding, hv, eq_comm]
    · refine (ofValue_concludes path.render v).imp (fun _ hresult => ⟨v, rfl, hresult⟩) (fun _ => id)
        fun f => ?_
      simp [BreaksDecoding, hv]

end Script

/-! ## Settings -/

namespace Settings

variable {d : Disk} {settings : Settings} {f : Fault}

/-- Settings whose loading breaks off: the first of their scripts that gives no scenarios does, or, where no
    latest release is given, the file that names it. -/
inductive BreaksLoading (settings : Settings) (d : Disk) (f : Fault) : Prop
  | rules {paths : List Path} (files : settings.rules = .files paths)
      (first : StopsAt (fun path => ∃ scenarios, Script.load d path = .ok scenarios)
        (fun path => d.BreaksIn path Script.BreaksDecoding f) paths)
  | latest (none : strip (settings.latestGiven.getD "") = "")
      (file : d.BreaksIn (settings.metadata.child latestFileName) (fun _ _ => False) f)

theorem load_files_eq_fault_iff {paths : List Path} : (RuleSource.files paths).load d = .error (.fault f) ↔
    StopsAt (fun path => ∃ scenarios, Script.load d path = .ok scenarios)
      (fun path => d.BreaksIn path Script.BreaksDecoding f) paths := by
  simp only [← (Script.load_concludes d _).eq_fault_iff, ← mapM_eq_error_iff]
  cases paths with
  | nil => simp [RuleSource.load]
  | cons path rest => simp [RuleSource.load, bind_eq_error_iff]

theorem latest_eq_fault_iff : settings.latest d = .error (.fault f) ↔
    strip (settings.latestGiven.getD "") = "" ∧
      d.BreaksIn (settings.metadata.child latestFileName) (fun _ _ => False) f := by
  simp only [Settings.latest, bind_eq_error_iff, reporting_ne_fault, pure_eq_ok, reduceCtorEq, and_false,
    exists_false, or_false, latestText]
  by_cases h : strip (settings.latestGiven.getD "") = ""
  · -- Only then is the file looked at.
    simp only [String.isEmpty_iff, h, if_true, true_and]
    exact (latestRelease_concludes d settings.metadata).eq_fault_iff
  · simp only [String.isEmpty_iff, h, if_false, reduceCtorEq, false_and]

theorem breaksLoading_iff : settings.BreaksLoading d f ↔
    settings.rules.load d = .error (.fault f) ∨ settings.latest d = .error (.fault f) := by
  rw [latest_eq_fault_iff]
  constructor
  · rintro (⟨hfiles, hfirst⟩ | ⟨hnone, hfile⟩)
    · rw [hfiles]
      exact Or.inl (load_files_eq_fault_iff.mpr hfirst)
    · exact Or.inr ⟨hnone, hfile⟩
  · rintro (hrules | ⟨hnone, hfile⟩)
    · rcases hsource : settings.rules with _ | paths
      · rw [load_of_packaged hsource] at hrules
        cases hrules
      · rw [hsource] at hrules
        exact .rules hsource (load_files_eq_fault_iff.mp hrules)
    · exact .latest hnone hfile

/-- Under settings that do not break off a sweep and its reviews begin, or they report why they do not. -/
theorem begins_or_reports (h : ∀ f, ¬ settings.BreaksLoading d f) (subs : List Submission) :
    (∃ scenarios latest, settings.rules.load d = .ok scenarios ∧ settings.latest d = .ok latest) ∨
      (∃ p, Sweep.run d settings subs = .ok (Sweep.notStarted p subs)) ∧
        ∀ s ∈ subs, ∃ q, Review.ofSubmission d settings s = .error (.report q) := by
  simp only [breaksLoading_iff, not_or, forall_and] at h
  -- Whichever of the two reports, no review and no sweep begins.
  have hreported : (∃ p, settings.rules.load d = .error (.report p)) ∨
      (∃ p, settings.latest d = .error (.report p)) →
        (∃ p, Sweep.run d settings subs = .ok (Sweep.notStarted p subs)) ∧
          ∀ s ∈ subs, ∃ q, Review.ofSubmission d settings s = .error (.report q) := fun hp =>
    ⟨Sweep.run_of_not_loaded h.1 h.2 hp, fun s _ => Review.exists_ofSubmission_report h.1 h.2 hp⟩
  rcases hrules : settings.rules.load d with (p | f) | scenarios
  · exact Or.inr (hreported (Or.inl ⟨p, hrules⟩))
  · exact absurd hrules (h.1 f)
  · rcases hlatest : settings.latest d with (p | f) | latest
    · exact Or.inr (hreported (Or.inr ⟨p, hlatest⟩))
    · exact absurd hlatest (h.2 f)
    · exact Or.inl ⟨scenarios, latest, rfl, rfl⟩

/-- A sweep under settings that break off does, unless it reports that the rules cannot be used. -/
theorem sweep_breaks (h : settings.BreaksLoading d f)
    (hrules : ∀ p, settings.rules.load d ≠ .error (.report p)) (subs : List Submission) :
    ∃ g, Sweep.run d settings subs = .error g := by
  rw [breaksLoading_iff] at h
  rcases hload : settings.rules.load d with (p | g) | scenarios
  · exact absurd hload (hrules p)
  · refine ⟨g, ?_⟩
    simp only [Sweep.run, Sweep.prepare, hload, reportingAs, error_bind]
  · rcases h with hfault | hlatest
    · cases hload.symm.trans hfault
    · refine ⟨f, ?_⟩
      simp only [Sweep.run, Sweep.prepare, hload, hlatest, reportingAs, ok_bind, error_bind]

end Settings

/-- A manifest that cannot be used is no obstacle to a review under the packaged rules. -/
theorem Review.exists_of_no_manifest {d : Disk} {settings : Settings} {latest : String} {s : Submission}
    (hrules : settings.rules = .packaged) (hlatest : settings.latest d = .ok latest)
    (hmanifest : ∀ f, ¬ d.BreaksIn (Manifest.path settings.metadata s.release)
      (fun text f => Yaml.read text = .error (.fault f)) f)
    (hs : Reviewable d settings latest s) : ∃ r, Review.ofSubmission d settings s = .ok r := by
  rcases Settings.parse_of_latest hlatest with ⟨version, hversion⟩
  have hload : ∀ f, Manifest.load d settings.metadata s.release ≠ .error (.fault f) := by
    intro f hf
    exact hmanifest f ((Manifest.load_concludes d settings.metadata s.release).eq_fault_iff.mp hf)
  rw [Review.ofSubmission_eq_hold (Settings.load_of_packaged hrules) hlatest]
  exact (exists_hold_iff hversion hload).mpr hs

/-- Metadata in which no file is a text. -/
def Disk.ofBinary : Disk :=
  ⟨[(["stable.txt"], .file [255]), (["v1.30", "conformance.yaml"], .file [255])]⟩

/-- Settings under which the metadata has to name the latest release. -/
def Settings.unnamed : Settings :=
  ⟨⟨0, []⟩, none, 2, .packaged⟩

theorem Disk.breaksReading_ofBinary {p : Path} (h : Disk.ofBinary.bytesAt p = .ok [255]) :
    ∃ f, Disk.ofBinary.BreaksReading p f := by
  rcases htext : decodeUtf8 [255] with stretch | text
  · exact ⟨_, .bytes h htext⟩
  · have hnone : (decodeUtf8 [255]).toOption.isSome = false := by decide +kernel
    rw [htext] at hnone
    cases hnone

end Assay
