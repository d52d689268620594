import Assay.Proofs.Review
import Assay.Review.Sweep

/-!
# Sweeps

A sweep loads the rules and the latest release once, a review each time and the other way around.
Once both are loaded neither has anything left to report in a review's own stead, so a sweep never
passes a submission over: it holds the reviews of all submissions, or it breaks off with the first
that does.

## Main definitions

* `Sweep.Tallies`: The counts of a sweep's summary add up to a number of submissions.

## Theorems

* `prepare_eq_ok_iff`: What a sweep has loaded before it starts.
* `reviewAll_eq_ok_iff`: Reviews that report nothing make a sweep without an error.
* `tallies_of_run`: The counts of every sweep that ends add up.
* `sweep_run_maps_reviews`: A sweep holds the reviews of its submissions, or lists them all.
-/

namespace Assay

/-! ## Reviews of many submissions -/

namespace Sweep

variable {review : Submission → Except (Halt Problem) Review} {subs : List Submission}

theorem reviewAll_cons_eq_ok_iff {s : Submission} {sweep : Sweep} :
    reviewAll review (s :: subs) = .ok sweep ↔
      (∃ r below, review s = .ok r ∧ reviewAll review subs = .ok below ∧
        sweep = withReview r below) ∨
      ∃ p below, review s = .error (.report p) ∧ reviewAll review subs = .ok below ∧
        sweep = withError s.number p below := by
  rw [reviewAll]
  rcases hs : review s with (p | f) | r <;> rcases hrest : reviewAll review subs with f' | below <;>
    simp [Except.map, eq_comm]

/-- Reviews that report nothing make a sweep without an error, and with a review of each. -/
theorem reviewAll_eq_ok_iff (hreview : ∀ s ∈ subs, ∀ p, review s ≠ .error (.report p))
    {sweep : Sweep} : reviewAll review subs = .ok sweep ↔
      ∃ reviews, List.Forall₂ (fun s r => review s = .ok r) subs reviews ∧
        sweep = ⟨reviews, [], []⟩ := by
  induction subs generalizing sweep with
  | nil =>
      simp only [reviewAll, Except.ok.injEq, List.forall₂_nil_left_iff, exists_eq_left]
      exact eq_comm
  | cons s rest ih =>
      have hrest := fun t ht => hreview t (List.mem_cons_of_mem s ht)
      rw [reviewAll_cons_eq_ok_iff]
      constructor
      · rintro (⟨r, below, hr, hbelow, rfl⟩ | ⟨p, below, hp, -, -⟩)
        · rcases (ih hrest).mp hbelow with ⟨reviews, hreviews, rfl⟩
          exact ⟨r :: reviews, List.Forall₂.cons hr hreviews, rfl⟩
        · exact absurd hp (hreview s List.mem_cons_self p)
      · rintro ⟨_ | ⟨r, reviews⟩, hall, rfl⟩
        · cases hall
        · rcases List.forall₂_cons.mp hall with ⟨hr, hreviews⟩
          exact Or.inl ⟨r, _, hr, (ih hrest).mpr ⟨reviews, hreviews, rfl⟩, rfl⟩

theorem reviewAll_cons_eq_error_iff {s : Submission} {f : Fault} :
    reviewAll review (s :: subs) = .error f ↔ review s = .error (.fault f) ∨
      (∀ f', review s ≠ .error (.fault f')) ∧ reviewAll review subs = .error f := by
  rw [reviewAll]
  rcases hs : review s with (p | f') | r <;> rcases hrest : reviewAll review subs with f'' | below <;>
    simp [Except.map]

/-- A sweep breaks off where a review does. -/
theorem exists_of_reviewAll_error {f : Fault} (h : reviewAll review subs = .error f) :
    ∃ s ∈ subs, review s = .error (.fault f) := by
  induction subs with
  | nil => cases h
  | cons s rest ih =>
      rcases reviewAll_cons_eq_error_iff.mp h with hs | ⟨-, hrest⟩
      · exact ⟨s, List.mem_cons_self, hs⟩
      · rcases ih hrest with ⟨t, ht, hfault⟩
        exact ⟨t, List.mem_cons_of_mem s ht, hfault⟩

theorem review_ne_fault_of_reviewAll {sweep : Sweep} (h : reviewAll review subs = .ok sweep) :
    ∀ s ∈ subs, ∀ f, review s ≠ .error (.fault f) := by
  induction subs generalizing sweep with
  | nil => exact fun s hs => absurd hs List.not_mem_nil
  | cons s rest ih =>
      intro t ht f
      rcases reviewAll_cons_eq_ok_iff.mp h with
          ⟨r, below, hr, hbelow, -⟩ | ⟨p, below, hp, hbelow, -⟩ <;>
        rcases List.mem_cons.mp ht with rfl | hmem
      · rw [hr]
        simp
      · exact ih hbelow t hmem f
      · rw [hp]
        simp
      · exact ih hbelow t hmem f

/-- Reviews make a sweep where none of them breaks off. -/
theorem exists_reviewAll_iff :
    (∃ sweep, reviewAll review subs = .ok sweep) ↔
      ∀ s ∈ subs, ∀ f, review s ≠ .error (.fault f) := by
  constructor
  · rintro ⟨sweep, h⟩
    exact review_ne_fault_of_reviewAll h
  · intro h
    cases hrun : reviewAll review subs with
    | ok sweep => exact ⟨sweep, rfl⟩
    | error f =>
        rcases exists_of_reviewAll_error hrun with ⟨s, hs, hfault⟩
        exact absurd hfault (h s hs f)

/-! ## Counts -/

/-- Every submission is either reviewed or listed. -/
theorem length_of_reviewAll {sweep : Sweep} (h : reviewAll review subs = .ok sweep) :
    sweep.reviews.length + sweep.errors.length = subs.length := by
  induction subs generalizing sweep with
  | nil =>
      rw [← Except.ok.inj h]
      rfl
  | cons s rest ih =>
      rcases reviewAll_cons_eq_ok_iff.mp h with
        ⟨r, below, -, hbelow, rfl⟩ | ⟨p, below, -, hbelow, rfl⟩
      · have := ih hbelow
        simp only [withReview, List.length_cons]
        omega
      · have := ih hbelow
        simp only [withError, List.length_cons]
        omega

/-- Every review ended in one of the three states. -/
theorem count_add_count (s : Sweep) :
    s.count .success + s.count .failure + s.count .pending = s.reviews.length := by
  unfold count
  induction s.reviews with
  | nil => rfl
  | cons r rest ih =>
      simp only [List.countP_cons, List.length_cons]
      cases r.verdict.state <;> simp <;> omega

/-- The counts in the summary of a sweep over `total` submissions add up. -/
structure Tallies (s : Sweep) (total : Nat) : Prop where
  scanned : ∀ t, (s.members t).lookup "scanned_total" = some (.int total)
  errors : ∀ t, (s.members t).lookup "error_count" = some (.int s.errors.length)
  states : ∀ t, ∃ success failure pending : Nat,
    (s.members t).lookup "success_count" = some (.int success) ∧
      (s.members t).lookup "failure_count" = some (.int failure) ∧
        (s.members t).lookup "pending_count" = some (.int pending) ∧
          success + failure + pending + s.errors.length = total

theorem tallies_of_length {s : Sweep} {total : Nat}
    (h : s.reviews.length + s.errors.length = total) : s.Tallies total where
  scanned t := by
    rw [← h]
    rfl
  errors t := rfl
  states t := by
    refine ⟨s.count .success, s.count .failure, s.count .pending, rfl, rfl, rfl, ?_⟩
    rw [count_add_count, h]

/-! ## Loading -/

theorem prepare_eq_ok_iff {d : Disk} {settings : Settings} {scenarios : List Scenario}
    {latest : String} : prepare d settings = .ok (scenarios, latest) ↔
      settings.rules.load d = .ok scenarios ∧ settings.latest d = .ok latest := by
  simp only [prepare, bind_eq_ok_iff, reportingAs_eq_ok_iff, pure_eq_ok, Except.ok.injEq,
    Prod.mk.injEq]
  constructor
  · rintro ⟨_, hrules, _, hlatest, rfl, rfl⟩
    exact ⟨hrules, hlatest⟩
  · rintro ⟨hrules, hlatest⟩
    exact ⟨scenarios, hrules, latest, hlatest, rfl, rfl⟩

theorem exists_of_prepare_fault {d : Disk} {settings : Settings} {f : Fault}
    (h : prepare d settings = .error (.fault f)) :
    settings.rules.load d = .error (.fault f) ∨ settings.latest d = .error (.fault f) := by
  rcases bind_eq_error_iff.mp h with hrules | ⟨scenarios, -, hrest⟩
  · exact Or.inl (reportingAs_eq_fault_iff.mp hrules)
  · rcases bind_eq_error_iff.mp hrest with hlatest | ⟨latest, -, hpure⟩
    · exact Or.inr (reportingAs_eq_fault_iff.mp hlatest)
    · cases hpure

theorem tallies_of_run {d : Disk} {settings : Settings} {subs : List Submission} {sweep : Sweep}
    (h : run d settings subs = .ok sweep) : sweep.Tallies subs.length := by
  refine tallies_of_length ?_
  unfold run at h
  rcases hprepare : prepare d settings with (p | f) | ⟨scenarios, latest⟩
  · simp only [hprepare, Except.ok.injEq] at h
    rw [← h]
    simp only [notStarted, List.length_nil, List.length_map, Nat.zero_add]
  · simp only [hprepare, reduceCtorEq] at h
  · simp only [hprepare] at h
    exact length_of_reviewAll h

end Sweep

/-! ## Sweeps and reviews -/

theorem Sweep.run_eq_reviewAll {d : Disk} {settings : Settings} {subs : List Submission}
    {scenarios : List Scenario} {latest : String} (hrules : settings.rules.load d = .ok scenarios)
    (hlatest : settings.latest d = .ok latest) :
    run d settings subs = reviewAll (Review.hold d settings scenarios latest) subs := by
  unfold run
  rw [prepare_eq_ok_iff.mpr ⟨hrules, hlatest⟩]

/-- Where the run of a review ends, the release is all that the review can break off on. -/
theorem Review.hold_eq_fault_iff_of_run {d : Disk} {settings : Settings} {scenarios : List Scenario}
    {latest : String} {s : Submission} {f : Fault}
    (hrun : ∀ f, runAll (briefOf d settings latest s) .start scenarios ≠ .error f) :
    hold d settings scenarios latest s = .error (.fault f) ↔
      (briefOf d settings latest s).Unreachable ∧ f = .nameTooLong := by
  rw [hold_eq_fault_iff]
  constructor
  · rintro (h | ⟨-, hunreachable⟩)
    · exact absurd h (hrun f)
    · exact hunreachable
  · intro hunreachable
    cases h : runAll (briefOf d settings latest s) .start scenarios with
    | error f' => exact absurd h (hrun f')
    | ok result => exact Or.inr ⟨⟨result, rfl⟩, hunreachable⟩

/-- A sweep whose runs do not break off breaks off on an unreachable release, or else holds what
    each submission is given alone. -/
theorem Sweep.run_of_loaded {d : Disk} {settings : Settings} {subs : List Submission}
    {scenarios : List Scenario} {latest : String} (hrules : settings.rules.load d = .ok scenarios)
    (hlatest : settings.latest d = .ok latest)
    (hruns : ∀ s ∈ subs, ∀ f,
      runAll (Review.briefOf d settings latest s) .start scenarios ≠ .error f) :
    ((∀ s ∈ subs, ¬ (Review.briefOf d settings latest s).Unreachable) → ∃ reviews,
        List.Forall₂ (fun s r => Review.ofSubmission d settings s = .ok r) subs reviews ∧
          run d settings subs = .ok ⟨reviews, [], []⟩) ∧
      ((∃ s ∈ subs, (Review.briefOf d settings latest s).Unreachable) →
        run d settings subs = .error .nameTooLong) := by
  rcases Settings.parse_of_latest hlatest with ⟨version, hversion⟩
  rw [run_eq_reviewAll hrules hlatest]
  have hreport : ∀ s ∈ subs, ∀ p, Review.hold d settings scenarios latest s ≠ .error (.report p) :=
    fun s _ => Review.hold_ne_report hversion
  have hfault : ∀ s ∈ subs, ∀ f, Review.hold d settings scenarios latest s = .error (.fault f) ↔
      (Review.briefOf d settings latest s).Unreachable ∧ f = .nameTooLong :=
    fun s hs f => Review.hold_eq_fault_iff_of_run (hruns s hs)
  constructor
  · intro hreachable
    have hno : ∀ s ∈ subs, ∀ f, Review.hold d settings scenarios latest s ≠ .error (.fault f) :=
      fun s hs f hbreak => hreachable s hs ((hfault s hs f).mp hbreak).1
    rcases exists_reviewAll_iff.mpr hno with ⟨sweep, hsweep⟩
    rcases (reviewAll_eq_ok_iff hreport).mp hsweep with ⟨reviews, hreviews, rfl⟩
    refine ⟨reviews, hreviews.imp fun s r hr => ?_, hsweep⟩
    rw [Review.ofSubmission_eq_hold hrules hlatest]
    exact hr
  · rintro ⟨s, hs, hunreachable⟩
    -- A sweep breaks off with the first review that does, and there is only one fault that it can be.
    cases hrun : reviewAll (Review.hold d settings scenarios latest) subs with
    | ok sweep =>
        exact absurd ((hfault s hs _).mpr ⟨hunreachable, rfl⟩)
          (review_ne_fault_of_reviewAll hrun s hs _)
    | error f =>
        rcases exists_of_reviewAll_error hrun with ⟨t, ht, hbreak⟩
        rw [((hfault t ht f).mp hbreak).2]

/-- A sweep that reports before it starts lists every submission with what was reported. -/
theorem Sweep.run_of_not_loaded {d : Disk} {settings : Settings} {subs : List Submission}
    (hrulesFault : ∀ f, settings.rules.load d ≠ .error (.fault f))
    (hlatestFault : ∀ f, settings.latest d ≠ .error (.fault f))
    (h : (∃ p, settings.rules.load d = .error (.report p)) ∨
      ∃ p, settings.latest d = .error (.report p)) :
    ∃ p, run d settings subs = .ok (notStarted p subs) := by
  unfold run
  rcases hprepare : prepare d settings with (p | f) | ⟨scenarios, latest⟩
  · exact ⟨p, rfl⟩
  · rcases exists_of_prepare_fault hprepare with hf | hf
    · exact absurd hf (hrulesFault f)
    · exact absurd hf (hlatestFault f)
  · rcases prepare_eq_ok_iff.mp hprepare with ⟨hrules, hlatest⟩
    -- What is reported was not loaded.
    rcases h with ⟨p, hp⟩ | ⟨p, hp⟩
    · rw [hrules] at hp
      cases hp
    · rw [hlatest] at hp
      cases hp

end Assay
