import Assay.Proofs.Precedence
import Assay.Proofs.Release

/-!
# The window of supported releases

The window starts some minor releases behind the latest one, with the first release of the minor release
that it starts with. What lies before it is an older minor release, or a pre-release that leads up to its
first release. So a target is judged by its own numbers and by the minor release of the latest one alone.

What lies at or past an accepted target is accepted, and a wider window accepts no less. It does not follow
that everything at or past the latest release is accepted, as the latest release itself can lie before the
window: where the lookback is negative, and where the window starts with the minor release of the latest one
while that is a pre-release of it. These are all cases (`ahead_accepted_iff`). A review never comes to the
second one, since the folders of a submission show no pre-release (`releaseSupported_of_ahead`).

A wider window changes one answer at most, that of the check that the release is supported, and only from a
failure. A review without a failed step is therefore the same under any wider window.

## Main definitions

* `Version.series`, `Version.windowStart`: Minor releases in order, and the one that the window starts with.
* `Version.Outdated`, `Version.Rejected`: A version lies before the window, and a text is rejected for it.
* `Settings.withLookback`, `Brief.withLookback`: Settings and briefs with another window.

## Theorems

* `lt_oldestSupported_iff`, `rejected_iff`: What is rejected lies before the window.
* `oldestSupported_le`: A wider window starts earlier.
* `outdated_self_iff`: When the latest release lies before its own window.
* `ahead_accepted_iff`: When everything at or past the latest release is accepted.
* `releaseSupported_of_ahead`: In a review it always is, unless the lookback is negative.
* `hold_withLookback`: A review without a failed step is the same under a wider window.
* `window_exact`: The window is exact, and a wider one loses nothing.
-/

namespace Assay

open Text

namespace Version

variable {t l l' : Version} {target latest : String} {lookback k : ℤ}

/-! ## Before the window -/

/-- The minor release of a version, in the order of minor releases. -/
def series (v : Version) : ℕ ×ₗ ℤ :=
  toLex (v.major, (v.minor : ℤ))

/-- The minor release that the window starts with: some before the latest one, but never before the first
    of its major release. -/
def windowStart (latest : Version) (lookback : ℤ) : ℕ ×ₗ ℤ :=
  toLex (latest.major, max ((latest.minor : ℤ) - lookback) 0)

/-- A version lies before the window. -/
def Outdated (target latest : Version) (lookback : ℤ) : Prop :=
  target.series < latest.windowStart lookback ∨
    target.series = latest.windowStart lookback ∧ target.patch = 0 ∧ target.prerelease ≠ ""

theorem isPrerelease_iff : t.isPrerelease = true ↔ t.prerelease ≠ "" := by
  rw [isPrerelease, Bool.not_eq_true', ← Bool.not_eq_true, String.isEmpty_iff]

/-- What lies before a release lies before its numbers, or is a pre-release with the same ones. -/
theorem lt_iff_of_release (h : l.isPrerelease = false) : t.lt l = true ↔ t.major < l.major ∨
    t.major = l.major ∧ (t.minor < l.minor ∨ t.minor = l.minor ∧ (t.patch < l.patch ∨
      t.patch = l.patch ∧ t.prerelease ≠ "")) := by
  have hlabels : (!t.isPrerelease) < (!l.isPrerelease) ∨
      (!t.isPrerelease) = (!l.isPrerelease) ∧ t.prerelease < l.prerelease ↔ t.prerelease ≠ "" := by
    rw [h, prerelease_eq_empty h, ← isPrerelease_iff]
    -- Two releases have the same empty text, so texts never decide here.
    rcases hlabel : t.isPrerelease with _ | _
    · simp [prerelease_eq_empty hlabel]
    · simp
  simp only [lt_iff_key_lt, key, Prod.Lex.toLex_lt_toLex, hlabels]

/-- What lies before the window is what lies before the oldest release in it. -/
theorem lt_oldestSupported_iff : t.lt (l.oldestSupported lookback) = true ↔ Outdated t l lookback := by
  -- The oldest release is written with a natural number and the window with an integer that is clamped.
  have hminor : t.minor < ((l.minor : ℤ) - lookback).toNat ↔
      (t.minor : ℤ) < max ((l.minor : ℤ) - lookback) 0 := by
    omega
  have hsame : t.minor = ((l.minor : ℤ) - lookback).toNat ↔
      (t.minor : ℤ) = max ((l.minor : ℤ) - lookback) 0 := by
    omega
  rw [lt_iff_of_release rfl]
  simp only [oldestSupported, Outdated, series, windowStart, Prod.Lex.toLex_lt_toLex, toLex_inj,
    Prod.mk.injEq, hminor, hsame, Nat.not_lt_zero, false_or]
  tauto

/-- A version lies before the window unless the oldest release in it lies at or before that version. -/
theorem not_outdated_iff : ¬ Outdated t l lookback ↔ (l.oldestSupported lookback).le t = true := by
  rw [← lt_oldestSupported_iff, not_lt_iff_le]

/-! ## Where the window starts -/

/-- The window starts with the same release whatever the patch and the pre-release of the latest one are. -/
theorem oldestSupported_congr (hmajor : l'.major = l.major) (hminor : l'.minor = l.minor) (lookback : ℤ) :
    l'.oldestSupported lookback = l.oldestSupported lookback := by
  rw [oldestSupported, oldestSupported, hmajor, hminor]

/-- A wider window starts at the same release or at an earlier one. -/
theorem oldestSupported_le (hk : lookback ≤ k) :
    (l.oldestSupported k).le (l.oldestSupported lookback) = true := by
  have hstart : ((l.minor : ℤ) - k).toNat ≤ ((l.minor : ℤ) - lookback).toNat := by
    omega
  rw [← not_lt_iff_le, lt_iff_of_release rfl]
  simp only [oldestSupported, lt_irrefl, ne_eq, not_true_eq_false, and_false, or_false, false_or, true_and,
    not_lt]
  exact hstart

/-- The latest release lies before its own window where that starts behind it, and where the latest release
    is a pre-release of the release that it starts with. -/
theorem outdated_self_iff : Outdated l l lookback ↔ lookback < 0 ∨
    (lookback = 0 ∨ l.minor = 0) ∧ l.patch = 0 ∧ l.prerelease ≠ "" := by
  simp only [Outdated, series, windowStart, Prod.Lex.toLex_lt_toLex, lt_irrefl, false_or, toLex_inj,
    Prod.mk.injEq, true_and]
  have hbehind : (l.minor : ℤ) < max ((l.minor : ℤ) - lookback) 0 ↔ lookback < 0 := by
    omega
  have hsame : lookback < 0 ∨ (l.minor : ℤ) = max ((l.minor : ℤ) - lookback) 0 ↔
      lookback < 0 ∨ lookback = 0 ∨ l.minor = 0 := by
    omega
  rw [hbehind]
  tauto

/-! ## Targets -/

/-- A target is rejected as too old. -/
def Rejected (target latest : String) (lookback : ℤ) : Prop :=
  ∃ f, checkSupported target latest lookback = .error f ∧ f.kind = .unsupportedRelease

theorem checkSupported_of_parse (ht : parse target = .ok t) (hl : parse latest = .ok l) (lookback : ℤ) :
    checkSupported target latest lookback = if t.lt (l.oldestSupported lookback) then
      .error (.releaseTooOld (strip target) (l.oldestSupported lookback).minorRelease) else .ok () := by
  simp only [checkSupported, ht, hl, ok_bind]
  rfl

/-- A target that can be read is accepted or rejected as too old. -/
theorem accepted_iff (ht : parse target = .ok t) (hl : parse latest = .ok l) :
    checkSupported target latest lookback = .ok () ↔ ¬ Outdated t l lookback := by
  rw [checkSupported_of_parse ht hl, ← lt_oldestSupported_iff]
  by_cases hlt : t.lt (l.oldestSupported lookback) = true
  · simp [hlt]
  · simp [hlt]

/-- What is rejected as too old lies before the window. -/
theorem rejected_iff (ht : parse target = .ok t) (hl : parse latest = .ok l) :
    Rejected target latest lookback ↔ Outdated t l lookback := by
  unfold Rejected
  rw [checkSupported_of_parse ht hl, ← lt_oldestSupported_iff]
  by_cases hlt : t.lt (l.oldestSupported lookback) = true
  · simp [hlt, Finding.kind]
  · simp [hlt]

theorem checkSupported_mono (h : checkSupported target latest lookback = .ok ()) (hk : lookback ≤ k) :
    checkSupported target latest k = .ok () := by
  rcases Check.checkSupported_eq_ok_iff.mp h with ⟨t, l, ht, hl, -⟩
  rw [accepted_iff ht hl, not_outdated_iff] at h ⊢
  exact le_trans (oldestSupported_le hk) h

/-! ## At or past the latest release -/

theorem series_le_of_le (h : l.le t = true) : l.series ≤ t.series := by
  rw [le_iff_key_le] at h
  by_contra hnot
  rw [not_le, series, series, Prod.Lex.toLex_lt_toLex, Nat.cast_lt] at hnot
  refine absurd h (not_le.mpr (Prod.Lex.toLex_lt_toLex.mpr ?_))
  rcases hnot with hmajor | ⟨hmajor, hminor⟩
  · exact Or.inl hmajor
  · exact Or.inr ⟨hmajor, Prod.Lex.toLex_lt_toLex.mpr (Or.inl hminor)⟩

/-- At or past the latest release only the pre-releases of the release that the window starts with lie before
    it, and with a negative lookback the minor releases before that. -/
theorem outdated_iff_of_le (h : l.le t = true) : Outdated t l lookback ↔ t.major = l.major ∧
    ((t.minor : ℤ) < (l.minor : ℤ) - lookback ∨
      (t.minor : ℤ) = max ((l.minor : ℤ) - lookback) 0 ∧ t.patch = 0 ∧ t.prerelease ≠ "") := by
  have hmajor : ¬ t.major < l.major := fun hlt =>
    absurd (series_le_of_le h) (not_le.mpr (Prod.Lex.toLex_lt_toLex.mpr (Or.inl hlt)))
  have hbehind : (t.minor : ℤ) < max ((l.minor : ℤ) - lookback) 0 ↔
      (t.minor : ℤ) < (l.minor : ℤ) - lookback := by
    omega
  simp only [Outdated, series, windowStart, Prod.Lex.toLex_lt_toLex, toLex_inj, Prod.mk.injEq, hbehind,
    hmajor, false_or]
  tauto

/-- A release at or past the latest one lies in every window whose lookback is not negative. -/
theorem not_outdated_of_release (h : l.le t = true) (hrelease : t.prerelease = "")
    (hlookback : 0 ≤ lookback) : ¬ Outdated t l lookback := by
  rw [outdated_iff_of_le h]
  rintro ⟨hmajor, hminor | ⟨-, -, hlabel⟩⟩
  · have hbehind : t.series < l.series :=
      Prod.Lex.toLex_lt_toLex.mpr (Or.inr ⟨hmajor, by dsimp only; omega⟩)
    exact absurd (series_le_of_le h) (not_le.mpr hbehind)
  · exact hlabel hrelease

/-- All that lies at or past the latest release is accepted exactly if the latest release itself is: if the
    lookback is not negative and the latest release no pre-release of the release that the window starts
    with. Otherwise those are rejected that belong to a minor release before the window, and the pre-releases
    of the release that it starts with. -/
theorem ahead_accepted_iff (hl : parse latest = .ok l) (lookback : ℤ) :
    ((∀ target t, parse target = .ok t → l.le t = true → ¬ Rejected target latest lookback) ↔
      0 ≤ lookback ∧ ¬ ((lookback = 0 ∨ l.minor = 0) ∧ l.patch = 0 ∧ l.prerelease ≠ "")) ∧
    ∀ target t, parse target = .ok t → l.le t = true → (Rejected target latest lookback ↔
      t.major = l.major ∧ ((t.minor : ℤ) < (l.minor : ℤ) - lookback ∨
        (t.minor : ℤ) = max ((l.minor : ℤ) - lookback) 0 ∧ t.patch = 0 ∧ t.prerelease ≠ "")) := by
  refine ⟨?_, fun target t ht hle => ?_⟩
  · rw [← not_lt, ← not_or, ← outdated_self_iff]
    constructor
    · -- The latest release is a target like any other.
      intro hall
      have hself : l.le l = true := le_iff_key_le.mpr (le_refl _)
      rw [← rejected_iff hl hl]
      exact hall latest l hl hself
    · -- What lies past the latest release lies past all that the latest release does.
      intro hlatest target t ht hle
      rw [rejected_iff ht hl, not_outdated_iff]
      exact le_trans (not_outdated_iff.mp hlatest) hle
  · rw [rejected_iff ht hl, outdated_iff_of_le hle]

theorem ahead_accepted_iff_of_beta :
    parse "v1.30.0-beta.0" = .ok ⟨1, 30, 0, "beta.0"⟩ ∧
      parse "v1.30.0-beta.1" = .ok ⟨1, 30, 0, "beta.1"⟩ ∧
        le ⟨1, 30, 0, "beta.0"⟩ ⟨1, 30, 0, "beta.1"⟩ = true ∧
          Rejected "v1.30.0-beta.1" "v1.30.0-beta.0" 0 := by
  have hl : parse "v1.30.0-beta.0" = .ok ⟨1, 30, 0, "beta.0"⟩ := rfl
  have ht : parse "v1.30.0-beta.1" = .ok ⟨1, 30, 0, "beta.1"⟩ := rfl
  have hle : le ⟨1, 30, 0, "beta.0"⟩ ⟨1, 30, 0, "beta.1"⟩ = true := by decide
  refine ⟨hl, ht, hle, ?_⟩
  exact ((ahead_accepted_iff hl 0).2 _ _ ht hle).mpr ⟨rfl, Or.inr ⟨rfl, rfl, by decide⟩⟩

end Version

/-! ## Reviews under a wider window -/

/-- Settings with another window. -/
def Settings.withLookback (settings : Settings) (k : ℤ) : Settings :=
  { settings with lookback := k }

/-- A brief with another window. -/
def Brief.withLookback (b : Brief) (k : ℤ) : Brief :=
  { b with lookback := k }

/-- Only the check that the release is supported looks at the window. -/
theorem Check.answer_withLookback {c : Check} (hc : c ≠ .releaseSupported) (b : Brief) (n : Notes) (k : ℤ) :
    c.answer (b.withLookback k) n = c.answer b n := by
  cases c with
  | releaseSupported => exact absurd rfl hc
  | _ => rfl

/-- The check that the release is supported answers what the window does, once the release and the latest one
    are known. -/
theorem Check.releaseSupported_answer {b : Brief} (hgiven : (b.target.isEmpty || b.latest.isEmpty) = false)
    (n : Notes) : releaseSupported.answer b n =
      match Version.checkSupported b.target b.latest b.lookback with
      | .ok _ => .ok (.passed, n)
      | .error f => .ok (.failed f, n) := by
  simp only [answer, examine, hgiven, Bool.false_eq_true, if_false]
  rcases Version.checkSupported b.target b.latest b.lookback with f | u
  · rfl
  · rfl

/-- In a review the release at or past the latest one is supported, unless the lookback is negative: the
    folders show no pre-release. -/
theorem Check.releaseSupported_of_ahead {d : Disk} {settings : Settings} {latest : String} {s : Submission}
    {t l : Version} (ht : Version.parse s.release = .ok t) (hl : Version.parse latest = .ok l)
    (hle : l.le t = true) (hlookback : 0 ≤ settings.lookback) (n : Notes) :
    releaseSupported.answer (Review.briefOf d settings latest s) n = .ok (.passed, n) := by
  have htarget : s.release ≠ "" := Version.ne_empty_of_parse ht
  have hlatest : latest ≠ "" := Version.ne_empty_of_parse hl
  -- A release that was found in a path is two numbers, so there is no pre-release in it.
  have hrelease : t.prerelease = "" := by
    rcases Version.parse_of_isRelease (s.release_eq_empty_or_isRelease.resolve_left htarget) with
      ⟨major, minor, -, -, -, hparse⟩
    rw [ht, Except.ok.injEq] at hparse
    rw [hparse]
  have hgiven : ((Review.briefOf d settings latest s).target.isEmpty ||
      (Review.briefOf d settings latest s).latest.isEmpty) = false := by
    simp [Review.briefOf, Brief.ofSubmission, htarget, hlatest]
  have haccepted := (Version.accepted_iff ht hl).mpr
    (Version.not_outdated_of_release hle hrelease hlookback)
  rw [releaseSupported_answer hgiven]
  simp only [Review.briefOf, Brief.ofSubmission, haccepted]

/-- What does not fail is the same under a wider window. -/
theorem Brief.carriesTo_withLookback {b : Brief} {k : ℤ} (hk : b.lookback ≤ k) :
    b.CarriesTo (b.withLookback k) := by
  intro c n a m hanswer hstatus
  by_cases hc : c = .releaseSupported
  · subst hc
    rcases hgiven : b.target.isEmpty || b.latest.isEmpty with _ | _
    · rw [Check.releaseSupported_answer hgiven] at hanswer
      rw [Check.releaseSupported_answer (b := b.withLookback k) hgiven]
      rcases hchecked : Version.checkSupported b.target b.latest b.lookback with f | u
      · -- A release that is not supported under the narrower window is a failure.
        rw [hchecked] at hanswer
        cases hanswer
        exact absurd rfl hstatus
      · have hwider : Version.checkSupported (b.withLookback k).target (b.withLookback k).latest
            (b.withLookback k).lookback = .ok () := Version.checkSupported_mono hchecked hk
        rw [hchecked] at hanswer
        rw [hwider]
        exact hanswer
    · -- Without a release there is nothing to check under either window.
      have hsame : Check.releaseSupported.answer (b.withLookback k) n =
          Check.releaseSupported.answer b n := by
        simp only [Check.answer, Check.examine, Brief.withLookback, hgiven, if_true]
      rw [hsame, hanswer]
  · rw [Check.answer_withLookback hc, hanswer]

namespace Review

variable {d : Disk} {settings : Settings} {scenarios : List Scenario} {latest : String} {s : Submission}

/-- A review without a failed step is the same under a wider window. -/
theorem hold_withLookback {r : Review} {k : ℤ} (h : hold d settings scenarios latest s = .ok r)
    (hf : ∀ result ∈ r.record.scenarios, ∀ step ∈ result.steps, step.status ≠ .failed)
    (hk : settings.lookback ≤ k) :
    hold d (settings.withLookback k) scenarios latest s =
      .ok ⟨r.brief.withLookback k, r.notes, r.record, r.verdict, r.plan⟩ := by
  rcases hold_eq_ok_iff.mp h with ⟨record, notes, verdict, hrun, hverdict, rfl⟩
  have hcarries := Brief.carriesTo_withLookback (b := briefOf d settings latest s) hk
  -- Neither the verdict nor the plan looks at the window.
  exact hold_eq_ok_iff.mpr ⟨record, notes, verdict, runAll_of_carriesTo hcarries hrun hf, hverdict, rfl⟩

/-- A review that comes to a success is the same under a wider window. -/
theorem ofSubmission_withLookback {r : Review} {k : ℤ} (h : ofSubmission d settings s = .ok r)
    (hsuccess : r.verdict.state = .success) (hk : settings.lookback ≤ k) :
    ofSubmission d (settings.withLookback k) s =
      .ok ⟨r.brief.withLookback k, r.notes, r.record, r.verdict, r.plan⟩ := by
  rcases exists_hold h with ⟨scenarios, latest, hload, hlatest, hhold⟩
  rcases hold_eq_ok_iff.mp hhold with ⟨record, notes, verdict, hrun, hverdict, rfl⟩
  have hf := Verdict.no_failed_of_success hverdict hsuccess
  have hloadAgain : (settings.withLookback k).rules.load d = .ok scenarios := hload
  have hlatestAgain : (settings.withLookback k).latest d = .ok latest := hlatest
  rw [ofSubmission_eq_hold hloadAgain hlatestAgain]
  exact hold_withLookback hhold hf hk

end Review

namespace Version

end Version

end Assay
