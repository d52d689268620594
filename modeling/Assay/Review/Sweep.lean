import Assay.Review.Basic

/-!
# Sweeps

A sweep reviews many submissions under one set of settings. The rules and the latest release are
loaded once; where they are not usable no submission is reviewed, and each is listed with what was
wrong. A submission whose review cannot be held is listed and passed over.

## Main definitions

* `Sweep`: What a sweep came to.
* `Sweep.run`: The sweep over some submissions.
* `Timing`: When a sweep was run.
* `Sweep.toJson`: A sweep's summary as data.
-/

namespace Assay

/-- The tag of every line that is meant for the operator. -/
def logTag : String := "[conformance-review]"

/-- When a sweep began and ended, and how many milliseconds it took. -/
structure Timing where
  started : String
  completed : String
  latency : Number.Binary64

/-- The timing of a sweep under a clock that stands still, so that equal sweeps give equal
    summaries. -/
def Timing.still : Timing :=
  ⟨"1970-01-01T00:00:00Z", "1970-01-01T00:00:00Z", .zero false⟩

/-- A submission that was not reviewed, by its number, and why. -/
structure SweepError where
  number : Int
  error : String
  deriving DecidableEq, Repr

/-- What a sweep came to, with the lines that it has for the operator. -/
structure Sweep where
  reviews : List Review
  errors : List SweepError
  log : List String

namespace Sweep

/-- The rules and the latest release of a sweep. -/
def prepare (d : Disk) (settings : Settings) :
    Except (Halt Problem) (List Scenario × String) := do
  let scenarios ← reportingAs Problem.script (settings.rules.load d)
  let latest ← reportingAs Problem.finding (settings.latest d)
  return (scenarios, latest)

/-- The sweep in which no submission was reviewed. -/
def notStarted (p : Problem) (submissions : List Submission) : Sweep :=
  ⟨[], submissions.map fun s => ⟨s.number, p.message⟩,
    [logTag ++ " unable to start sweep: " ++ p.message]⟩

/-- A sweep with a review before those that it holds. -/
def withReview (r : Review) (s : Sweep) : Sweep :=
  { s with reviews := r :: s.reviews }

/-- A sweep with a submission before the others that was passed over. -/
def withError (number : Int) (p : Problem) (s : Sweep) : Sweep :=
  { s with
    errors := ⟨number, p.message⟩ :: s.errors
    log := (logTag ++ " skipping submission #" ++ toString number ++ ": " ++ p.message) :: s.log }

/-- The reviews of submissions in order. -/
def reviewAll (review : Submission → Except (Halt Problem) Review) :
    List Submission → Except Fault Sweep
  | [] => .ok ⟨[], [], []⟩
  | s :: rest =>
    match review s with
    | .ok r => (reviewAll review rest).map (withReview r)
    | .error (.report p) => (reviewAll review rest).map (withError s.number p)
    | .error (.fault f) => .error f

/-- The sweep over some submissions. -/
def run (d : Disk) (settings : Settings) (submissions : List Submission) : Except Fault Sweep :=
  match prepare d settings with
  | .ok (scenarios, latest) => reviewAll (Review.hold d settings scenarios latest) submissions
  | .error (.report p) => .ok (notStarted p submissions)
  | .error (.fault f) => .error f

/-- The number of reviews that ended in a state. -/
def count (s : Sweep) (state : VerdictState) : Nat :=
  s.reviews.countP fun r => r.verdict.state = state

/-- A submission that was not reviewed, as data. -/
def errorJson (e : SweepError) : Json :=
  .object [("number", .int e.number), ("error", .text e.error)]

/-- The members of a sweep's summary. -/
def members (t : Timing) (s : Sweep) : List (String × Json) :=
  [("schema_version", .int 1), ("kind", .text "conformance_sweep"),
    ("started_at_utc", .text t.started), ("completed_at_utc", .text t.completed),
    ("scanned_total", .int (s.reviews.length + s.errors.length : Nat)),
    ("success_count", .int (s.count .success)), ("failure_count", .int (s.count .failure)),
    ("pending_count", .int (s.count .pending)), ("error_count", .int s.errors.length),
    ("latency_ms", .float t.latency), ("errors", .array (s.errors.map errorJson))]

/-- A sweep's summary as data. -/
def toJson (t : Timing) (s : Sweep) : Json :=
  .object (s.members t)

end Sweep

end Assay
