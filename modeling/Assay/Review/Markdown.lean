import Assay.Review.Basic

/-!
# Review reports

A review as a page of markdown: a summary, the comment, a table with a row for each scenario, and
the labels. Each row is one line.

## Main definitions

* `cell`: A text as the content of a cell.
* `ScenarioResult.row`: The row of a scenario.
* `Review.markdown`: The page.
-/

namespace Assay

open Text

/-- A text as the content of a cell: bars escaped and lines joined. -/
def cell (s : String) : String :=
  strip (replaceAll "\n" " " (replaceAll "|" "\\|" s))

/-- A text as code. -/
def code (s : String) : String :=
  "\x60" ++ s ++ "\x60"

/-- A text, or what stands for an empty one. -/
def orElse (s default : String) : String :=
  if s.isEmpty then default else s

/-- Texts as code with commas between them. -/
def codeList (items : List String) : String :=
  String.intercalate ", " (items.map code)

/-- How a scenario ended. -/
def ScenarioResult.outcome (s : ScenarioResult) : StepStatus :=
  if s.failedStep?.isSome then .failed
  else if s.steps.any fun step => step.status = .notApplicable then .notApplicable
  else .passed

/-- The text of the step of a scenario that failed, as the content of a cell. -/
def ScenarioResult.failedText (s : ScenarioResult) : String :=
  (s.failedStep?.map fun step => code (cell step.text)).getD ""

/-- The message of the step of a scenario that failed, as the content of a cell. -/
def ScenarioResult.failedMessage (s : ScenarioResult) : String :=
  (s.failedStep?.map fun step => cell (step.message.getD "")).getD ""

/-- The row of a scenario. -/
def ScenarioResult.row (s : ScenarioResult) : String :=
  "| " ++ cell s.name ++ " | " ++ code s.outcome.word ++ " | " ++ s.failedText ++ " | " ++
    s.failedMessage ++ " |"

namespace Review

/-- The summary of a review. -/
def summaryLines (r : Review) : List String :=
  ["## Summary",
    "- Release version: " ++ code (orElse r.brief.target "(unknown)"),
    "- Product: " ++ code (orElse r.brief.submission.product "(unknown)"),
    "- Latest release: " ++ code (orElse r.brief.latest "(unknown)"),
    "- Verdict: **" ++ r.verdict.state.word ++ "**",
    "- Verdict hash: " ++ code r.verdict.hash,
    "- Run record hash: " ++ code r.record.hash, ""]

/-- The table of the scenarios of a review. -/
def scenarioLines (r : Review) : List String :=
  ["## Scenarios", "| Scenario | Outcome | Failing step | Message |", "|---|---|---|---|"] ++
    r.record.scenarios.map ScenarioResult.row ++ [""]

/-- The labels of a review. -/
def labelLines (r : Review) : List String :=
  ["## Labels",
    "- Verdict: " ++ codeList r.verdict.labels,
    "- Add: " ++ orElse (codeList r.plan.add) "(none)",
    "- Remove: " ++ orElse (codeList r.plan.remove) "(none)"]

/-- The heading of a review. -/
def heading (r : Review) : String :=
  stripEnd ("# Conformance Review: #" ++ toString r.brief.submission.number ++ " " ++
    r.brief.submission.title)

/-- A review as a page of markdown. -/
def markdown (r : Review) : String :=
  let lines := [r.heading, ""] ++ r.summaryLines ++ ["## Comment", strip r.verdict.comment, ""] ++
    r.scenarioLines ++ r.labelLines
  stripEnd (String.intercalate "\n" lines) ++ "\n"

end Review

end Assay
