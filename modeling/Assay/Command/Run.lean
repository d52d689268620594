import Assay.Command.Request
import Assay.Review.Markdown
import Assay.Review.Sweep
import Assay.Submission.Loading

/-!
# Running a command

A command reads the files that it is given, writes some and says what it did. It ends with an exit
code: 0, or 1 where something that was reviewed is not in order, or 2 where nothing could be
reviewed.

## Main definitions

* `Ending`: How a command line ends.
* `run`: What a command line does.
-/

namespace Assay.Command

/-- What a command that ran leaves behind. -/
structure Completed where
  exit : Nat
  output : String
  errors : String
  disk : Disk

/-- How a command line ends. -/
inductive Ending
  | usage (u : Usage)
  /-- The command stops with a text. -/
  | abort (text : String)
  | completed (c : Completed)

/-- A line for the operator. -/
def logLine (text : String) : String :=
  logTag ++ " " ++ text ++ "\n"

/-- The submission that a request names. -/
def VerifyRequest.submission (r : VerifyRequest) (d : Disk) (title : String) :
    Except (Halt DocumentProblem) Submission :=
  match r.document, r.bundle with
  | some document, _ => Submission.load d (Path.ofText document)
  | none, some bundle => Submission.ofBundle d (Path.ofText bundle) title r.number r.labels
  | none, none => .error (.fault .noPath)

/-- The name that the files of a review have in common. -/
def stem (r : Review) : String :=
  "verdict-" ++ toString r.brief.submission.number ++ "-" ++
    String.ofList (r.verdict.hash.toList.take 12)

/-- A review as data, its record included. -/
def reviewJson (r : Review) : Json :=
  match r.toJson with
  | .object members => .object (members ++ [("run_record", r.record.toJson)])
  | j => j

/-- The exit code of a review. -/
def exitCode (v : Verdict) : Nat :=
  if v.state = .failure then 1 else 0

/-- Writes a review where a request says. -/
def VerifyRequest.write (r : VerifyRequest) (d : Disk) (review : Review) : Except Fault Completed := do
  let directory := Path.ofText r.directory
  let dataPath := (r.dataFile.map Path.ofText).getD (directory.child (stem review ++ ".json"))
  let reportPath := (r.reportFile.map Path.ofText).getD (directory.child (stem review ++ ".md"))
  let d ← d.write dataPath ((reviewJson review).indented ++ "\n")
  let d ← d.write reportPath review.markdown
  return ⟨exitCode review.verdict,
    logLine ("wrote " ++ dataPath.render) ++ logLine ("wrote " ++ reportPath.render) ++
      review.verdict.comment, "", d⟩

/-- The review of one submission. -/
def verify (d : Disk) (environment : Option String) (r : VerifyRequest) : Except Fault Ending :=
  if r.document.isNone && r.title.isNone then .ok (.abort "--title is required with --bundle-dir")
  else
    let review := do
      let s ← reportingAs Problem.document (r.submission d (r.title.getD ""))
      Review.ofSubmission d (r.settings.settings environment) s
    match review with
    | .ok review => (r.write d review).map .completed
    | .error (.report p) =>
      .ok (.completed ⟨2, "", logLine ("unable to verify submission: " ++ p.message), d⟩)
    | .error (.fault f) => .error f

/-- The submissions of a directory, and the documents that could not be read. -/
structure Gathered where
  submissions : List Submission
  unreadable : List (Path × String × DocumentProblem)

/-- The submissions in the documents of a directory, by their names. -/
def gather (d : Disk) (directory : Path) : List String → Except Fault Gathered
  | [] => .ok ⟨[], []⟩
  | name :: rest =>
    match Submission.load d (directory.child name) with
    | .ok s => (gather d directory rest).map fun g => { g with submissions := s :: g.submissions }
    | .error (.report p) => (gather d directory rest).map fun g =>
      { g with unreadable := (directory.child name, name, p) :: g.unreadable }
    | .error (.fault f) => .error f

/-- Whether a file is taken for a submission document. -/
def isDocumentName (name : String) : Bool :=
  Text.endsWith ".json" name

/-- A document that could not be read, as data. -/
def unreadableJson (u : Path × String × DocumentProblem) : Json :=
  .object [("path", .text u.1.render), ("error", .text u.2.2.message)]

/-- The summary of a sweep over what a directory held. -/
def sweepSummary (g : Gathered) (s : Sweep) : Json :=
  .object (s.members .still ++ [("unreadable", .array (g.unreadable.map unreadableJson))])

/-- The exit code of a sweep over what a directory held. -/
def sweepExitCode (g : Gathered) (s : Sweep) : Nat :=
  if s.errors.isEmpty && g.unreadable.isEmpty then 0 else 1

/-- The sweep over what a directory held. -/
def sweepGathered (d : Disk) (environment : Option String) (r : SweepRequest) (g : Gathered) :
    Except Fault Completed := do
  let s ← Sweep.run d (r.settings.settings environment) g.submissions
  let output := Path.ofText r.output
  let d ← d.write output (String.join (s.reviews.map fun review => review.toJson.line ++ "\n"))
  let skipped := g.unreadable.map fun u => logLine ("skipping " ++ u.2.1 ++ ": " ++ u.2.2.message)
  return ⟨sweepExitCode g s, (sweepSummary g s).indented ++ "\n",
    String.join skipped ++ String.join (s.log.map (· ++ "\n")) ++ logLine ("wrote " ++ output.render),
    d⟩

/-- The reviews of all submission documents in a directory. -/
def sweep (d : Disk) (environment : Option String) (r : SweepRequest) : Except Fault Ending := do
  let directory := Path.ofText r.directory
  if !(← d.isDirectory directory) then
    return .abort ("submissions directory not found: " ++ directory.render)
  match d.follow directory with
  | .error _ => return .abort ("submissions directory not found: " ++ directory.render)
  | .ok spot =>
    let g ← gather d directory ((d.namesIn spot).filter isDocumentName)
    return .completed (← sweepGathered d environment r g)

/-- The list of the tests that a release requires. -/
def requiredTests (d : Disk) (environment : Option String) (version : String)
    (metadata : Option String) : Except Fault Ending :=
  let root := (metadata.map Path.ofText).getD (Settings.metadataFrom environment)
  match Requirement.resolve d root version with
  | .ok required =>
    let names := required.names.mergeSort fun a b => decide (a ≤ b)
    .ok (.completed ⟨0, String.join (names.map (· ++ "\n")),
      logLine (toString required.size ++ " required test(s) for " ++ version), d⟩)
  | .error (.report f) => .ok (.completed ⟨2, "", logLine f.message, d⟩)
  | .error (.fault f) => .error f

/-- What a request does. -/
def perform (d : Disk) (environment : Option String) : Request → Except Fault Ending
  | .verify r => verify d environment r
  | .sweep r => sweep d environment r
  | .requiredTests version metadata => requiredTests d environment version metadata

/-- What a command line does, given the files and what the environment says about the place of the
    metadata. -/
def run (d : Disk) (environment : Option String) (args : List String) : Except Fault Ending :=
  match Request.ofArguments args with
  | .ok request => perform d environment request
  | .error u => .ok (.usage u)

end Assay.Command
