import Assay.Finding
import Assay.Submission.Basic
import Assay.Text.Blank
import Assay.Xml.Element

/-!
# Test outcomes

The evidence of a submission is a test report. Of its test cases those count that carry the mark
of the suite in their name and were not skipped; each of them passed or failed. Their names are
brought to the form in which requirements name tests.

## Main definitions

* `Outcome`: A test that ran.
* `normalizeName`: The form in which requirements name a test.
* `Evidence.outcomes`: The outcomes that a report holds.
* `Evidence.submitted`: The outcomes that a submission reports.
-/

namespace Assay

open Text

/-- A test that ran: its name, and what went wrong where it failed. -/
structure Outcome where
  name : String
  failure : Option String
  deriving DecidableEq, Repr

/-- Whether a test passed. -/
def Outcome.passed (o : Outcome) : Bool :=
  o.failure.isNone

/-- The mark of the tests that count. -/
def scopeMark : String := "[Conformance]"

/-- The mark that some reports put before a test's name. -/
def nameMark : String := "[It] "

/-- The texts that are replaced in names, in this order: escapes that a report has left standing,
    and one command that reports do not quote alike. -/
def nameReplacements : List (String × String) :=
  [("&#39;", "'"), ("&#34;", "\""), ("&gt;", ">"), ("'cat /tmp/health'", "\"cat /tmp/health\"")]

/-- A text without a mark at its head. -/
def dropMark (mark s : String) : String :=
  match dropFront? mark.toList s.toList with
  | some rest => String.ofList rest
  | none => s

/-- The form in which requirements name a test. -/
def normalizeName (raw : String) : String :=
  dropMark nameMark
    (nameReplacements.foldl (fun name (old, new) => replaceAll old new name) raw)

namespace Evidence

/-- The elements that a report may consist of. -/
def rootNames : List String := ["testsuites", "testsuite"]

/-- The account that an element of a test case gives of a failure: its message, else its text, else
    its own name. -/
def account (name : String) (n : Xml.Node) : String :=
  let message := (n.attribute? "message").getD ""
  let detail := if message.isEmpty then strip n.leadingText else message
  if detail.isEmpty then name else detail

/-- What went wrong in a test case: a failure before an error. -/
def failure? (case : Xml.Node) : Option String :=
  match case.find? "failure" with
  | some n => some (account "failure" n)
  | none => (case.find? "error").map (account "error")

/-- The name of a test case as the report writes it. -/
def rawName (case : Xml.Node) : String :=
  (case.attribute? "name").getD ""

/-- Whether a test case counts. -/
def counts (case : Xml.Node) : Bool :=
  (case.find? "skipped").isNone && occursIn scopeMark (rawName case)

/-- The outcome of a test case. -/
def outcome (case : Xml.Node) : Outcome :=
  ⟨normalizeName (rawName case), failure? case⟩

/-- The outcomes that a report holds, in its order. -/
def outcomes (report : String) : Except Finding (List Outcome) :=
  match Xml.read report with
  | none => .error .evidenceUnparsable
  | some root =>
    let name := root.name?.getD ""
    if rootNames.contains name then
      .ok (((root.descendants "testcase").filter counts).map outcome)
    else .error (.evidenceRoot name)

/-- The outcomes that a submission reports. -/
def submitted (s : Submission) : Except Finding (List Outcome) :=
  match s.file? evidenceFileName with
  | some f => outcomes f.contents
  | none => .error .noEvidence

end Evidence

end Assay
