import Assay.Contact.Mailbox
import Assay.Contact.Url
import Assay.Requirement.Resolution
import Assay.Review.Brief
import Assay.Review.Title
import Assay.Rule.Check
import Assay.Text.Lowercase
import Assay.Text.Lines
import Assay.Yaml.Reading

/-!
# What checks answer

A check is passed, or it finds something wrong, or it cannot be applied because what it would
compare is not known. Most checks only look at the brief; four also write notes, two of them in
every case that is not a fault.

## Main definitions

* `Answer`: What a check can answer.
* `Check.examine`: The answer of a check that writes no notes.
* `Check.answer`: The answer of any check, with the notes after it.
-/

namespace Assay

open Text

/-- What a check can answer. -/
inductive Answer
  | passed
  | failed (f : Finding)
  | notApplicable

/-- What a check finds: nothing wrong, or that it cannot be applied. -/
inductive Applied
  | yes
  | no
  deriving DecidableEq

/-- The result of a check: whether it could be applied, unless it ends early. -/
abbrev Examination := Except (Halt Finding) Applied

namespace Examination

/-- The examination that finds something wrong where a condition holds. -/
def findIf (wrong : Bool) (f : Finding) : Examination :=
  if wrong then .error (.report f) else .ok .yes

/-- The examination of a check that needs the release: without one it cannot be applied. -/
def withRelease (b : Brief) (e : Examination) : Examination :=
  if b.target.isEmpty then .ok .no else e

end Examination

open Examination

namespace Brief

/-- A file of the submission, or the finding that it is not there. -/
def need (b : Brief) (file : String) (absent : Finding) : Except (Halt Finding) SubmittedFile :=
  match b.submission.file? file with
  | some f => .ok f
  | none => .error (.report absent)

/-- The mapping that a file of the submission holds. -/
def description (b : Brief) (file : String) : Except (Halt Finding) Value := do
  let f ← b.need file (.requiredFileMissing file)
  match Yaml.read f.contents with
  | .ok (.map entries) => return .map entries
  | .ok _ => throw (.report (.descriptorUnreadable file))
  | .error .malformed => throw (.report (.descriptorUnreadable file))
  | .error (.fault fault) => throw (.fault fault)

/-- The text of a field of a mapping, empty where the field is absent or holds nothing. -/
def fieldText (v : Value) (field : String) : String :=
  match v.field? field with
  | none => ""
  | some .null => ""
  | some value => strip value.plain

/-- The text of a field of the product description. -/
def productField (b : Brief) (field : String) : Except (Halt Finding) String := do
  return fieldText (← b.description productFileName) field

end Brief

namespace Check

/-- The names of the submission's files that a comma-separated list does not hold. -/
def extraFiles (b : Brief) (allowed : String) : List String :=
  (b.submission.files.map SubmittedFile.baseName).filter fun name =>
    !(listItems allowed strip).contains name

/-- Whether a file is not well-formed, for a type of file in lower case. -/
def wellFormed (file type contents : String) : Examination :=
  if lowerAscii (strip type) = "yaml" then
    match Yaml.read contents with
    | .ok (.map _) => .ok .yes
    | .ok _ => .error (.report (.yamlNotMapping file))
    | .error .malformed => .error (.report (.yamlUnparsable file))
    | .error (.fault f) => .error (.fault f)
  else if lowerAscii (strip type) = "xml" then
    findIf (Xml.read contents).isNone (.xmlUnparsable file)
  else .error (.report (.unsupportedFileType file type))

/-- Whether the first two of some groups, where there are two, are not empty. -/
def pairFilled : List (Option String) → Bool
  | first :: second :: _ => !(first.getD "").isEmpty && !(second.getD "").isEmpty
  | _ => true

/-- Whether every folder of some files has a match of a pattern with a filled pair of groups. -/
def foldersMatchIn (pattern : WrittenPattern) : List SubmittedFile → Examination
  | [] => .ok .yes
  | f :: rest =>
    match pattern.pattern.search f.folder with
    | none => .error (.report (.folderNotAllowed f.path))
    | some groups =>
      if pairFilled groups then foldersMatchIn pattern rest else .error (.report .folderIncomplete)

/-- The folders of a submission, each once, with a slash after the one that holds it all. -/
def folders (s : Submission) : List String :=
  (s.files.map fun f => if f.folder = "." then "./" else f.folder).eraseDups

/-- Whether a field of the product description is well-formed, for a type of field in lower case. -/
def fieldWellFormed (type field value : String) : Examination :=
  if lowerAscii (strip type) = "url" then do
    let valid ← breaking (Contact.isUrl value)
    findIf (!valid) (.fieldNotUrl field value)
  else if lowerAscii (strip type) = "email" then
    findIf (!Contact.isMailbox value) (.fieldNotEmail field value)
  else .error (.report (.unsupportedFieldType field type))

/-- Whether the evidence and the folders are of one minor release. -/
def sameMinor (inEvidence inFolder : String) : Examination := do
  let e ← reporting (Version.parse inEvidence)
  let f ← reporting (Version.parse inFolder)
  findIf (e.major != f.major || e.minor != f.minor) (.evidenceVersion inEvidence inFolder)

/-- Whether a content type is one of a list. -/
def contentTypeIn (field resolved types : String) : Examination :=
  if resolved.isEmpty then .ok .no
  else findIf (!(words types).any fun type => occursIn type resolved)
    (.contentType field resolved (words types))

/-- The answer of a check that writes no notes. The four that do are left to `answer`. -/
def examine (b : Brief) (evidenceVersion : String) : Check → Examination
  | titleGiven => findIf (strip b.submission.title).isEmpty .titleEmpty
  | titleMatches pattern => findIf (!pattern.pattern.occurs b.submission.title) .titleForm
  | titleNamesRelease =>
    let named := titleRelease b.submission.title
    withRelease b (findIf (named != b.target) (.titleVersion named b.target))
  | filesGiven => findIf b.submission.files.isEmpty .noFiles
  | onlyFiles allowed =>
    let extra := extraFiles b allowed
    findIf (!extra.isEmpty) (.extraFiles extra)
  | fileGiven file => do
    let _ ← b.need file (.requiredFileMissing file)
    return .yes
  | fileFilled file => do
    let f ← b.need file (.fileNotFound file)
    findIf (strip f.contents).isEmpty (.fileEmpty file)
  | fileValid file type => do
    let f ← b.need file (.fileNotFound file)
    if (strip f.contents).isEmpty then throw (.report (.fileEmpty file))
    wellFormed file type f.contents
  | foldersMatch pattern => foldersMatchIn pattern b.submission.files
  | oneFolder =>
    let all := folders b.submission
    findIf (all.length != 1) (.severalFolders all)
  | releaseGiven => findIf b.target.isEmpty .noRelease
  | releaseSupported =>
    if b.target.isEmpty || b.latest.isEmpty then .ok .no
    else do
      reporting (Version.checkSupported b.target b.latest b.lookback)
      return .yes
  | versionsAgree =>
    if evidenceVersion.isEmpty || b.target.isEmpty then .ok .no
    else sameMinor evidenceVersion b.target
  | fieldFilled file field => do
    let text := Brief.fieldText (← b.description file) field
    findIf text.isEmpty (.fieldEmpty field file)
  | fieldValid type field => do
    let value ← b.productField field
    if value.isEmpty then return .yes
    fieldWellFormed type field value
  | fieldAmong field values => do
    let value ← b.productField field
    let allowed := listItems values strip
    if value.isEmpty then throw (.report (.fieldMissing field))
    findIf (!allowed.contains value) (.fieldNotAllowed field allowed)
  | contentTypeAmong field types =>
    contentTypeIn field ((b.submission.contentTypes.lookup field).getD "") types
  | commitsGiven => findIf b.submission.commits.isEmpty .noCommits
  | oneCommit => findIf (decide (1 < b.submission.commits.length)) .severalCommits
  | labelsGiven => findIf b.submission.labels.isEmpty .noLabels
  | releaseLabelled start =>
    let label := start ++ b.target
    withRelease b (findIf (!b.submission.labels.contains label) (.labelNotFound label))
  | fileListed _ | lineMatches _ _ | testsPass | testsComplete => .ok .yes

/-- What an examination answers, with notes that it has no part in. -/
def conclude (n : Notes) : Examination → Except Fault (Answer × Notes)
  | .ok .yes => .ok (.passed, n)
  | .ok .no => .ok (.notApplicable, n)
  | .error (.report f) => .ok (.failed f, n)
  | .error (.fault f) => .error f

/-- The first text among some groups that is not empty. -/
def firstFilled (groups : List (Option String)) : String :=
  ((groups.map fun g => g.getD "").find? fun g => !g.isEmpty).getD ""

/-- The groups of a pattern in the first line of a text that has a match. -/
def firstMatch? (pattern : WrittenPattern) (contents : String) : Option (List (Option String)) :=
  (lines contents).findSome? fun line => pattern.pattern.search line

/-- Whether a file is there. One that is not is noted and labelled. -/
def answerFileListed (b : Brief) (n : Notes) (file : String) : Answer × Notes :=
  if (b.submission.file? file).isSome then (.passed, n)
  else (.failed (.fileNotListed file), (n.label ("missing-file-" ++ file)).missFile file)

/-- Whether a line of a file has a match. The version that it shows is noted. -/
def answerLineMatches (b : Brief) (n : Notes) (file : String) (pattern : WrittenPattern) :
    Answer × Notes :=
  match b.submission.file? file with
  | none => (.failed (.fileNotFound file), n)
  | some f =>
    match firstMatch? pattern f.contents with
    | none => (.failed (.noVersionInFile file), n)
    | some groups =>
      let version := firstFilled groups
      (.passed, if version.isEmpty then n else { n with evidenceVersion := version })

/-- Some names sorted, each once. -/
def sortedNames (names : List String) : List String :=
  names.eraseDups.mergeSort fun a b => decide (a ≤ b)

/-- The names of the tests that failed, sorted and each once. -/
def failingNames (outcomes : List Outcome) : List String :=
  sortedNames ((outcomes.filter fun o => !o.passed).map Outcome.name)

/-- Whether no test of the evidence failed. The submission is labelled either way. -/
def answerTestsPass (b : Brief) (n : Notes) : Answer × Notes :=
  if b.target.isEmpty then (.notApplicable, n)
  else match Evidence.submitted b.submission with
    | .error f => (.failed f, n)
    | .ok outcomes =>
      let failing := failingNames outcomes
      if failing.isEmpty then (.passed, n.label ("no-failed-tests-" ++ b.target))
      else (.failed (.failingTests failing), n.label "evidence-missing")

/-- The required tests that did not pass in the evidence. -/
def missingTests (b : Brief) : Except (Halt Finding) (List String) := do
  let required ← Requirement.resolve b.disk b.metadata b.target
  let outcomes ← reporting (Evidence.submitted b.submission)
  return (required.reconcile outcomes).missing

/-- Whether every required test passed in the evidence. The submission is labelled either way. -/
def answerTestsComplete (b : Brief) (n : Notes) : Except Fault (Answer × Notes) :=
  if b.target.isEmpty then .ok (.notApplicable, n)
  else match missingTests b with
    | .error (.fault f) => .error f
    | .error (.report f) => .ok (.failed f, n)
    | .ok missing =>
      if missing.isEmpty then .ok (.passed, n.label ("tests-verified-" ++ b.target))
      else .ok (.failed (.missingTests missing), n.label "required-tests-missing")

/-- The answer of a check, with the notes after it. -/
def answer (b : Brief) (n : Notes) (check : Check) : Except Fault (Answer × Notes) :=
  match check with
  | fileListed file => .ok (answerFileListed b n file)
  | lineMatches file pattern => .ok (answerLineMatches b n file pattern)
  | testsPass => .ok (answerTestsPass b n)
  | testsComplete => answerTestsComplete b n
  | _ => conclude n (check.examine b n.evidenceVersion)

end Check

end Assay
