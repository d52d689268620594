import Assay.Value.Print

/-!
# Findings

What a review can find wrong, with a submission or with the release metadata it is checked against.
Each finding is a cause with the data that names it; its wording is in `Finding.message` and
nowhere else. A finding made inside a step becomes the hint that the contributor reads, and one
made outside a step ends the review.

## Main definitions

* `Finding`: The causes.
* `Finding.kind`: The kind under which a cause is reported.
* `Finding.message`: The wording.
-/

namespace Assay

/-- The file that holds the results of the tests. -/
def evidenceFileName : String := "junit_01.xml"

/-- The file that describes the product. -/
def productFileName : String := "PRODUCT.yaml"

/-- What the report says in place of a reader's own account of a malformed document. -/
inductive Format
  | yaml
  | xml
  | json
  deriving DecidableEq, Repr

/-- The account of a malformed document. -/
def Format.account : Format → String
  | .yaml => "YAML-ERROR"
  | .xml => "XML-ERROR"
  | .json => "JSON-ERROR"

/-- The kinds of findings. -/
inductive FindingKind
  | malformedVersion
  | metadataUnavailable
  | metadataCorrupt
  | unsupportedRelease
  | evidenceMissing
  | evidenceCorrupt
  | fileMissing
  | fieldInvalid
  | folderStructureInvalid
  | titleMismatch
  | fileInvalid
  | unexpectedFile
  | commitHistoryInvalid
  | labelMissing
  | evidenceFailing
  | requiredTestsMissing
  deriving DecidableEq, Repr

/-- What a review can find wrong. -/
inductive Finding
  | versionNotText (value : Value)
  | versionUnreadable (text : String)
  | releaseTooOld (target oldest : String)
  | manifestUnavailable (version path : String)
  | manifestUndecodable (path : String)
  | manifestMisshapen (path : String) (violations : List String)
  | latestUnreadable (path : String)
  | latestEmpty (path : String)
  | noEvidence
  | evidenceUnparsable
  | evidenceRoot (tag : String)
  | requiredFileMissing (file : String)
  | fileNotFound (file : String)
  | fileEmpty (file : String)
  | fileNotListed (file : String)
  | noFiles
  | descriptorUnreadable (file : String)
  | yamlUnparsable (file : String)
  | yamlNotMapping (file : String)
  | xmlUnparsable (file : String)
  | unsupportedFileType (file type : String)
  | noVersionInFile (file : String)
  | titleEmpty
  | titleForm
  | titleVersion (inTitle inFolder : String)
  | extraFiles (files : List String)
  | folderNotAllowed (path : String)
  | folderIncomplete
  | severalFolders (folders : List String)
  | noRelease
  | evidenceVersion (inEvidence inFolder : String)
  | fieldEmpty (field file : String)
  | fieldMissing (field : String)
  | fieldNotUrl (field value : String)
  | fieldNotEmail (field value : String)
  | unsupportedFieldType (field type : String)
  | fieldNotAllowed (field : String) (allowed : List String)
  | contentType (field resolved : String) (types : List String)
  | noCommits
  | severalCommits
  | noLabels
  | labelNotFound (label : String)
  | failingTests (names : List String)
  | missingTests (names : List String)

namespace Finding

/-- The kind under which a cause is reported. -/
def kind : Finding → FindingKind
  | versionNotText _ | versionUnreadable _ => .malformedVersion
  | releaseTooOld _ _ => .unsupportedRelease
  | manifestUnavailable _ _ | latestUnreadable _ | latestEmpty _ => .metadataUnavailable
  | manifestUndecodable _ | manifestMisshapen _ _ => .metadataCorrupt
  | noEvidence => .evidenceMissing
  | evidenceUnparsable | evidenceRoot _ => .evidenceCorrupt
  | requiredFileMissing _ | fileNotFound _ | fileEmpty _ | fileNotListed _ | noFiles => .fileMissing
  | descriptorUnreadable _ | yamlUnparsable _ | yamlNotMapping _ | xmlUnparsable _
  | unsupportedFileType _ _ | noVersionInFile _ => .fileInvalid
  | titleEmpty | titleForm | titleVersion _ _ => .titleMismatch
  | extraFiles _ => .unexpectedFile
  | folderNotAllowed _ | folderIncomplete | severalFolders _ | noRelease
  | evidenceVersion _ _ => .folderStructureInvalid
  | fieldEmpty _ _ | fieldMissing _ | fieldNotUrl _ _ | fieldNotEmail _ _
  | unsupportedFieldType _ _ | fieldNotAllowed _ _ | contentType _ _ _ => .fieldInvalid
  | noCommits | severalCommits => .commitHistoryInvalid
  | noLabels | labelNotFound _ => .labelMissing
  | failingTests _ => .evidenceFailing
  | missingTests _ => .requiredTestsMissing

/-- How a folder has to be laid out. -/
def folderHint : String :=
  "your product submission PR must be in folders structured like " ++
    "[KubernetesReleaseVersion]/[ProductName], e.g: v1.23/averycooldistro"

/-- How a title has to be written. -/
def titleHint : String :=
  "title must be formatted like 'Conformance results for [KubernetesReleaseVersion]/[ProductName]' " ++
    "(e.g: Conformance results for v1.23/CoolKubernetes)"

/-- Test names as an indented list. -/
def testList (names : List String) : String :=
  String.join (names.map fun name => "\n    - " ++ name)

/-- The wording of a finding. -/
def message : Finding → String
  | versionNotText value => "version must be a string (got " ++ value.nested ++ ")"
  | versionUnreadable text => "unable to parse version '" ++ text ++ "'"
  | releaseTooOld target oldest =>
    "unable to use version " ++ target ++ " because it is older than the last currently supported " ++
      "release " ++ oldest
  | manifestUnavailable version path =>
    "unable to read requirement manifest for " ++ version ++ ": " ++ path
  | manifestUndecodable path =>
    "unable to decode requirement manifest " ++ path ++ ": " ++ Format.yaml.account
  | manifestMisshapen path violations =>
    "requirement manifest " ++ path ++ " has an unexpected shape: " ++
      String.intercalate "; " (violations.take 5)
  | latestUnreadable path => "unable to read latest release from " ++ path
  | latestEmpty path => "latest release file " ++ path ++ " is empty"
  | noEvidence => "unable to find file " ++ evidenceFileName
  | evidenceUnparsable =>
    "unable to parse " ++ evidenceFileName ++ " file, " ++ Format.xml.account
  | evidenceRoot tag =>
    "unable to parse " ++ evidenceFileName ++ " file, unexpected root element <" ++ tag ++ ">"
  | requiredFileMissing file => "missing required file '" ++ file ++ "'"
  | fileNotFound file => "unable to find file '" ++ file ++ "'"
  | fileEmpty file => "file '" ++ file ++ "' is empty"
  | fileNotListed file => "missing file '" ++ file ++ "'"
  | noFiles => "there were no files found in the submission"
  | descriptorUnreadable file => "unable to read file '" ++ file ++ "'"
  | yamlUnparsable file => "failed to parse (" ++ file ++ ") YAML, " ++ Format.yaml.account
  | yamlNotMapping file => "failed to parse (" ++ file ++ ") YAML, expected a mapping"
  | xmlUnparsable file => "failed to parse (" ++ file ++ ") XML, " ++ Format.xml.account
  | unsupportedFileType file type =>
    "unable to validate '" ++ file ++ "' as unsupported type '" ++ type ++ "'"
  | noVersionInFile file =>
    "the file '" ++ file ++ "' does not contain a release version of Kubernetes in it"
  | titleEmpty => "title is empty"
  | titleForm => titleHint
  | titleVersion inTitle inFolder =>
    "the Kubernetes release version in the title (" ++ inTitle ++ ") and folder structure (" ++
      inFolder ++ ") don't match"
  | extraFiles files =>
    "it appears that there are " ++ toString files.length ++
      " non-required file(s) included in the submission: " ++ String.intercalate ", " files
  | folderNotAllowed path => "file '" ++ path ++ "' not allowed. " ++ folderHint
  | folderIncomplete => folderHint
  | severalFolders folders =>
    "there should be a single set of products in the submission. We found " ++
      toString folders.length ++ " product submissions: " ++ String.intercalate ", " folders
  | noRelease => "unable to find a Kubernetes release version in the folder structure"
  | evidenceVersion inEvidence inFolder =>
    "the Kubernetes release version in the evidence (" ++ inEvidence ++
      ") doesn't match the same version in the folder structure (" ++ inFolder ++ ")"
  | fieldEmpty field file => "missing or empty field '" ++ field ++ "' in file '" ++ file ++ "'"
  | fieldMissing field =>
    "missing required field '" ++ field ++ "' in '" ++ productFileName ++ "'"
  | fieldNotUrl field value =>
    "URL for field '" ++ field ++ "' in " ++ productFileName ++ " is not a valid URL, " ++ value
  | fieldNotEmail field value =>
    "Email field '" ++ field ++ "' in " ++ productFileName ++ " is not a valid address, " ++ value
  | unsupportedFieldType field type =>
    "field '" ++ field ++ "' in " ++ productFileName ++ " uses unsupported type '" ++ type ++ "'"
  | fieldNotAllowed field allowed =>
    "field '" ++ field ++ "' in '" ++ productFileName ++
      "' is not valid and must be one of the following: " ++ String.intercalate ", " allowed
  | contentType field resolved types =>
    "URL field '" ++ field ++ "' in " ++ productFileName ++ " resolving content type '" ++ resolved ++
      "' must be (" ++ String.intercalate ", or " types ++ ")"
  | noCommits => "no commits were found"
  | severalCommits => "more than one commit was found; only one commit is allowed."
  | noLabels => "there are no labels found"
  | labelNotFound label => "required label '" ++ label ++ "' not found"
  | failingTests names =>
    "it appears that there are failures in some tests: " ++ testList names
  | missingTests names => "the following test(s) are missing: " ++ testList names

end Finding

end Assay
