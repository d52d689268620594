import Assay.Finding
import Assay.Halt
import Assay.Pattern.Matcher
import Assay.Pattern.Reading
import Assay.Rule.Phrase

/-!
# Checks

What a step of a rule can ask of a submission, and the words in which it is asked. Each of the
twenty-five checks has one phrase. A text is bound to the check whose phrase it has; an argument
that is a search pattern is read at that point, so a rule with an unreadable pattern never runs.

## Main definitions

* `Check`: The checks.
* `Form`, `Form.all`: How checks are put into words.
* `Check.ofText`: The check that a text asks for.
* `BindProblem`: Why a text asks for none, with its wording.
-/

namespace Assay

/-- A search pattern together with the text that writes it. -/
structure WrittenPattern where
  source : String
  pattern : Pattern
  deriving DecidableEq

/-- What a step can ask of a submission. -/
inductive Check
  /-- The title is not blank. -/
  | titleGiven
  /-- The title has a match of the pattern. -/
  | titleMatches (pattern : WrittenPattern)
  /-- The title names the release of the folders. -/
  | titleNamesRelease
  /-- There are files. -/
  | filesGiven
  /-- There are no files but those of a comma-separated list. -/
  | onlyFiles (allowed : String)
  /-- A file is there; where it is not, the submission is labelled with its name. -/
  | fileListed (file : String)
  /-- A file is there. -/
  | fileGiven (file : String)
  /-- A file is there and not blank. -/
  | fileFilled (file : String)
  /-- A file is there, not blank and well-formed. -/
  | fileValid (file type : String)
  /-- Every folder has a match of the pattern, whose first two groups are not empty. -/
  | foldersMatch (pattern : WrittenPattern)
  /-- All files are in one folder. -/
  | oneFolder
  /-- The folders show a release. -/
  | releaseGiven
  /-- The release is not older than those still supported. -/
  | releaseSupported
  /-- A line of a file has a match of the pattern, from which the version of the evidence is taken. -/
  | lineMatches (file : String) (pattern : WrittenPattern)
  /-- The version of the evidence and the release are of one minor release. -/
  | versionsAgree
  /-- A field of a description is there and not blank. -/
  | fieldFilled (file field : String)
  /-- A field of the product description is blank or well-formed. -/
  | fieldValid (type field : String)
  /-- A field of the product description is one of a comma-separated list. -/
  | fieldAmong (field values : String)
  /-- The content type found for a field is one of a list. -/
  | contentTypeAmong (field types : String)
  /-- There are commits. -/
  | commitsGiven
  /-- There is no second commit. -/
  | oneCommit
  /-- There are labels. -/
  | labelsGiven
  /-- There is the label that `start` and the release make. -/
  | releaseLabelled (start : String)
  /-- No test of the evidence failed. -/
  | testsPass
  /-- Every test that the release requires passed in the evidence. -/
  | testsComplete
  deriving DecidableEq

/-- Why a phrase's arguments make no check: a pattern among them cannot be read. -/
structure UnreadPattern where
  source : String
  stop : Pattern.Stop

/-- How a check is put into words: a phrase, and the check that its arguments make. -/
structure Form where
  phrase : Phrase
  make : List String → Except UnreadPattern Check

namespace Form

/-- The form of a check without arguments. -/
def plain (text : String) (check : Check) : Form :=
  ⟨[.words text], fun _ => .ok check⟩

/-- The form of a check with one argument. -/
def unary (phrase : Phrase) (make : String → Check) : Form :=
  ⟨phrase, fun arguments => .ok (make (arguments.headD ""))⟩

/-- The form of a check with two arguments. -/
def binary (phrase : Phrase) (make : String → String → Check) : Form :=
  ⟨phrase, fun arguments => .ok (make (arguments.headD "") (arguments.tail.headD ""))⟩

/-- The pattern that an argument writes. -/
def readPattern (source : String) : Except UnreadPattern WrittenPattern :=
  match Pattern.read source with
  | .ok pattern => .ok ⟨source, pattern⟩
  | .error stop => .error ⟨source, stop⟩

/-- The form of a check whose one argument is a pattern. -/
def searching (phrase : Phrase) (make : WrittenPattern → Check) : Form :=
  ⟨phrase, fun arguments => (readPattern (arguments.headD "")).map make⟩

/-- The form of a check whose second argument is a pattern. -/
def searchingIn (phrase : Phrase) (make : String → WrittenPattern → Check) : Form :=
  ⟨phrase, fun arguments => (readPattern (arguments.tail.headD "")).map (make (arguments.headD ""))⟩

/-- The forms of all checks. No text has two of them. -/
def all : List Form := [
  plain "the title of the submission" .titleGiven,
  searching [.words "the title of the submission matches ", .argument] .titleMatches,
  plain "the release version matches the release version in the title" .titleNamesRelease,
  plain "the files in the submission" .filesGiven,
  unary [.words "the files included in the submission are only: ", .argument] .onlyFiles,
  unary [.argument, .words " is included in its file list"] .fileListed,
  unary [.article, .words " ", .argument, .words " file"] .fileGiven,
  unary [.argument, .words " is not empty"] .fileFilled,
  binary [.argument, .words " is valid ", .argument] .fileValid,
  searching [.words "file folder structure matches ", .argument] .foldersMatch,
  plain "there is only one path of folders" .oneFolder,
  plain "the release version" .releaseGiven,
  plain "it is a valid and supported release" .releaseSupported,
  searchingIn [.words "a line of the file ", .argument, .words " matches ", .argument] .lineMatches,
  plain "that version matches the release version in the folder structure" .versionsAgree,
  binary [.words "the yaml file ", .argument, .words " contains the required and non-empty ",
    .argument] .fieldFilled,
  binary [.words "the content of the ", .argument, .words " in the value of ", .argument,
    .words " is a valid ", .remark] .fieldValid,
  binary [.words "the field ", .argument, .words " matches one of the following values: ",
    .argument] .fieldAmong,
  binary [.words "the content of the url in the value of ", .argument, .words " matches its ",
    .argument] .contentTypeAmong,
  plain "a list of commits" .commitsGiven,
  plain "there is only one commit" .oneCommit,
  plain "a list of labels in the submission" .labelsGiven,
  unary [.words "the label prefixed with ", .argument,
    .words " and ending with the release version should be present"] .releaseLabelled,
  plain "the tests pass and are successful" .testsPass,
  plain ("all required tests in " ++ evidenceFileName ++ " are present") .testsComplete]

end Form

/-- Why a text asks for no check. -/
inductive BindProblem
  | noForm (text : String)
  | badPattern (text pattern : String) (error : Pattern.PatternError)

/-- The wording of a problem. -/
def BindProblem.message : BindProblem → String
  | noForm text => "no step definition matches '" ++ text ++ "'"
  | badPattern text pattern error =>
    "step '" ++ text ++ "' has an invalid pattern: " ++ error.message pattern.toList

namespace Check

/-- The check that a text asks for under the first of some forms that it has. -/
def ofTextIn (text : String) : List Form → Except (Halt BindProblem) Check
  | [] => .error (.report (.noForm text))
  | form :: rest =>
    match form.phrase.read? text with
    | some arguments =>
      match form.make arguments with
      | .ok check => .ok check
      | .error ⟨pattern, .problem error⟩ => .error (.report (.badPattern text pattern error))
      | .error ⟨_, .fault f⟩ => .error (.fault f)
    | none => ofTextIn text rest

/-- The check that a text asks for. -/
def ofText (text : String) : Except (Halt BindProblem) Check :=
  ofTextIn text Form.all

/-- The arguments of a check, in the order of its phrase. -/
def arguments : Check → List String
  | titleMatches pattern | foldersMatch pattern => [pattern.source]
  | onlyFiles text | fileListed text | fileGiven text | fileFilled text | releaseLabelled text => [text]
  | lineMatches file pattern => [file, pattern.source]
  | fileValid a b | fieldFilled a b | fieldValid a b | fieldAmong a b | contentTypeAmong a b => [a, b]
  | titleGiven | titleNamesRelease | filesGiven | oneFolder | releaseGiven | releaseSupported
  | versionsAgree | commitsGiven | oneCommit | labelsGiven | testsPass | testsComplete => []

end Check

end Assay
