import Assay.Finding
import Assay.Halt
import Assay.Number.Integer
import Assay.Store.Disk
import Assay.Submission.Basic

/-!
# Submission documents

A submission is loaded from a document that names its parts. The document is read leniently: a
part that is absent, empty or zero takes its default, any value may stand where a text is due and
is then shown as text, and entries of lists that cannot be used are passed over. Only what would
leave the submission without meaning is refused.

## Main definitions

* `DocumentProblem`: Why a document or a bundle gives no submission, with its wording.
* `Submission.ofValue`: The submission that a document holds.
-/

namespace Assay

open Text

/-- Why a document or a bundle gives no submission. -/
inductive DocumentProblem
  | notObject
  | numberNotInteger (value : Value)
  | filesNotList
  | pathMissing
  | unreadable (path : Path) (problem : ReadProblem)
  | malformed (path : Path)
  | fileNotObject (path : Path)
  | noBundle (path : Path)
  | bundleUnreadable (path : Path) (problem : ReadProblem)

/-- The wording of a problem. -/
def DocumentProblem.message : DocumentProblem → String
  | notObject => "submission document must be an object"
  | numberNotInteger value => "submission number must be an integer (got " ++ value.nested ++ ")"
  | filesNotList => "submission files must be a list"
  | pathMissing => "submission file entry missing required path"
  | unreadable path problem =>
    "unable to read submission document " ++ path.render ++ ": " ++ problem.message path
  | malformed path =>
    "unable to read submission document " ++ path.render ++ ": " ++ Format.json.account
  | fileNotObject path => "submission document " ++ path.render ++ " must be a JSON object"
  | noBundle path => "bundle directory not found: " ++ path.render
  | bundleUnreadable path problem =>
    "unable to read bundle file " ++ path.render ++ ": " ++ problem.message path

namespace Submission

/-- A field of a document as a text: what counts as absent is the empty text. -/
def textField (doc : Value) (name : String) : String :=
  match doc.field? name with
  | some v => if v.isBlank then "" else v.plain
  | none => ""

/-- A field of a document as a text, whatever it holds: only a missing field is the empty text. -/
def anyField (doc : Value) (name : String) : String :=
  ((doc.field? name).map Value.plain).getD ""

/-- The integer that a value is taken for. -/
def readNumber (v : Value) : Except (Halt DocumentProblem) Int :=
  match v with
  | .bool b => .ok (if b then 1 else 0)
  | .int n => .ok n
  | .float (.infinite _) => .error (.fault .infiniteNumber)
  | .float x =>
    match x.truncated? with
    | some n => .ok n
    | none => .error (.report (.numberNotInteger v))
  | .text s =>
    match Number.readInteger 10 s.toList with
    | some n => .ok n
    | none => .error (.report (.numberNotInteger v))
  | _ => .error (.report (.numberNotInteger v))

/-- The number of a submission; one that counts as absent is 0. -/
def numberField (doc : Value) : Except (Halt DocumentProblem) Int :=
  match doc.field? "number" with
  | some v => if v.isBlank then .ok 0 else readNumber v
  | none => .ok 0

/-- The items of a list field; none where the field holds something else. -/
def listField (doc : Value) (name : String) : List Value :=
  match doc.field? name with
  | some (.list items) => items
  | _ => []

/-- Whether a value is a mapping. -/
def isMapping : Value → Bool
  | .map _ => true
  | _ => false

/-- The label that a value stands for: texts and numbers do. -/
def label? : Value → Option String
  | .text s => some s
  | .bool b => some (Value.bool b).plain
  | .int n => some (Value.int n).plain
  | .float x => some (Value.float x).plain
  | _ => none

/-- A file of a document. Its path may be given as a name. -/
def readFile (doc : Value) : Except (Halt DocumentProblem) SubmittedFile :=
  let written := textField doc "path"
  let path := strip (if written.isEmpty then textField doc "name" else written)
  if path.isEmpty then .error (.report .pathMissing)
  else
    let address := textField doc "blob_url"
    .ok ⟨path, textField doc "contents", if address.isEmpty then none else some address⟩

/-- The files of a document. -/
def readFiles (doc : Value) : Except (Halt DocumentProblem) (List SubmittedFile) :=
  ((listField doc "files").filter isMapping).mapM readFile

/-- A commit of a document. -/
def readCommit (doc : Value) : Commit :=
  ⟨anyField doc "oid", ((listField doc "contexts").filter isMapping).map fun c =>
    ⟨anyField c "context", anyField c "state"⟩⟩

/-- The content types of a document. -/
def readContentTypes (doc : Value) : List (String × String) :=
  match doc.field? "url_content_types" with
  | some (.map entries) => entries.map fun (k, v) => (k.plain, v.plain)
  | _ => []

/-- Whether the files of a document are absent or a list. -/
def filesAreList (doc : Value) : Bool :=
  match doc.field? "files" with
  | some (.list _) => true
  | some v => v.isBlank
  | none => true

/-- The submission that a document holds. -/
def ofValue (doc : Value) : Except (Halt DocumentProblem) Submission := do
  if !isMapping doc then throw (.report .notObject)
  let number ← numberField doc
  if !filesAreList doc then throw (.report .filesNotList)
  return {
    number
    title := textField doc "title"
    author := textField doc "author"
    owner := textField doc "owner"
    repository := textField doc "repository"
    files := ← readFiles doc
    labels := (listField doc "labels").filterMap label?
    commits := ((listField doc "commits").filter isMapping).map readCommit
    contentTypes := readContentTypes doc }

end Submission

end Assay
