import Assay.Json.Reading
import Assay.Submission.Document

/-!
# Loading submissions

A submission comes from a file that holds a document, or from a directory laid out like the
submission itself. Every file below such a directory belongs to it, and the directory stands for
one commit.

## Main definitions

* `Submission.load`: The submission in a document file.
* `Submission.ofBundle`: The submission that a directory is laid out as.
-/

namespace Assay.Submission

/-- The submission in the document file at a path. -/
def load (d : Disk) (path : Path) : Except (Halt DocumentProblem) Submission :=
  match d.read path with
  | .error problem => .error (.report (.unreadable path problem))
  | .ok text =>
    match Json.read? text with
    | none => .error (.report (.malformed path))
    | some doc =>
      if isMapping doc.toValue then ofValue doc.toValue
      else .error (.report (.fileNotObject path))

/-- A file of a bundle, by its names from the bundle's directory. -/
def readBundleFile (d : Disk) (bundle : Path) (names : List String) :
    Except (Halt DocumentProblem) SubmittedFile :=
  match d.read (bundle.join ⟨0, names⟩) with
  | .ok contents => .ok ⟨String.intercalate "/" names, contents, none⟩
  | .error problem => .error (.report (.bundleUnreadable (bundle.join ⟨0, names⟩) problem))

/-- The commit that a bundle stands for. -/
def localCommit : Commit := ⟨"local", []⟩

/-- The submission that the directory at a path is laid out as. -/
def ofBundle (d : Disk) (bundle : Path) (title : String) (number : Int) (labels : List String) :
    Except (Halt DocumentProblem) Submission := do
  match d.isDirectory bundle with
  | .error f => throw (.fault f)
  | .ok false => throw (.report (.noBundle bundle))
  | .ok true =>
    match d.follow bundle with
    | .error _ => throw (.report (.noBundle bundle))
    | .ok spot =>
      let files ← (d.filesBelow spot).mapM (readBundleFile d bundle)
      return ⟨number, title, "", "", "", files, labels, [localCommit], []⟩

end Assay.Submission
