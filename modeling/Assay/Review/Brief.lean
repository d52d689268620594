import Assay.Store.Disk
import Assay.Submission.Basic
import Assay.Version

/-!
# Briefs and notes

A review has a brief, which says what is reviewed against what and does not change, and it takes
notes, which grow as its steps run.

## Main definitions

* `Brief`: What a review is about.
* `Notes`: What a review has noted so far.
-/

namespace Assay

/-- The label of every submission that is reviewed. -/
def baseLabel : String := "conformance-product-submission"

/-- What a review is about: a submission, the release that it is for, the files with the release
    metadata in them, and which releases are supported. -/
structure Brief where
  submission : Submission
  disk : Disk
  metadata : Path
  target : String
  latest : String
  lookback : Int

/-- What a review has noted: the labels that it gives, the files that it missed, and the version that
    the evidence shows. -/
structure Notes where
  labels : List String
  missingFiles : List String
  evidenceVersion : String
  deriving DecidableEq, Repr

namespace Notes

/-- The notes of a review that has not run any step. -/
def start : Notes := ⟨[baseLabel], [], ""⟩

/-- The notes with a label given. -/
def label (n : Notes) (text : String) : Notes :=
  { n with labels := n.labels ++ [text] }

/-- The notes with a file missed. -/
def missFile (n : Notes) (file : String) : Notes :=
  { n with missingFiles := n.missingFiles ++ [file] }

end Notes

/-- The brief for a submission, whose files say which release it is for. -/
def Brief.ofSubmission (s : Submission) (disk : Disk) (metadata : Path) (latest : String)
    (lookback : Int) : Brief :=
  ⟨s, disk, metadata, s.release, latest, lookback⟩

end Assay
