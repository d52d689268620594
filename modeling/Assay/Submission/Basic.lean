import Assay.Text.CaseFold
import Assay.Text.Digit
import Assay.Text.Search

/-!
# Submissions

What a contributor hands in: files laid out as `release/product/file`, with the title, the labels
and the commits of the submission. The release and the product are not stated anywhere; they are
read off the path of the first file that has the layout.

## Main definitions

* `SubmittedFile`, `Commit`, `Submission`: What is handed in.
* `SubmittedFile.baseName`, `SubmittedFile.folder`: The two parts of a file's path.
* `Submission.file?`: The file of a name, the case of its letters aside.
* `Placement`: A release and a product.
* `Submission.placement?`: The placement that the files show.
-/

namespace Assay

open Text

/-- A file of a submission. -/
structure SubmittedFile where
  path : String
  contents : String
  address : Option String
  deriving DecidableEq, Repr

/-- What a service says about a commit. -/
structure CommitStatus where
  context : String
  state : String
  deriving DecidableEq, Repr

/-- A commit of a submission. -/
structure Commit where
  oid : String
  statuses : List CommitStatus
  deriving DecidableEq, Repr

/-- A submission. The content types are those that the addresses in the product description were
    found to have, by field. -/
structure Submission where
  number : Int
  title : String
  author : String
  owner : String
  repository : String
  files : List SubmittedFile
  labels : List String
  commits : List Commit
  contentTypes : List (String × String)
  deriving DecidableEq, Repr

namespace SubmittedFile

/-- What follows the last slash of a path. -/
def baseNameChars (path : List Char) : List Char :=
  match partitionLastChars '/' path with
  | some (_, name) => name
  | none => path

/-- What stands before the last slash of a path, without further slashes at its end unless it is made
    of slashes only; a point where there is nothing. -/
def folderChars (path : List Char) : List Char :=
  match partitionLastChars '/' path with
  | none => ['.']
  | some (before, _) =>
    let trimmed := (before.reverse.dropWhile (· == '/')).reverse
    if trimmed.isEmpty then before ++ ['/'] else trimmed

/-- The name of a file without its folder. -/
def baseName (f : SubmittedFile) : String :=
  String.ofList (baseNameChars f.path.toList)

/-- The folder of a file. -/
def folder (f : SubmittedFile) : String :=
  String.ofList (folderChars f.path.toList)

/-- Whether a file has a name, the case of letters aside. -/
def isNamed (name : String) (f : SubmittedFile) : Bool :=
  caseFold f.baseName == caseFold name

end SubmittedFile

/-- The release and the product that a submission is for. -/
structure Placement where
  release : String
  product : String
  deriving DecidableEq, Repr

namespace Placement

/-- The release at the head of the characters, `v`, a number, a point and a number, and what follows
    it. -/
def takeRelease (cs : List Char) : Option (List Char × List Char) :=
  match cs with
  | 'v' :: r =>
    let major := r.takeWhile isAsciiDigit
    match r.dropWhile isAsciiDigit with
    | '.' :: s =>
      let minor := s.takeWhile isAsciiDigit
      if major.isEmpty || minor.isEmpty then none
      else some ('v' :: (major ++ '.' :: minor), s.dropWhile isAsciiDigit)
    | _ => none
  | _ => none

/-- The placement at the head of the characters: a release, a slash, and a product that ends at the
    last slash of the line. -/
def takeHere (cs : List Char) : Option Placement :=
  match takeRelease cs with
  | some (release, '/' :: r) =>
    (partitionLastChars '/' (r.takeWhile (· != '\n'))).map fun (product, _) =>
      ⟨String.ofList release, String.ofList product⟩
  | _ => none

/-- The first placement in the characters. -/
def find? : List Char → Option Placement
  | [] => none
  | c :: cs =>
    match takeHere (c :: cs) with
    | some p => some p
    | none => find? cs

end Placement

namespace Submission

/-- The first file of a name, the case of letters aside. -/
def file? (s : Submission) (name : String) : Option SubmittedFile :=
  s.files.find? (SubmittedFile.isNamed name)

/-- The placement that the files of a submission show: that of the first path that holds one. -/
def placement? (s : Submission) : Option Placement :=
  s.files.findSome? fun f => Placement.find? f.path.toList

/-- The release that a submission is for, empty where its files show none. -/
def release (s : Submission) : String :=
  (s.placement?.map Placement.release).getD ""

/-- The product that a submission is for, empty where its files show none. -/
def product (s : Submission) : String :=
  (s.placement?.map Placement.product).getD ""

end Submission

end Assay
