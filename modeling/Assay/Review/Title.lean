import Assay.Submission.Basic

/-!
# The release in a title

A title names a release between a space and either a space or a slash. Where a line of the title
names several, the last one counts, and of several lines the first that names any.

## Main definitions

* `titleRelease`: The release that a title names.
-/

namespace Assay

open Text

/-- The release at the head of the characters, after a space and before a space or a slash. -/
def takeSpacedRelease (cs : List Char) : Option (List Char) :=
  match cs with
  | ' ' :: r =>
    match Placement.takeRelease r with
    | some (release, c :: _) => if c = ' ' || c = '/' then some release else none
    | _ => none
  | _ => none

/-- The last release that a line names. -/
def lastRelease : List Char → Option (List Char)
  | [] => none
  | c :: cs =>
    match lastRelease cs with
    | some release => some release
    | none => takeSpacedRelease (c :: cs)

/-- The release that a title names, empty where it names none. -/
def titleRelease (title : String) : String :=
  String.ofList (((splitChars '\n' title.toList).findSome? lastRelease).getD [])

end Assay
