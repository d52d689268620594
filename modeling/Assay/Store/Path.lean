import Assay.Text.Search

/-!
# Paths

A path is written as names between slashes. Empty names and the name `.` carry no meaning and are
dropped; the name `..` is kept, because what it leads to depends on the files that are there. A
path that begins with a slash starts at the root, and joined to another path it stands alone.

## Main definitions

* `Path`: The paths.
* `Path.ofText`, `Path.render`: The path that a text writes, and the text of a path.
* `Path.join`: A path followed from the end of another.
-/

namespace Assay

open Text

/-- A path: the number of slashes that it begins with, and its names. -/
structure Path where
  slashes : Nat
  names : List String
  deriving DecidableEq, Repr

namespace Path

/-- The slashes that count at the head of the characters: two are kept apart from one, and more than
    two are the same as one. -/
def leadingSlashes (cs : List Char) : Nat :=
  match (cs.takeWhile (· == '/')).length with
  | 0 => 0
  | 2 => 2
  | _ => 1

/-- The path that a text writes. -/
def ofText (s : String) : Path :=
  ⟨leadingSlashes s.toList, (splitAt '/' s).filter fun name => name != "" && name != "."⟩

/-- A path followed from the end of another: one that begins with a slash stands alone. -/
def join (p q : Path) : Path :=
  if q.slashes = 0 then ⟨p.slashes, p.names ++ q.names⟩ else q

/-- A name below a path. -/
def child (p : Path) (name : String) : Path :=
  ⟨p.slashes, p.names ++ [name]⟩

/-- The text of a path; the path without any names is written as a point. -/
def render (p : Path) : String :=
  if p.slashes = 0 && p.names.isEmpty then "."
  else String.ofList (List.replicate p.slashes '/') ++ String.intercalate "/" p.names

/-- A path without its last name. -/
def parent (p : Path) : Path :=
  ⟨p.slashes, p.names.dropLast⟩

end Path

end Assay
