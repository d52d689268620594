/-!
# Searching and replacing

Occurrences of one text inside another, on lists of characters and on strings. Replacement runs
from left to right and does not look again at what it has written, so a replacement that creates
a new occurrence leaves it standing.

## Main definitions

* `occursIn`: Whether a text occurs in another.
* `replaceAll`: Every occurrence replaced, from the left, without overlaps.
* `splitAt`: A text cut at every occurrence of a character.
* `partitionChars`, `partitionLastChars`: A text cut at the first occurrence of a character, and at the last.
-/

namespace Assay.Text

/-- What follows `front` at the head of `cs`, if `cs` begins with it. -/
def dropFront? : List Char → List Char → Option (List Char)
  | [], cs => some cs
  | _ :: _, [] => none
  | p :: ps, c :: cs => if p = c then dropFront? ps cs else none

/-- Whether `needle` occurs in the characters. -/
def occursInChars (needle : List Char) : List Char → Bool
  | [] => needle.isEmpty
  | c :: cs => (dropFront? needle (c :: cs)).isSome || occursInChars needle cs

/-- Whether `needle` occurs in `s`. -/
def occursIn (needle s : String) : Bool :=
  occursInChars needle.toList s.toList

/-- Every occurrence of a non-empty `needle` replaced; `skip` characters of an occurrence that was
    just replaced are still to be passed over. -/
def replaceFrom (needle replacement : List Char) : Nat → List Char → List Char
  | _, [] => []
  | skip + 1, _ :: cs => replaceFrom needle replacement skip cs
  | 0, c :: cs =>
    match dropFront? needle (c :: cs) with
    | some _ => replacement ++ replaceFrom needle replacement (needle.length - 1) cs
    | none => c :: replaceFrom needle replacement 0 cs

/-- Every occurrence of a non-empty `needle` in `s` replaced, from the left and without
    overlaps. -/
def replaceAll (needle replacement s : String) : String :=
  String.ofList (replaceFrom needle.toList replacement.toList 0 s.toList)

/-- Characters cut at every occurrence of `mark`; there is always at least one piece. -/
def splitChars (mark : Char) : List Char → List (List Char)
  | [] => [[]]
  | c :: cs =>
    if c = mark then [] :: splitChars mark cs
    else match splitChars mark cs with
      | [] => [[c]]
      | piece :: rest => (c :: piece) :: rest

/-- A text cut at every occurrence of `mark`. -/
def splitAt (mark : Char) (s : String) : List String :=
  (splitChars mark s.toList).map String.ofList

/-- What stands before and after the first `mark`, or `none` where there is no `mark`. -/
def partitionChars (mark : Char) : List Char → Option (List Char × List Char)
  | [] => none
  | c :: cs =>
    if c = mark then some ([], cs)
    else (partitionChars mark cs).map fun (before, after) => (c :: before, after)

/-- What stands before and after the last `mark`, or `none` where there is no `mark`. -/
def partitionLastChars (mark : Char) (cs : List Char) : Option (List Char × List Char) :=
  (partitionChars mark cs.reverse).map fun (after, before) => (before.reverse, after.reverse)

/-- Whether a text begins with another. -/
def beginsWith (front s : String) : Bool :=
  (dropFront? front.toList s.toList).isSome

/-- Whether a text ends with another. -/
def endsWith (back s : String) : Bool :=
  (dropFront? back.toList.reverse s.toList.reverse).isSome

/-- The items of a comma-separated list, without blanks around them and without empty ones. -/
def listItems (s : String) (clean : String → String) : List String :=
  ((splitAt ',' s).map clean).filter fun item => !item.isEmpty

end Assay.Text
