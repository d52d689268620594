/-!
# Blanks

The characters that count as empty space in a submission, and the three operations built on them:
taking them off both ends of a text, taking them off its end, and cutting a text into the words
between them.

A blank is a character that Unicode gives the bidirectional class of a space or a separator, or
the category of a space separator, so the file separators `U+001C` to `U+001F` count and the
zero-width space `U+200B` does not.

## Main definitions

* `isBlank`: The test on one character.
* `strip`, `stripEnd`: A text without the blanks at its ends.
* `words`: The maximal runs of characters that are not blank.
-/

namespace Assay.Text

/-- Whether a character is empty space. -/
def isBlank (c : Char) : Bool :=
  let n := c.toNat
  (9 ≤ n && n ≤ 13) || (28 ≤ n && n ≤ 32) || n == 0x85 || n == 0xA0 || n == 0x1680 ||
    (0x2000 ≤ n && n ≤ 0x200A) || n == 0x2028 || n == 0x2029 || n == 0x202F || n == 0x205F ||
    n == 0x3000

/-- Characters without the blanks at the end. -/
def stripEndChars (cs : List Char) : List Char :=
  (cs.reverse.dropWhile isBlank).reverse

/-- Characters without the blanks at either end. -/
def stripChars (cs : List Char) : List Char :=
  stripEndChars (cs.dropWhile isBlank)

/-- A text without the blanks at either end. -/
def strip (s : String) : String :=
  String.ofList (stripChars s.toList)

/-- A text without the blanks at its end. -/
def stripEnd (s : String) : String :=
  String.ofList (stripEndChars s.toList)

/-- The maximal runs of characters that are not blank, given the run read so far in reverse. -/
def wordsFrom : List Char → List Char → List (List Char)
  | [], [] => []
  | [], run => [run.reverse]
  | c :: cs, run =>
    if isBlank c then
      match run with
      | [] => wordsFrom cs []
      | _ => run.reverse :: wordsFrom cs []
    else wordsFrom cs (c :: run)

/-- The words of a text: its maximal runs of characters that are not blank. -/
def words (s : String) : List String :=
  (wordsFrom s.toList []).map String.ofList

end Assay.Text
