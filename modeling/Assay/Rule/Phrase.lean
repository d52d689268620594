import Assay.Text.Search

/-!
# Phrases

A step of a rule is a sentence of a fixed form with quoted arguments. A phrase is such a form, a
row of pieces, and a text has the form when the pieces account for all of it. An argument is
anything without a quotation mark, so where it ends is never in doubt.

## Main definitions

* `Piece`, `Phrase`: The pieces, and the forms that they make.
* `Phrase.read?`: The arguments of a text that has a form.
* `Phrase.fill`: The text that a form makes of its arguments.
-/

namespace Assay

open Text

/-- A piece of a phrase. -/
inductive Piece
  /-- Fixed words. -/
  | words (text : String)
  /-- An argument in quotation marks. -/
  | argument
  /-- The word `a` or `an`. -/
  | article
  /-- Any words up to the end of the line. -/
  | remark
  deriving DecidableEq, Repr

/-- The form of a step's text. -/
abbrev Phrase := List Piece

namespace Phrase

/-- The arguments of the characters, if they have the form. -/
def readChars? : Phrase → List Char → Option (List String)
  | [], cs => if cs.isEmpty then some [] else none
  | .words text :: rest, cs => (dropFront? text.toList cs).bind (readChars? rest)
  | .argument :: rest, cs =>
    match cs with
    | '"' :: inner =>
      match partitionChars '"' inner with
      | some (argument, after) => (readChars? rest after).map (String.ofList argument :: ·)
      | none => none
    | _ => none
  | .article :: rest, cs =>
    match cs with
    | 'a' :: 'n' :: after => readChars? rest after
    | 'a' :: after => readChars? rest after
    | _ => none
  | .remark :: rest, cs => if cs.contains '\n' then none else readChars? rest []

/-- The arguments of a text, if it has the form. -/
def read? (phrase : Phrase) (text : String) : Option (List String) :=
  readChars? phrase text.toList

/-- The text that a form makes of its arguments. A missing argument is empty, and a remark counts as
    an argument that is written without quotation marks. -/
def fill : Phrase → List String → String
  | [], _ => ""
  | .words text :: rest, arguments => text ++ fill rest arguments
  | .argument :: rest, arguments =>
    "\"" ++ arguments.headD "" ++ "\"" ++ fill rest arguments.tail
  | .article :: rest, arguments => "a" ++ fill rest arguments
  | .remark :: rest, arguments => arguments.headD "" ++ fill rest arguments.tail

end Phrase

end Assay
