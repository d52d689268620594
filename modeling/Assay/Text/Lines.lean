/-!
# Lines

Two views of line ends. A file is read with every `\r\n` and lone `\r` turned into `\n`. A text is
cut into lines at each of the characters that Unicode treats as the end of a line or a paragraph,
`\r\n` counting as one; a line end at the very end of the text does not open another line.

## Main definitions

* `unifyBreaks`: The line ends of a file made uniform.
* `lines`: The lines of a text, without their ends.
-/

namespace Assay.Text

/-- Every `\r\n` and every lone `\r` written as `\n`. -/
def unifyBreaksChars : List Char → List Char
  | [] => []
  | '\r' :: '\n' :: cs => '\n' :: unifyBreaksChars cs
  | '\r' :: cs => '\n' :: unifyBreaksChars cs
  | c :: cs => c :: unifyBreaksChars cs

/-- A text with every `\r\n` and every lone `\r` written as `\n`. -/
def unifyBreaks (s : String) : String :=
  String.ofList (unifyBreaksChars s.toList)

/-- Whether a character ends a line. -/
def isLineEnd (c : Char) : Bool :=
  let n := c.toNat
  (10 ≤ n && n ≤ 13) || (28 ≤ n && n ≤ 30) || n == 0x85 || n == 0x2028 || n == 0x2029

/-- The lines of the characters, given the line read so far in reverse and whether anything has
    been read since the last line end. -/
def linesFrom : List Char → List Char → Bool → List (List Char)
  | [], _, false => []
  | [], line, true => [line.reverse]
  | '\r' :: '\n' :: cs, line, _ => line.reverse :: linesFrom cs [] false
  | c :: cs, line, _ =>
    if isLineEnd c then line.reverse :: linesFrom cs [] false
    else linesFrom cs (c :: line) true

/-- The lines of a text, without their ends. -/
def lines (s : String) : List String :=
  (linesFrom s.toList [] false).map String.ofList

end Assay.Text
