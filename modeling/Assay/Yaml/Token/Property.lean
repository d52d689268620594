import Assay.Text.Digit
import Assay.Text.Utf8
import Assay.Yaml.Token.Basic

/-!
# Directives, anchors and tags

The tokens that say something about a document or about a node rather than being part of its
content.

## Main definitions

* `lexDirective`: A directive with the rest of its line.
* `lexName`: The name of an anchor or of a reference.
* `lexTag`: A tag.
-/

namespace Assay.Yaml

open Text

/-- Whether a character may stand in a tag. -/
def isTagChar (c : Char) : Bool :=
  isNameChar c || "-;/?:@&=+$,_.!~*'()[]%".toList.contains c

/-- The bytes of a run of percent escapes. -/
def percentBytes : Nat → Lexing (List UInt8)
  | 0 => return []
  | fuel + 1 => do
    if (← peek) = '%' then
      forward 1
      match hexValue? (← peekAt 0), hexValue? (← peekAt 1) with
      | some a, some b =>
        forward 2
        return UInt8.ofNat (16 * a + b) :: (← percentBytes fuel)
      | _, _ => malformed
    else return []

/-- The characters of a tag after `text`; percent escapes write UTF-8. -/
def tagCharsFrom : Nat → List Char → Lexing (List Char)
  | 0, text => return text
  | fuel + 1, text => do
    let c ← peek
    if c = '%' then
      let bytes ← percentBytes ((← get).rest.length + 1)
      match decodeFrom 0 bytes with
      | .ok cs => tagCharsFrom fuel (text ++ cs)
      | .error _ => malformed
    else if isTagChar c then
      let plain ← takeWhile fun c => isTagChar c && c != '%'
      tagCharsFrom fuel (text ++ plain)
    else return text

/-- The characters of a tag or of the start of tags; a percent escape may stand for nothing, but
    something must stand here. -/
def lexTagChars : Lexing (List Char) := do
  unless isTagChar (← peek) do malformed
  tagCharsFrom ((← get).rest.length + 1) []

/-- The handle of a tag: an exclamation mark by itself before a space, or one before and one after a
    name that may be empty. -/
def lexHandle : Lexing (List Char) := do
  unless (← peek) = '!' do malformed
  if (← peekAt 1) = ' ' then
    forward 1
    return ['!']
  else
    forward 1
    let name ← takeWhile isNameChar
    unless (← peek) = '!' do malformed
    forward 1
    return '!' :: (name ++ ['!'])

/-- A number of a version. -/
def lexVersionNumber : Lexing Nat := do
  let digits ← takeWhile isAsciiDigit
  if digits.isEmpty then malformed
  return decimalValue digits

/-- A directive from its percent sign to the end of its line. -/
def lexDirective : Lexing Token := do
  forward 1
  let name ← takeWhile isNameChar
  if name.isEmpty then malformed
  unless isSpaceOrEnd (← peek) do malformed
  let token ←
    if name = "YAML".toList then do
      skipSpaces
      let major ← lexVersionNumber
      unless (← peek) = '.' do malformed
      forward 1
      let minor ← lexVersionNumber
      unless isSpaceOrEnd (← peek) do malformed
      pure (Token.versionDirective major minor)
    else if name = "TAG".toList then do
      skipSpaces
      let handle ← lexHandle
      unless (← peek) = ' ' do malformed
      skipSpaces
      let start ← lexTagChars
      unless isSpaceOrEnd (← peek) do malformed
      pure (Token.tagDirective handle start)
    else do
      -- Other directives are passed over.
      let _ ← takeWhile fun c => !isBreakOrEnd c
      pure Token.otherDirective
  skipRestOfLine
  return token

/-- The name of an anchor or of a reference after its first character. -/
def lexName : Lexing (List Char) := do
  forward 1
  let name ← takeWhile isNameChar
  if name.isEmpty then malformed
  let c ← peek
  unless isGapOrEnd c || "?:,]\x7d%@`".toList.contains c do malformed
  return name

/-- Whether a second exclamation mark stands before the next space. -/
def hasHandle (c : Cursor) : Bool :=
  ((c.rest.drop 1).takeWhile fun c => !isSpaceOrEnd c).contains '!'

/-- A tag: in angle brackets as it is, by itself, or with a handle. -/
def lexTag : Lexing Token := do
  let c ← peekAt 1
  let token ←
    if c = '<' then do
      forward 2
      let suffix ← lexTagChars
      unless (← peek) = '>' do malformed
      forward 1
      pure (Token.tag none suffix)
    else if isGapOrEnd c then do
      forward 1
      pure (Token.tag none ['!'])
    else do
      let handle ← if hasHandle (← get) then lexHandle else (do forward 1; pure ['!'])
      let suffix ← lexTagChars
      pure (Token.tag (some handle) suffix)
  unless isSpaceOrEnd (← peek) do malformed
  return token

end Assay.Yaml
