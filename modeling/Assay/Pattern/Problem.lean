import Assay.Fault
import Assay.Text.Quoted

/-!
# Problems of patterns

What can be wrong with the text of a pattern, as its author reads it: the cause, the position in
the text, and for a text of several lines also the line and the column.

## Main definitions

* `Problem`: The causes.
* `PatternError`: A cause at a position.
* `PatternError.message`: The report.
-/

namespace Assay.Pattern

open Text

/-- What can be wrong with a pattern. -/
inductive Problem
  | endInEscape
  | badEscape (escape : List Char)
  | incompleteEscape (escape : List Char)
  | octalTooLarge (escape : List Char)
  | missingBrace
  | missingName (what : String)
  | unterminatedName (close : Char)
  | unknownCharacter (name : List Char)
  | openGroup
  | sameLookBehind
  | invalidReference (group : Nat)
  | unterminatedSet
  | badRange (low high : List Char)
  | minExceedsMax
  | nothingToRepeat
  | multipleRepeat
  | unexpectedEnd
  | badGroupName (name : List Char)
  | unknownGroupName (name : List Char)
  | badGroupNumber
  | redefinition (name : List Char) (group earlier : Nat)
  | unknownExtension (text : List Char)
  | unterminatedComment
  | unterminatedGroup
  | threeBranches
  | lateFlags
  | localeFlag
  | incompatibleFlags
  | unknownFlag
  | missingFlagEnd
  | missingFlag
  | missingColon
  | globalFlagOn
  | globalFlagOff
  | typeFlagOff
  | flagOnAndOff
  | unbalanced
  | variableLookBehind
  | longLookBehind
  | templateRepeat (name : String)
  deriving DecidableEq, Repr

/-- The wording of a cause. -/
def Problem.message : Problem → String
  | endInEscape => "bad escape (end of pattern)"
  | badEscape e => "bad escape " ++ String.ofList e
  | incompleteEscape e => "incomplete escape " ++ String.ofList e
  | octalTooLarge e => "octal escape value " ++ String.ofList e ++ " outside of range 0-0o377"
  | missingBrace => "missing \x7b"
  | missingName what => "missing " ++ what
  | unterminatedName close => "missing " ++ String.ofList [close] ++ ", unterminated name"
  | unknownCharacter name => "undefined character name " ++ String.ofList (quoteChars name)
  | openGroup => "cannot refer to an open group"
  | sameLookBehind => "cannot refer to group defined in the same lookbehind subpattern"
  | invalidReference group => "invalid group reference " ++ toString group
  | unterminatedSet => "unterminated character set"
  | badRange low high =>
    "bad character range " ++ String.ofList low ++ "-" ++ String.ofList high
  | minExceedsMax => "min repeat greater than max repeat"
  | nothingToRepeat => "nothing to repeat"
  | multipleRepeat => "multiple repeat"
  | unexpectedEnd => "unexpected end of pattern"
  | badGroupName name => "bad character in group name " ++ String.ofList (quoteChars name)
  | unknownGroupName name => "unknown group name " ++ String.ofList (quoteChars name)
  | badGroupNumber => "bad group number"
  | redefinition name group earlier =>
    "redefinition of group name " ++ String.ofList (quoteChars name) ++ " as group " ++
      toString group ++ "; was group " ++ toString earlier
  | unknownExtension text => "unknown extension ?" ++ String.ofList text
  | unterminatedComment => "missing ), unterminated comment"
  | unterminatedGroup => "missing ), unterminated subpattern"
  | threeBranches => "conditional backref with more than two branches"
  | lateFlags => "global flags not at the start of the expression"
  | localeFlag => "bad inline flags: cannot use 'L' flag with a str pattern"
  | incompatibleFlags => "bad inline flags: flags 'a', 'u' and 'L' are incompatible"
  | unknownFlag => "unknown flag"
  | missingFlagEnd => "missing -, : or )"
  | missingFlag => "missing flag"
  | missingColon => "missing :"
  | globalFlagOn => "bad inline flags: cannot turn on global flag"
  | globalFlagOff => "bad inline flags: cannot turn off global flag"
  | typeFlagOff => "bad inline flags: cannot turn off flags 'a', 'u' and 'L'"
  | flagOnAndOff => "bad inline flags: flag turned on and off"
  | unbalanced => "unbalanced parenthesis"
  | variableLookBehind => "look-behind requires fixed-width pattern"
  | longLookBehind => "looks too much behind"
  | templateRepeat name => "internal: unsupported template operator " ++ name

/-- A problem with its position in the pattern, where it has one. -/
structure PatternError where
  problem : Problem
  position : Option Nat
  deriving DecidableEq, Repr

/-- The report on a problem with the pattern `text`. -/
def PatternError.message (e : PatternError) (text : List Char) : String :=
  match e.position with
  | none => e.problem.message
  | some p =>
    let before := text.take p
    let lineNumber := before.count '\n' + 1
    let column := (before.reverse.takeWhile fun c => c ≠ '\n').length + 1
    e.problem.message ++ " at position " ++ toString p ++
      (if text.contains '\n' then
        " (line " ++ toString lineNumber ++ ", column " ++ toString column ++ ")"
      else "")

/-- Why a pattern is not read: its author is told, or the reading breaks off. -/
inductive Stop
  | problem (e : PatternError)
  | fault (f : Fault)
  deriving DecidableEq, Repr

end Assay.Pattern
