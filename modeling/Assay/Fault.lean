import Assay.Text.Utf8

/-!
# Faults

What breaks an operation off without telling the contributor anything: input that the readers of
descriptors, addresses and files neither accept nor report as malformed. A fault is no statement
about a submission, and nothing in a review turns one into a finding.

## Main definitions

* `Fault`: The causes.
-/

namespace Assay

/-- Why an operation breaks off without a report. -/
inductive Fault
  /-- A metadata or rule file is not UTF-8. -/
  | undecodable (stretch : Text.Malformed)
  /-- A path holds the character NUL. -/
  | nulInPath
  /-- A path holds a name of more than 255 bytes, where only a name's presence was asked for. -/
  | nameTooLong
  /-- An infinite number stands where an integer is due. -/
  | infiniteNumber
  /-- A tagged scalar does not write a number. -/
  | malformedNumber
  /-- A tagged scalar that should write a number is empty. -/
  | noDigits
  /-- A tagged scalar is none of the truth words. -/
  | unknownTruthWord
  /-- A tagged scalar does not have the form of a date. -/
  | malformedDate
  /-- A date or an offset has the right form and does not exist. -/
  | impossibleDate
  /-- An escape names a code point past the last one. -/
  | codePointTooLarge
  /-- A collection stands where a scalar's own text is needed. -/
  | collectionForScalar
  /-- The host of an address has only one of two brackets. -/
  | unpairedBracket
  /-- The host of an address has brackets around something that is no numeric host. -/
  | notNumericHost
  /-- The host of an address holds a character whose plain form is a delimiter. -/
  | disguisedDelimiter
  /-- Two places of a document, one named and one numbered, have to be ordered. -/
  | incomparablePlaces
  /-- A pattern repeats more often than can be counted. -/
  | repeatTooLarge
  /-- A pattern asks for ASCII and for Unicode at once. -/
  | conflictingFlags
  /-- A path is needed and none was given. -/
  | noPath
  /-- A file stands where a directory has to be made. -/
  | fileInTheWay
  /-- A path leads on from a file as if it were a directory. -/
  | notADirectory
  /-- A directory stands where a file has to be written. -/
  | isADirectory
  deriving DecidableEq, Repr

end Assay
