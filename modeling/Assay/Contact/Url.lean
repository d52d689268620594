import Assay.Contact.Host
import Assay.Fault
import Assay.Text.Blank
import Assay.Text.Digit
import Assay.Text.Search

/-!
# Web addresses

An address is valid when it names a scheme and a host. Three kinds of host break the check off: one
with a bracket that has no partner, one with brackets around something other than a numeric host,
and one with a character whose plain form is, or holds, one of the characters that delimit the
parts of an address.

## Main definitions

* `splitScheme`, `host?`: The scheme of an address, and its host.
* `isUrl`: Whether an address is valid.
-/

namespace Assay.Contact

open Text

/-- Whether a character may stand in a scheme. -/
def isSchemeChar (c : Char) : Bool :=
  isAsciiLetter c || isAsciiDigit c || c == '+' || c == '-' || c == '.'

/-- The scheme of an address, empty where there is none, and what follows it. A scheme begins with a
    letter and ends at the first colon. -/
def splitScheme (cs : List Char) : List Char × List Char :=
  match partitionChars ':' cs with
  | some (c :: r, after) =>
    if isAsciiLetter c && r.all isSchemeChar then (c :: r, after) else ([], cs)
  | _ => ([], cs)

/-- The host after two slashes: everything up to the path, the query or the fragment. -/
def host? (cs : List Char) : Option (List Char) :=
  match cs with
  | '/' :: '/' :: r => some (r.takeWhile fun c => c != '/' && c != '?' && c != '#')
  | _ => none

/-- The code points beyond ASCII whose compatibility form holds one of `/`, `?`, `#`, `@` and `:`. -/
def disguised : List Nat :=
  [0x2047, 0x2048, 0x2049, 0x2100, 0x2101, 0x2105, 0x2106, 0x2A74, 0xFE13, 0xFE16, 0xFE55, 0xFE56,
    0xFE5F, 0xFE6B, 0xFF03, 0xFF0F, 0xFF1A, 0xFF1F, 0xFF20]

/-- Whether an address is valid. -/
def isUrl (value : String) : Except Fault Bool :=
  let cs := value.toList
  if cs.any isBlank then .ok false
  else
    let (scheme, rest) := splitScheme cs
    match host? rest with
    | none => .ok false
    | some host =>
      if host.contains '[' != host.contains ']' then .error .unpairedBracket
      else if host.contains '[' && !bracketsFit host then .error .notNumericHost
      else if host.any fun c => disguised.contains c.toNat then .error .disguisedDelimiter
      else .ok (!scheme.isEmpty && !host.isEmpty)

end Assay.Contact
