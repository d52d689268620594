import Assay.Finding
import Assay.Text.Blank
import Assay.Text.Digit

/-!
# Release versions

A version is written as an optional `v`, one to three numbers between points, an optional
pre-release after a dash and an optional build after a plus. The build carries no meaning and is
dropped. Versions are ordered by their numbers, and a pre-release lies just before the release it
leads up to.

## Main definitions

* `Version`: The versions.
* `Version.read?`, `Version.parse`: The version that a text writes.
* `Version.render`, `Version.minorRelease`: The full text of a version and that of its minor
  release.
* `Version.lt`, `Version.le`, `Version.gt`, `Version.ge`: The order.
* `Version.oldestSupported`, `Version.checkSupported`: The window of releases still accepted.
-/

namespace Assay

open Text

/-- A release version. -/
structure Version where
  major : Nat
  minor : Nat
  patch : Nat
  prerelease : String
  deriving DecidableEq, Repr

namespace Version

/-- Whether a character may stand in a pre-release or a build. -/
def isLabelChar (c : Char) : Bool :=
  isAsciiDigit c || isAsciiLetter c || c == '.' || c == '-'

/-- The number after a point at the head of the characters, or 0 where there is no such number, and
    what follows it. -/
def takeNumber (cs : List Char) : Nat × List Char :=
  match cs with
  | '.' :: r =>
    let digits := r.takeWhile isAsciiDigit
    if digits.isEmpty then (0, cs) else (decimalValue digits, r.dropWhile isAsciiDigit)
  | _ => (0, cs)

/-- The label after a mark at the head of the characters, or the empty label where there is none,
    and what follows it. -/
def takeLabel (mark : Char) (cs : List Char) : List Char × List Char :=
  match cs with
  | [] => ([], [])
  | c :: r =>
    let label := r.takeWhile isLabelChar
    if c = mark ∧ ¬ label.isEmpty then (label, r.dropWhile isLabelChar) else ([], cs)

/-- The characters without a leading `v`. -/
def dropV : List Char → List Char
  | 'v' :: r => r
  | cs => cs

/-- The version that characters write, with nothing before or after it. -/
def readChars? (cs : List Char) : Option Version :=
  let body := dropV cs
  let digits := body.takeWhile isAsciiDigit
  if digits.isEmpty then none
  else
    let (minor, rest) := takeNumber (body.dropWhile isAsciiDigit)
    let (patch, rest) := takeNumber rest
    let (prerelease, rest) := takeLabel '-' rest
    let (_, rest) := takeLabel '+' rest
    if rest.isEmpty then some ⟨decimalValue digits, minor, patch, String.ofList prerelease⟩ else none

/-- The version that a text writes, with blanks around it. -/
def read? (raw : String) : Option Version :=
  readChars? (stripChars raw.toList)

/-- The version that a text writes, or the finding that it writes none. -/
def parse (raw : String) : Except Finding Version :=
  match read? raw with
  | some v => .ok v
  | none => .error (.versionUnreadable (strip raw))

/-- The version that a value writes: only texts write versions. -/
def ofValue : Value → Except Finding Version
  | .text raw => parse raw
  | v => .error (.versionNotText v)

/-- The text of the minor release that a version belongs to. -/
def minorRelease (v : Version) : String :=
  "v" ++ toString v.major ++ "." ++ toString v.minor

/-- The full text of a version. -/
def render (v : Version) : String :=
  v.minorRelease ++ "." ++ toString v.patch ++
    (if v.prerelease.isEmpty then "" else "-" ++ v.prerelease)

/-- Whether a version is a pre-release. -/
def isPrerelease (v : Version) : Bool :=
  !v.prerelease.isEmpty

/-- The order of versions: by number, and among equal numbers pre-releases by their text before the
    release itself. -/
def lt (a b : Version) : Bool :=
  if a.major ≠ b.major then a.major < b.major
  else if a.minor ≠ b.minor then a.minor < b.minor
  else if a.patch ≠ b.patch then a.patch < b.patch
  else match a.isPrerelease, b.isPrerelease with
    | true, true => a.prerelease < b.prerelease
    | true, false => true
    | false, _ => false

/-- At or before in the order. -/
def le (a b : Version) : Bool :=
  a.lt b || a == b

/-- Behind in the order. -/
def gt (a b : Version) : Bool :=
  !a.lt b && a != b

/-- At or behind in the order. -/
def ge (a b : Version) : Bool :=
  !a.lt b

/-- Versions in order, equal ones in the order given. -/
def sort (versions : List Version) : List Version :=
  versions.mergeSort fun a b => !b.lt a

/-- How many minor releases behind the latest one are accepted unless a review says otherwise. -/
def defaultLookback : Int := 2

/-- The oldest release still accepted: `lookback` minor releases before the latest one, never before
    the first of its major release. -/
def oldestSupported (latest : Version) (lookback : Int) : Version :=
  ⟨latest.major, ((latest.minor : Int) - lookback).toNat, 0, ""⟩

/-- Whether a target lies inside the window, as a finding where it does not. Targets after the latest
    release are accepted. -/
def checkSupported (target latest : String) (lookback : Int) : Except Finding Unit := do
  let targetVersion ← parse target
  let latestVersion ← parse latest
  let oldest := oldestSupported latestVersion lookback
  if targetVersion.lt oldest then throw (.releaseTooOld (strip target) oldest.minorRelease)

end Version

end Assay
