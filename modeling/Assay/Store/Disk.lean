import Assay.Fault
import Assay.Store.Path
import Assay.Text.Lines

/-!
# Files

The files that a review can see: those below one working directory. What lies outside of it counts
as directories with nothing in them. Paths are followed name by name, so `..` leads out of a
directory only where that directory exists.

Text is read as UTF-8 with uniform line ends.

## Main definitions

* `Disk`: The files.
* `ReadProblem`: Why a file cannot be read as text, with its report in `ReadProblem.message`.
* `Disk.read`, `Disk.isFile`, `Disk.isDirectory`: What stands at a path.
* `Disk.write`: The files with a text put at a path.
* `Disk.filesBelow`, `Disk.namesIn`: What a directory holds, in order.
* `Disk.changes`: The files by which one state differs from another.
-/

namespace Assay

open Text

/-- What stands at a place. -/
inductive Entry
  | file (bytes : List UInt8)
  | directory
  deriving DecidableEq

/-- The files below the working directory: each place is given by its names from there. A directory
    that holds anything need not be listed. -/
structure Disk where
  entries : List (List String × Entry)

/-- Why a file cannot be read as text. -/
inductive ReadProblem
  | notFound
  | notADirectory
  | isADirectory
  | nameTooLong
  | undecodable (stretch : Malformed)
  | nulInPath
  deriving DecidableEq, Repr

/-- The report on a file at a path that cannot be read. -/
def ReadProblem.message (path : Path) : ReadProblem → String
  | notFound => "[Errno 2] No such file or directory: " ++ quote path.render
  | notADirectory => "[Errno 20] Not a directory: " ++ quote path.render
  | isADirectory => "[Errno 21] Is a directory: " ++ quote path.render
  | nameTooLong => "[Errno 36] File name too long: " ++ quote path.render
  | undecodable stretch => stretch.message
  | nulInPath => "embedded null byte"

/-- Where a path leads: to a place below the working directory, or outside of it. -/
inductive Spot
  | inside (names : List String)
  | outside
  deriving DecidableEq

namespace Disk

/-- The names that follow `front` in a place, if the place begins with it. -/
def below? : List String → List String → Option (List String)
  | [], names => some names
  | _ :: _, [] => none
  | f :: fs, n :: ns => if f = n then below? fs ns else none

/-- What stands at a place below the working directory. -/
def entry? (d : Disk) (names : List String) : Option Entry :=
  match d.entries.lookup names with
  | some e => some e
  | none =>
    if names.isEmpty || d.entries.any fun (place, _) => (below? names place).isSome then
      some .directory
    else none

/-- What stands where a path leads: everything outside is a directory. -/
def at? (d : Disk) : Spot → Option Entry
  | .inside names => d.entry? names
  | .outside => some .directory

/-- The spot that `..` leads to. -/
def above : Spot → Spot
  | .inside [] => .outside
  | .inside names => .inside names.dropLast
  | .outside => .outside

/-- The longest name that a file may have, in bytes of UTF-8. -/
def longestName : Nat := 255

/-- The longest path that can be followed, in bytes of UTF-8. -/
def longestPath : Nat := 4095

/-- The spot reached from a spot by a name: there has to be a directory to look in, and something of
    that name in it. -/
def enter (d : Disk) (spot : Spot) (name : String) : Except ReadProblem Spot :=
  match d.at? spot with
  | some .directory =>
    if name = ".." then .ok (above spot)
    else if longestName < name.utf8ByteSize then .error .nameTooLong
    else match spot with
      | .outside => .error .notFound
      | .inside names =>
        if (d.entry? (names ++ [name])).isSome then .ok (.inside (names ++ [name]))
        else .error .notFound
  | _ => .error .notADirectory

/-- The spot that a path starts from. -/
def origin (p : Path) : Spot :=
  if p.slashes = 0 then .inside [] else .outside

/-- The spot that a path leads to. -/
def follow (d : Disk) (p : Path) : Except ReadProblem Spot :=
  if p.render.toList.contains (Char.ofNat 0) then .error .nulInPath
  else if longestPath < p.render.utf8ByteSize then .error .nameTooLong
  else p.names.foldlM d.enter (origin p)

/-- The bytes of the file at a path. -/
def bytesAt (d : Disk) (p : Path) : Except ReadProblem (List UInt8) := do
  match d.at? (← d.follow p) with
  | some (.file bytes) => return bytes
  | _ => throw .isADirectory

/-- The text of the file at a path. -/
def read (d : Disk) (p : Path) : Except ReadProblem String := do
  match decodeUtf8 (← d.bytesAt p) with
  | .ok text => return unifyBreaks text
  | .error stretch => throw (.undecodable stretch)

/-- Whether the entry at a path passes a test. A path to nothing does not, but a name that no file
    can have breaks the question off. -/
def holdsAt (d : Disk) (test : Entry → Bool) (p : Path) : Except Fault Bool :=
  match d.follow p with
  | .ok spot => .ok ((d.at? spot).any test)
  | .error .nameTooLong => .error .nameTooLong
  | .error _ => .ok false

/-- Whether there is a file at a path. -/
def isFile (d : Disk) (p : Path) : Except Fault Bool :=
  d.holdsAt (fun e => e matches .file _) p

/-- Whether there is a directory at a path. -/
def isDirectory (d : Disk) (p : Path) : Except Fault Bool :=
  d.holdsAt (fun e => e matches .directory) p

/-- The entries with one entry put at a place. -/
def putEntry (names : List String) (e : Entry) :
    List (List String × Entry) → List (List String × Entry)
  | [] => [(names, e)]
  | (place, old) :: rest =>
    if place = names then (names, e) :: rest else (place, old) :: putEntry names e rest

/-- The files with an entry put at a place. -/
def put (d : Disk) (names : List String) (e : Entry) : Disk :=
  ⟨putEntry names e d.entries⟩

/-- The files with the directories of a path made where they are missing, and the spot that the path
    leads to then. -/
def makeDirectories : List String → Spot → Disk → Except Fault (Disk × Spot)
  | [], spot, d => .ok (d, spot)
  | name :: rest, spot, d =>
    if name = ".." then makeDirectories rest (above spot) d
    else if longestName < name.utf8ByteSize then .error .nameTooLong
    else match spot with
      | .outside => makeDirectories rest .outside d
      | .inside names =>
        let place := names ++ [name]
        match d.entry? place with
        | some .directory => makeDirectories rest (.inside place) d
        | some (.file _) => .error (if rest.isEmpty then .fileInTheWay else .notADirectory)
        | none => makeDirectories rest (.inside place) (d.put place .directory)

/-- The files with a text put at a path, its directories made where they are missing. What is
    written outside of the working directory leaves no trace. -/
def write (d : Disk) (p : Path) (text : String) : Except Fault Disk := do
  if p.render.toList.contains (Char.ofNat 0) then throw .nulInPath
  if longestPath < p.render.utf8ByteSize then throw .nameTooLong
  let (d, spot) ← makeDirectories p.parent.names (origin p) d
  match p.names.getLast? with
  | none => throw .isADirectory
  | some name =>
    if name = ".." then throw .isADirectory
    if longestName < name.utf8ByteSize then throw .nameTooLong
    match spot with
    | .outside => return d
    | .inside names =>
      match d.entry? (names ++ [name]) with
      | some .directory => throw .isADirectory
      | _ => return d.put (names ++ [name]) (.file text.toUTF8.toList)

/-- Whether one place is listed no later than another: the first difference between their names
    decides. -/
def placeLe : List String → List String → Bool
  | [], _ => true
  | _ :: _, [] => false
  | a :: as, b :: bs => if a = b then placeLe as bs else decide (a ≤ b)

/-- The files below a directory, by their names from there, in order. -/
def filesBelow (d : Disk) (spot : Spot) : List (List String) :=
  match spot with
  | .outside => []
  | .inside names =>
    let found := d.entries.filterMap fun (place, e) =>
      match e, below? names place with
      | .file _, some rest => some rest
      | _, _ => none
    found.mergeSort placeLe

/-- The names in a directory, each once and in order. -/
def namesIn (d : Disk) (spot : Spot) : List String :=
  match spot with
  | .outside => []
  | .inside names =>
    let found := d.entries.filterMap fun (place, _) => (below? names place).bind List.head?
    found.eraseDups.mergeSort fun a b => decide (a ≤ b)

/-- The files of `d` that `old` does not hold or holds with other bytes, by path and bytes. -/
def changes (old d : Disk) : List (String × List UInt8) :=
  d.entries.filterMap fun (place, e) =>
    match e with
    | .file bytes =>
      if old.entries.lookup place = some (.file bytes) then none
      else some (String.intercalate "/" place, bytes)
    | .directory => none

end Disk

end Assay
