import Assay.Finding
import Assay.Halt
import Assay.Schema.Order
import Assay.Store.Disk
import Assay.Yaml.Reading

/-!
# Requirement manifests

The metadata holds one manifest for each release: a list of tests, each with the releases that
require it. A manifest that cannot be read is not published yet; one that can be read and has
another shape is corrupt.

## Main definitions

* `ManifestRecord`: A test of a manifest.
* `ManifestRecord.releases`: The releases that require it.
* `Manifest.load`: The records of the manifest of a release.
* `Manifest.isPublished`: Whether a release has a manifest.
-/

namespace Assay

open Text

/-- A test of a manifest. -/
structure ManifestRecord where
  codename : String
  release : String
  testname : String
  description : String
  file : String
  deriving DecidableEq, Repr

/-- The releases that require a test, in the order given. -/
def ManifestRecord.releases (r : ManifestRecord) : List String :=
  listItems r.release strip

namespace Manifest

/-- The name of every manifest. -/
def fileName : String := "conformance.yaml"

/-- Where the manifest of a release is kept. -/
def path (root : Path) (version : String) : Path :=
  (root.join (Path.ofText (strip version))).child fileName

/-- Whether a release has a manifest. -/
def isPublished (d : Disk) (root : Path) (version : String) : Except Fault Bool :=
  if (strip version).isEmpty then .ok false else d.isFile (path root version)

/-- The shape of a manifest. -/
def schema : Schema :=
  .list false
    (.record false ["codename", "release"]
      [("testname", .text false), ("codename", .text true), ("description", .text false),
        ("release", .text true), ("file", .text false)])

/-- The text in a field, empty where there is none. -/
def fieldText (v : Value) (name : String) : String :=
  match v.field? name with
  | some (.text s) => s
  | _ => ""

/-- The record that a mapping of the right shape holds. -/
def readRecord (v : Value) : ManifestRecord :=
  ⟨fieldText v "codename", fieldText v "release", fieldText v "testname", fieldText v "description",
    fieldText v "file"⟩

/-- The records in a manifest of the right shape. -/
def readRecords : Value → List ManifestRecord
  | .list items => items.map readRecord
  | _ => []

/-- The records that the value of a manifest at a path holds. An empty manifest holds none. -/
def ofValue (path : Path) : Value → Except (Halt Finding) (List ManifestRecord)
  | .null => .ok []
  | v =>
    match schema.report v with
    | .ok [] => .ok (readRecords v)
    | .ok violations => .error (.report (.manifestMisshapen path.render violations))
    | .error f => .error (.fault f)

/-- The records that the text of a manifest at a path holds. -/
def ofText (path : Path) (text : String) : Except (Halt Finding) (List ManifestRecord) :=
  match Yaml.read text with
  | .ok v => ofValue path v
  | .error .malformed => .error (.report (.manifestUndecodable path.render))
  | .error (.fault f) => .error (.fault f)

/-- The records of the manifest of a release. -/
def load (d : Disk) (root : Path) (version : String) : Except (Halt Finding) (List ManifestRecord) :=
  let place := path root version
  match d.read place with
  | .ok text => ofText place text
  | .error (.undecodable stretch) => .error (.fault (.undecodable stretch))
  | .error .nulInPath => .error (.fault .nulInPath)
  | .error _ => .error (.report (.manifestUnavailable (strip version) place.render))

end Manifest

end Assay
