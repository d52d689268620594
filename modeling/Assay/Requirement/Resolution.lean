import Assay.Metadata.Manifest
import Assay.Requirement.Set
import Assay.Version

/-!
# What a release requires

A test is required of a target release when one of the releases that its record lists is the
target or lies before it. The list is scanned in the order given, up to the first such release, so
a version that cannot be read does no harm behind it.

## Main definitions

* `Requirement.isIncluded`: Whether a target lies at or after one of the listed releases.
* `Requirement.ofRecords`: The requirements that the records of a manifest make.
* `Requirement.resolve`: The requirements that the metadata makes of a target.
-/

namespace Assay.Requirement

/-- Whether a target lies at or after one of the listed releases. -/
def isIncluded (target : Version) : List String → Except Finding Bool
  | [] => .ok false
  | release :: rest => do
    let v ← Version.parse release
    if target.lt v then isIncluded target rest else return true

/-- The requirements that records make of a target, added to those made so far. -/
def addRecords (target : Version) : List ManifestRecord → RequirementSet → Except Finding RequirementSet
  | [], required => .ok required
  | r :: rest, required => do
    if ← isIncluded target r.releases then addRecords target rest (required.require r.codename)
    else addRecords target rest required

/-- The requirements that records make of a target. -/
def ofRecords (target : Version) (records : List ManifestRecord) : Except Finding RequirementSet :=
  addRecords target records .empty

/-- The requirements that the metadata makes of a target. -/
def resolve (d : Disk) (root : Path) (target : String) : Except (Halt Finding) RequirementSet := do
  let version ← reporting (Version.parse target)
  let records ← Manifest.load d root target
  reporting (ofRecords version records)

end Assay.Requirement
