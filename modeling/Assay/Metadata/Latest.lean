import Assay.Finding
import Assay.Halt
import Assay.Store.Disk
import Assay.Text.Blank

/-!
# The latest release

The metadata names the latest release in a file of its own.

## Main definitions

* `latestRelease`: The text of that file, without blanks around it.
-/

namespace Assay

open Text

/-- The name of the file that names the latest release. -/
def latestFileName : String := "stable.txt"

/-- The latest release that the metadata names. -/
def latestRelease (d : Disk) (root : Path) : Except (Halt Finding) String :=
  let place := root.child latestFileName
  match d.read place with
  | .ok text =>
    if (strip text).isEmpty then .error (.report (.latestEmpty place.render)) else .ok (strip text)
  | .error (.undecodable stretch) => .error (.fault (.undecodable stretch))
  | .error .nulInPath => .error (.fault .nulInPath)
  | .error _ => .error (.report (.latestUnreadable place.render))

end Assay
