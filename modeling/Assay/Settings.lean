import Assay.Metadata.Latest
import Assay.Rule.Packaged
import Assay.Version

/-!
# Settings

What holds for every review of a run: where the metadata is kept, which release is the latest, how
many minor releases behind it are supported, and which rules apply.

## Main definitions

* `RuleSource`: Where rules come from.
* `Settings`: The settings, with those of a run without any arguments in `Settings.standard`.
* `Settings.latest`: The latest release under some settings.
* `RuleSource.load`: The scenarios of the rules.
-/

namespace Assay

open Text

/-- Where rules come from. -/
inductive RuleSource
  | packaged
  | files (paths : List Path)

/-- The settings of a run. -/
structure Settings where
  metadata : Path
  latestGiven : Option String
  lookback : Int
  rules : RuleSource

namespace Settings

/-- Where the metadata is kept unless the environment or an argument says otherwise. -/
def standardMetadata : Path := ⟨0, ["kodata", "conformance-testdata"]⟩

/-- Where the metadata is kept, given what the environment says. -/
def metadataFrom (environment : Option String) : Path :=
  match environment with
  | some text => if text.isEmpty then standardMetadata else Path.ofText text
  | none => standardMetadata

/-- The settings of a run without any arguments. -/
def standard (environment : Option String) : Settings :=
  ⟨metadataFrom environment, none, Version.defaultLookback, .packaged⟩

/-- The text of the latest release: the one given, unless it is blank, or else the one that the
    metadata names. -/
def latestText (s : Settings) (d : Disk) : Except (Halt Finding) String :=
  let given := strip (s.latestGiven.getD "")
  if given.isEmpty then latestRelease d s.metadata else .ok given

/-- The latest release, which has to be readable as a version. -/
def latest (s : Settings) (d : Disk) : Except (Halt Finding) String := do
  let text ← s.latestText d
  let _ ← reporting (Version.parse text)
  return text

end Settings

/-- The scenarios of the rules. -/
def RuleSource.load (source : RuleSource) (d : Disk) : Except (Halt ScriptProblem) (List Scenario) :=
  match source with
  | .packaged => Packaged.scenarios
  | .files [] => .error (.report .noScripts)
  | .files paths => do return (← paths.mapM (Script.load d)).flatten

end Assay
