import Assay.Command.Arguments
import Assay.Settings

/-!
# Requests

The three commands: `verify` reviews one submission, `sweep` every submission document in a
directory, and `required-tests` lists the tests that a release requires.

## Main definitions

* `Request`: What a command line asks for.
* `Request.ofArguments`: The request that arguments make.
-/

namespace Assay.Command

/-- The settings that a command line gives. -/
structure SettingArguments where
  metadata : Option String
  latest : Option String
  lookback : Option Int
  rules : List String

/-- A request for the review of one submission, from a document or from a bundle. -/
structure VerifyRequest where
  document : Option String
  bundle : Option String
  title : Option String
  number : Int
  labels : List String
  settings : SettingArguments
  directory : String
  dataFile : Option String
  reportFile : Option String

/-- A request for the reviews of all submission documents in a directory. -/
structure SweepRequest where
  directory : String
  settings : SettingArguments
  output : String

/-- What a command line asks for. -/
inductive Request
  | verify (r : VerifyRequest)
  | sweep (r : SweepRequest)
  | requiredTests (version : String) (metadata : Option String)

namespace Request

/-- The options by which settings are given. -/
def settingRules : List OptionRule :=
  [⟨"--metadata-root", false⟩, ⟨"--latest", false⟩, ⟨"--lookback", true⟩, ⟨"--rules", false⟩]

/-- The options of `verify`. -/
def verifyGrammar : Grammar :=
  ⟨[⟨"--submission", false⟩, ⟨"--bundle-dir", false⟩, ⟨"--title", false⟩, ⟨"--number", true⟩,
      ⟨"--label", false⟩] ++ settingRules ++
      [⟨"--out-dir", false⟩, ⟨"--out-json", false⟩, ⟨"--out-md", false⟩],
    [("--submission", "--bundle-dir")]⟩

/-- The options of `sweep`. -/
def sweepGrammar : Grammar :=
  ⟨⟨"--submissions", false⟩ :: settingRules ++ [⟨"--out-jsonl", false⟩], []⟩

/-- The options of `required-tests`. -/
def requiredTestsGrammar : Grammar :=
  ⟨[⟨"--version", false⟩, ⟨"--metadata-root", false⟩], []⟩

/-- The settings among given values. -/
def settingArguments (given : Given) : SettingArguments :=
  ⟨given.filled? "--metadata-root", given.last? "--latest", given.integer? "--lookback",
    given.all "--rules"⟩

/-- The request for a review; its submission has to come from somewhere. -/
def readVerify (given : Given) : Except Usage Request :=
  let document := given.last? "--submission"
  let bundle := given.last? "--bundle-dir"
  if document.isNone && bundle.isNone then .error .misused
  else .ok (.verify {
    document := given.filled? "--submission"
    bundle
    title := given.filled? "--title"
    number := (given.integer? "--number").getD 0
    labels := given.all "--label"
    settings := settingArguments given
    directory := (given.last? "--out-dir").getD "out/conformance"
    dataFile := given.filled? "--out-json"
    reportFile := given.filled? "--out-md" })

/-- The request for a sweep; its directory has to be given. -/
def readSweep (given : Given) : Except Usage Request :=
  match given.last? "--submissions" with
  | none => .error .misused
  | some directory =>
    .ok (.sweep ⟨directory, settingArguments given,
      (given.last? "--out-jsonl").getD "out/conformance/verdicts.jsonl"⟩)

/-- The request for a list of required tests; its version has to be given. -/
def readRequiredTests (given : Given) : Except Usage Request :=
  match given.last? "--version" with
  | none => .error .misused
  | some version => .ok (.requiredTests version (given.filled? "--metadata-root"))

/-- The grammar of a command, and how its values make a request. -/
def command? : String → Option (Grammar × (Given → Except Usage Request))
  | "verify" => some (verifyGrammar, readVerify)
  | "sweep" => some (sweepGrammar, readSweep)
  | "required-tests" => some (requiredTestsGrammar, readRequiredTests)
  | _ => none

/-- The request that arguments make. -/
def ofArguments (args : List String) : Except Usage Request := do
  let (name, own, strayBefore) ← takeCommand args
  match command? name with
  | none => throw .misused
  | some (grammar, make) =>
    let (given, stray) ← grammar.read own
    let request ← make given
    if stray || strayBefore then throw .misused
    return request

end Request

/-- The settings of a request, where the environment says where the metadata is kept unless the
    request does. -/
def SettingArguments.settings (a : SettingArguments) (environment : Option String) : Settings where
  metadata := ((a.metadata.map Path.ofText).getD (Settings.metadataFrom environment))
  latestGiven := a.latest
  lookback := a.lookback.getD Version.defaultLookback
  rules := if a.rules.isEmpty then .packaged else .files (a.rules.map Path.ofText)

end Assay.Command
