import Assay.Rule.Check
import Assay.Schema.Order
import Assay.Store.Disk
import Assay.Yaml.Reading

/-!
# Rule scripts

A rule script is a document of scenario templates. A template with examples stands for one scenario
for each of them, with the placeholders in its texts replaced by what the example says; a template
without examples is a scenario as it stands. A scenario is compiled by binding each of its texts to
the check that it asks for. A script compiles as a whole or not at all.

## Main definitions

* `Scenario`: A compiled scenario.
* `Template`, `Template.expand`: A scenario as a script writes it, and what it stands for.
* `Script.ofValue`, `Script.load`: The scenarios of a document, and of a script file.
* `ScriptProblem`: Why a script does not compile, with its wording.
-/

namespace Assay

open Text

/-- A step of a scenario: its text and what it asks for. -/
structure Step where
  text : String
  check : Check
  deriving DecidableEq

/-- A compiled scenario. -/
structure Scenario where
  name : String
  description : String
  steps : List Step
  deriving DecidableEq

/-- Why a script does not compile. -/
inductive ScriptProblem
  | noScripts
  | unreadable (path : Path) (problem : ReadProblem)
  | malformed (path : Path)
  | misshapen (source : String) (violations : List String)
  | unknownColumn (text column : String)
  | unbound (source scenario : String) (problem : BindProblem)

/-- The wording of a problem. -/
def ScriptProblem.message : ScriptProblem → String
  | noScripts => "no rule scripts configured"
  | unreadable path problem =>
    path.render ++ ": unable to read rule script: " ++ problem.message path
  | malformed path => path.render ++ ": unable to read rule script: " ++ Format.yaml.account
  | misshapen source violations =>
    source ++ ": rule script validation failed:" ++
      String.join (violations.map fun v => "\n- " ++ v)
  | unknownColumn text column =>
    "step '" ++ text ++ "' references unknown example column '" ++ column ++ "'"
  | unbound source scenario problem =>
    source ++ ": scenario '" ++ scenario ++ "': " ++ problem.message

/-- What an example says, by column. -/
abbrev Example := List (String × String)

/-- A scenario as a script writes it. -/
structure Template where
  name : String
  description : String
  steps : List String
  examples : List Example

/-- The texts of a scenario. -/
structure Wording where
  name : String
  description : String
  steps : List String

namespace Template

/-- Whether a character may stand in a placeholder. -/
def isColumnChar (c : Char) : Bool :=
  isAsciiLetter c || isAsciiDigit c || c == '_'

/-- The placeholder at the head of the characters, a column's name between `<` and `>`, and what
    follows it. -/
def takePlaceholder (cs : List Char) : Option (List Char × List Char) :=
  match cs with
  | '<' :: r =>
    let column := r.takeWhile isColumnChar
    match r.dropWhile isColumnChar with
    | '>' :: after => if column.isEmpty then none else some (column, after)
    | _ => none
  | _ => none

/-- The characters with every placeholder replaced; `skip` characters of a placeholder that was just
    replaced are still to be passed over. The column that an example does not have is reported. -/
def fillFrom (row : Example) : Nat → List Char → Except String (List Char)
  | _, [] => .ok []
  | skip + 1, _ :: cs => fillFrom row skip cs
  | 0, c :: cs =>
    match takePlaceholder (c :: cs) with
    | some (column, _) =>
      match row.lookup (String.ofList column) with
      | some text => (fillFrom row (column.length + 1) cs).map (text.toList ++ ·)
      | none => .error (String.ofList column)
    | none => (fillFrom row 0 cs).map (c :: ·)

/-- A text with its placeholders replaced by what an example says. -/
def fill (row : Example) (text : String) : Except ScriptProblem String :=
  match fillFrom row 0 text.toList with
  | .ok cs => .ok (String.ofList cs)
  | .error column => .error (.unknownColumn text column)

/-- The texts that a template has for one example. -/
def fillAll (t : Template) (row : Example) : Except ScriptProblem Wording := do
  return ⟨← fill row t.name, ← fill row t.description, ← t.steps.mapM (fill row)⟩

/-- The texts of the scenarios that a template stands for. -/
def expand (t : Template) : Except ScriptProblem (List Wording) :=
  if t.examples.isEmpty then .ok [⟨t.name, t.description, t.steps⟩] else t.examples.mapM t.fillAll

end Template

namespace Script

/-- The shape of a rule script. -/
def schema : Schema :=
  .record true ["scenarios"]
    [("name", .text false), ("description", .text false),
      ("scenarios", .list true
        (.record true ["name", "description", "steps"]
          [("name", .text true), ("description", .text true), ("steps", .list true (.text true)),
            ("examples", .list true (.table true (.text false)))]))]

/-- The text in a field, empty where there is none. -/
def textIn (v : Value) (name : String) : String :=
  match v.field? name with
  | some (.text s) => s
  | _ => ""

/-- The items of a list in a field. -/
def itemsIn (v : Value) (name : String) : List Value :=
  match v.field? name with
  | some (.list items) => items
  | _ => []

/-- The texts among some values. -/
def textsAmong (vs : List Value) : List String :=
  vs.filterMap fun v =>
    match v with
    | .text s => some s
    | _ => none

/-- What an example says under its text keys. -/
def readExample : Value → Example
  | .map entries => entries.filterMap fun e =>
    match e with
    | (.text column, .text text) => some (column, text)
    | _ => none
  | _ => []

/-- The template that a mapping of the right shape holds. -/
def readTemplate (v : Value) : Template :=
  ⟨textIn v "name", textIn v "description", textsAmong (itemsIn v "steps"),
    (itemsIn v "examples").map readExample⟩

/-- The templates of a script of the right shape. -/
def readTemplates (v : Value) : List Template :=
  (itemsIn v "scenarios").map readTemplate

/-- The step that a text asks for. -/
def bindStep (text : String) : Except (Halt BindProblem) Step :=
  (Check.ofText text).map fun check => ⟨text, check⟩

/-- The scenario with some texts. -/
def bindScenario (source : String) (w : Wording) : Except (Halt ScriptProblem) Scenario := do
  let steps ← reportingAs (ScriptProblem.unbound source w.name) (w.steps.mapM bindStep)
  return ⟨w.name, w.description, steps⟩

/-- The scenarios that a template stands for. -/
def compileTemplate (source : String) (t : Template) : Except (Halt ScriptProblem) (List Scenario) :=
  match t.expand with
  | .ok wordings => wordings.mapM (bindScenario source)
  | .error p => .error (.report p)

/-- The scenarios that templates stand for, in order. -/
def compile (source : String) (templates : List Template) : Except (Halt ScriptProblem) (List Scenario) := do
  return (← templates.mapM (compileTemplate source)).flatten

/-- The scenarios of a script document. -/
def ofValue (source : String) (v : Value) : Except (Halt ScriptProblem) (List Scenario) :=
  match schema.report v with
  | .ok [] => compile source (readTemplates v)
  | .ok violations => .error (.report (.misshapen source violations))
  | .error f => .error (.fault f)

/-- The scenarios of the script file at a path. -/
def load (d : Disk) (path : Path) : Except (Halt ScriptProblem) (List Scenario) :=
  match d.read path with
  | .error (.undecodable stretch) => .error (.fault (.undecodable stretch))
  | .error .nulInPath => .error (.fault .nulInPath)
  | .error problem => .error (.report (.unreadable path problem))
  | .ok text =>
    match Yaml.read text with
    | .ok v => ofValue path.render v
    | .error .malformed => .error (.report (.malformed path))
    | .error (.fault f) => .error (.fault f)

end Script

end Assay
