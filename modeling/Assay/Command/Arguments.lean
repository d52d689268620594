import Assay.Number.Integer
import Assay.Text.Search

/-!
# Command-line arguments

A command takes options with one value each, written after the option or attached to it with an
equals sign. An option's name may be cut short where that leaves no doubt. All arguments are sorted
into options and values before any of them takes effect; then they take effect in order, so that a
request for help counts unless something before it is wrong.

## Main definitions

* `Argument`, `classify`: What an argument is.
* `Grammar`: The options of a command.
* `Grammar.read`: The values given to the options.
* `Usage`: How reading ends where there is nothing to run.
-/

namespace Assay.Command

open Text

/-- How reading arguments ends where there is nothing to run. -/
inductive Usage
  /-- Help was asked for. -/
  | help
  /-- The arguments cannot be read. -/
  | misused
  deriving DecidableEq, Repr

/-- The exit code that tells how reading ended. -/
def Usage.exitCode : Usage → Nat
  | help => 0
  | misused => 2

/-- What an argument is. -/
inductive Argument
  | value (text : String)
  | option (name : String) (attached : Option String)
  | unknown
  /-- Behind the divider all arguments are values. -/
  | divider
  deriving DecidableEq, Repr

/-- An option of a command. -/
structure OptionRule where
  name : String
  /-- Whether its value is an integer. -/
  isInteger : Bool

/-- The options of a command; of two rivals only one may be given. -/
structure Grammar where
  options : List OptionRule
  rivals : List (String × String)

/-- The names by which help is asked for. -/
def helpNames : List String := ["-h", "--help"]

/-- An argument cut at its first equals sign. -/
def cut (arg : String) : String × Option String :=
  match partitionChars '=' arg.toList with
  | some (name, value) => (String.ofList name, some (String.ofList value))
  | none => (arg, none)

/-- The options that an argument may mean which does not write out the name of any. -/
def candidates (names : List String) (arg : String) : List Argument :=
  match arg.toList with
  | '-' :: '-' :: _ =>
    let (start, attached) := cut arg
    (names.filter (beginsWith start)).map fun name => .option name attached
  | '-' :: c :: rest =>
    (names.filter (· == String.ofList ['-', c])).map fun name =>
      .option name (some (String.ofList rest))
  | _ => []

/-- Whether characters are digits, a line break at the end aside. -/
def areDigits (cs : List Char) : Bool :=
  let digits := if cs.getLast? = some '\n' then cs.dropLast else cs
  !digits.isEmpty && digits.all isDigit

/-- Whether an argument that begins with a dash is a negative number. -/
def isNegativeNumber (arg : String) : Bool :=
  match arg.toList with
  | '-' :: cs =>
    areDigits cs ||
      match partitionChars '.' cs with
      | some (before, after) => before.all isDigit && areDigits after
      | none => false
  | _ => false

/-- What an argument is, given the names of the options; a name cut too short is misused. -/
def classify (names : List String) (arg : String) : Except Usage Argument :=
  if !beginsWith "-" arg then .ok (.value arg)
  else if names.contains arg then .ok (.option arg none)
  else if arg = "-" then .ok (.value arg)
  else
    let (name, attached) := cut arg
    if attached.isSome && names.contains name then .ok (.option name attached)
    else match candidates names arg with
      | [one] => .ok one
      | _ :: _ => .error .misused
      | [] =>
        if isNegativeNumber arg || arg.toList.contains ' ' then .ok (.value arg) else .ok .unknown

/-- What some arguments are. -/
def classifyAll (names : List String) : List String → Except Usage (List Argument)
  | [] => .ok []
  | arg :: rest =>
    if arg = "--" then .ok (.divider :: rest.map .value)
    else do
      let first ← classify names arg
      let others ← classifyAll names rest
      return first :: others

/-- How reading ends at a request for help; `-h` may be written several times over, and nothing else
    may be attached. -/
def askHelp (name : String) (attached : Option String) : Usage :=
  match attached with
  | none => .help
  | some text =>
    if name = "-h" && !text.isEmpty && text.toList.all (· == 'h') then .help else .misused

/-- The values given to options, in order. -/
abbrev Given := List (String × String)

namespace Grammar

/-- The names of the options of a command. -/
def names (g : Grammar) : List String :=
  helpNames ++ g.options.map OptionRule.name

/-- The rivals of an option. -/
def rivalsOf (g : Grammar) (name : String) : List String :=
  g.rivals.filterMap fun (a, b) => if a = name then some b else if b = name then some a else none

/-- The values with one more, where the option takes it. -/
def give (g : Grammar) (given : Given) (name text : String) : Except Usage Given :=
  let value := if text = "--" then "" else text
  let mustBeInteger := g.options.any fun o => o.name = name && o.isInteger
  if mustBeInteger && (Number.readInteger 10 value.toList).isNone then .error .misused
  else if (g.rivalsOf name).any fun rival => given.any fun e => e.1 == rival then .error .misused
  else .ok (given ++ [(name, value)])

/-- The values given to the options, and whether there was anything besides. -/
def collect (g : Grammar) : List Argument → Given → Bool → Except Usage (Given × Bool)
  | [], given, stray => .ok (given, stray)
  | .option name (some text) :: rest, given, stray =>
    if helpNames.contains name then .error (askHelp name (some text))
    else match g.give given name text with
      | .ok given => g.collect rest given stray
      | .error u => .error u
  | .option name none :: .value text :: rest, given, stray =>
    if helpNames.contains name then .error .help
    else match g.give given name text with
      | .ok given => g.collect rest given stray
      | .error u => .error u
  | .option name none :: _, _, _ =>
    .error (if helpNames.contains name then .help else .misused)
  | _ :: rest, given, _ => g.collect rest given true

/-- The values given to the options of a command by its arguments, and whether there was anything
    besides. -/
def read (g : Grammar) (args : List String) : Except Usage (Given × Bool) := do
  g.collect (← classifyAll g.names args) [] false

end Grammar

namespace Given

/-- The last value given to an option. -/
def last? (given : Given) (name : String) : Option String :=
  (given.reverse.lookup name)

/-- All values given to an option. -/
def all (given : Given) (name : String) : List String :=
  (given.filter fun e => e.1 == name).map Prod.snd

/-- The last value given to an option, unless it is empty. -/
def filled? (given : Given) (name : String) : Option String :=
  (given.last? name).filter fun text => !text.isEmpty

/-- The last value given to an option as an integer. -/
def integer? (given : Given) (name : String) : Option Int :=
  (given.last? name).bind fun text => Number.readInteger 10 text.toList

end Given

/-- The name of a command and its own arguments, past what stands before the name, and whether
    anything did that is not an option. -/
def takeCommand : List String → Except Usage (String × List String × Bool)
  | [] => .error .misused
  | arg :: rest =>
    if arg = "--" then .error .misused
    else match classify helpNames arg with
      | .error u => .error u
      | .ok (.option name attached) => .error (askHelp name attached)
      | .ok (.value text) => .ok (text, rest, false)
      | .ok _ =>
        match takeCommand rest with
        | .ok (name, args, _) => .ok (name, args, true)
        | .error u => .error u

end Assay.Command
