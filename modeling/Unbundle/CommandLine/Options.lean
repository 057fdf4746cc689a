import Unbundle.Text.Quoted
import Unbundle.Text.WordTable

/-!
# Command line options

The arguments of a call are sorted into options, values of options and the module. A long option may
be shortened as long as one option is meant. Two dashes on their own end the options. Help ends the
reading where it stands; a mistake before it is reported instead.
-/

namespace Unbundle.CommandLine

/-- The options there are. -/
inductive Switch
  | help
  | dryRun
  | config
  | logLevel
  | dumpTree
  deriving DecidableEq, Repr

namespace Switch

/-- All spellings of options, in order. -/
def spellings : List (String × Switch) := [
  ("-h", help), ("--help", help), ("--dry-run", dryRun), ("--config", config),
  ("--log-level", logLevel),
  ("--dump-ast", dumpTree)]

/-- Whether an option takes a value. -/
def takesValue : Switch → Bool
  | config | logLevel => true
  | help | dryRun | dumpTree => false

/-- How messages name an option: by all its spellings. -/
def shown (switch : Switch) : String :=
  "/".intercalate ((spellings.filter (·.2 == switch)).map (·.1))

end Switch

/-- What a call asks for. -/
structure Options where
  path : String
  dryRun : Bool := false
  config : Option String := none
  logLevel : Option String := none
  dumpTree : Bool := false
  deriving DecidableEq, Repr

/-- A mistake in the arguments of a call. -/
inductive Misuse
  | ambiguous (given : String) (matching : List String)
  | missingValue (switch : Switch)
  | needlessValue (switch : Switch) (value : String)
  | missingModule
  | unrecognized (given : List String)
  deriving DecidableEq, Repr

/-- The words for a mistake. -/
def Misuse.message : Misuse → String
  | .ambiguous given matching =>
    s!"ambiguous option: {given} could match " ++ ", ".intercalate matching
  | .missingValue switch => s!"argument {switch.shown}: expected one argument"
  | .needlessValue switch value =>
    s!"argument {switch.shown}: ignored explicit argument {Text.quoted value}"
  | .missingModule => "the following arguments are required: module"
  | .unrecognized given => "unrecognized arguments: " ++ " ".intercalate given

/-- What reading the arguments comes to. -/
inductive Request
  | run (options : Options)
  | help
  | misuse (mistake : Misuse)
  deriving DecidableEq, Repr

/-! ## Kinds of arguments -/

/-- An argument as it is understood on its own. -/
inductive Argument
  /-- A value or a module. -/
  | plain (text : String)
  /-- The two dashes that end the options. -/
  | dashes
  /-- An option, perhaps with a value after an equals sign. -/
  | option (switch : Switch) (value : Option String)
  /-- One-letter options run together: `-h` and what follows it, an equals sign right behind it
  apart. -/
  | cluster (rest : List Char)
  /-- Something that looks like an option but is none. -/
  | unknown (text : String)
  deriving DecidableEq, Repr

/-- The text of an argument that is a value or the end mark. -/
def Argument.written : Argument → String
  | plain text | unknown text => text
  | dashes => "--"
  | option _ _ | cluster _ => ""

/-- Whether an argument counts as an option. -/
def Argument.isOption : Argument → Bool
  | option _ _ | cluster _ | unknown _ => true
  | plain _ | dashes => false

/-- Splits an argument at its first equals sign. -/
def splitValue (cs : List Char) : String × Option String :=
  let name := cs.takeWhile (· != '=')
  match cs.drop name.length with
  | _ :: value => (String.ofList name, some (String.ofList value))
  | [] => (String.ofList name, none)

/-- Whether an argument is a negative number. -/
def isNegativeNumber : List Char → Bool
  | '-' :: digits =>
    let body := if digits.getLast? == some '\n' then digits.dropLast else digits
    let whole := body.takeWhile Text.isDecimalDigit
    match body.drop whole.length with
    | [] => !whole.isEmpty
    | '.' :: fraction => !fraction.isEmpty && fraction.all Text.isDecimalDigit
    | _ => false
  | _ => false

/-- What an argument is that spells no option in full. -/
def classifyOther (text : String) : Argument :=
  if isNegativeNumber text.toList || text.toList.contains ' ' then .plain text else .unknown text

/-- What an argument is that stands before the end mark. -/
def classify (text : String) : Except Misuse Argument :=
  match text.toList with
  | '-' :: second :: rest =>
    match Switch.spellings.lookup text with
    | some switch => .ok (.option switch none)
    | none =>
      let (name, value) := splitValue text.toList
      match value, Switch.spellings.lookup name with
      | some value, some switch =>
        .ok (if second == '-' then .option switch (some value) else .cluster value.toList)
      | _, _ =>
        if second == '-' then
          match Switch.spellings.filter (·.1.startsWith name) with
          | [] => .ok (classifyOther text)
          | [(_, switch)] => .ok (.option switch value)
          | several => .error (.ambiguous text (several.map (·.1)))
        else if second == 'h' then .ok (.cluster rest)
        else .ok (classifyOther text)
  | _ => .ok (.plain text)

/-- What the arguments of a call are, one by one. -/
def classifyAll : List String → Except Misuse (List Argument)
  | [] => .ok []
  | text :: rest =>
    if text == "--" then .ok (.dashes :: rest.map .plain)
    else do
      let first ← classify text
      return first :: (← classifyAll rest)

/-! ## Reading -/

/-- What the letters after `-h` come to: help if all of them ask for help again, and otherwise a
value that help does not take, from the first other letter on. -/
def clusterRequest : List Char → Request
  | ['h'] => .help
  | 'h' :: rest => clusterRequest rest
  | rest => .misuse (.needlessValue .help (String.ofList rest))

/-- What was read so far. -/
structure Gathered where
  path : Option String := none
  dryRun : Bool := false
  config : Option String := none
  logLevel : Option String := none
  dumpTree : Bool := false
  extras : List String := []

/-- The value that an option is given after an equals sign; the end mark there is no value. -/
def givenValue (value : String) : String := if value == "--" then "" else value

/-- Takes note of an option. -/
def Gathered.note (g : Gathered) (switch : Switch) (value : String) : Gathered :=
  match switch with
  | .help => g
  | .dryRun => { g with dryRun := true }
  | .config => { g with config := some value }
  | .logLevel => { g with logLevel := some value }
  | .dumpTree => { g with dumpTree := true }

/-- What is asked for in the end. -/
def Gathered.finish (g : Gathered) : Request :=
  match g.path with
  | none => .misuse .missingModule
  | some path =>
    if g.extras.isEmpty then
      .run {
        path, dryRun := g.dryRun, config := g.config, logLevel := g.logLevel,
        dumpTree := g.dumpTree }
    else .misuse (.unrecognized g.extras)

/-- Arguments that are left over. -/
def Gathered.leave (g : Gathered) (arguments : List Argument) : Gathered :=
  { g with extras := g.extras ++ arguments.map Argument.written }

/-- Reads what stands after the last option: the module, if it is still missing, and an end mark on
either side of it. -/
def readTail (g : Gathered) (arguments : List Argument) : Request :=
  match g.path, arguments with
  | none, .plain path :: .dashes :: rest
  | none, .dashes :: .plain path :: rest
  | none, .plain path :: rest =>
    ({ g with path := some path }.leave rest).finish
  | _, rest => (g.leave rest).finish

/-- Reads arguments from the front. -/
def readArguments (g : Gathered) : List Argument → Request
  | .option switch (some value) :: rest =>
    if switch.takesValue then readArguments (g.note switch (givenValue value)) rest
    else .misuse (.needlessValue switch value)
  | .option switch none :: rest =>
    if switch == .help then .help
    else if switch.takesValue then
      match rest with
      | .plain value :: rest => readArguments (g.note switch value) rest
      | _ => .misuse (.missingValue switch)
    else readArguments (g.note switch "") rest
  | .cluster letters :: _ => clusterRequest letters
  | .unknown text :: rest => readArguments (g.leave [.unknown text]) rest
  | argument :: rest =>
    if rest.any Argument.isOption then
      match g.path, argument with
      | none, .plain path => readArguments { g with path := some path } rest
      | _, _ => readArguments (g.leave [argument]) rest
    else readTail g (argument :: rest)
  | [] => readTail g []

/-- What the arguments of a call ask for. -/
def Request.ofArguments (arguments : List String) : Request :=
  match classifyAll arguments with
  | .ok classified => readArguments {} classified
  | .error mistake => .misuse mistake

/-! ## Usage -/

/-- How a call is written. -/
def usage : String := "usage: module-splitter [-h] [--dry-run] [--config CONFIG]
                       [--log-level LOG_LEVEL] [--dump-ast]
                       module
"

/-- The help text. -/
def helpText : String := usage ++ "
Move every top-level function of a PowerShell script module into
Public/<name>.ps1 and replace them with a generated loader.

positional arguments:
  module                Path to the .psm1 file

options:
  -h, --help            show this help message and exit
  --dry-run             Report what would be written, removed and backed up
                        without touching any file.
  --config CONFIG       Optional YAML configuration file (section 'splitter').
  --log-level LOG_LEVEL
                        Logging level, e.g. DEBUG, INFO, WARNING.
  --dump-ast            Print the parsed tree of the module and exit.
"

/-- What is printed for a mistake. -/
def Misuse.report (mistake : Misuse) : String :=
  usage ++ s!"module-splitter: error: {mistake.message}\n"

end Unbundle.CommandLine
