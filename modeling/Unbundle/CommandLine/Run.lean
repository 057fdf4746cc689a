import Unbundle.CommandLine.Options
import Unbundle.Environment.Definitions
import Unbundle.Settings.Layers
import Unbundle.Settings.Threshold
import Unbundle.Split
import Unbundle.Tree.Listing

/-!
# Running the command

A call reads its arguments, the definitions file and the settings, and then splits the module or
lists its tree. It ends with an exit code, or with an error that it does not handle. How the two
files are read is a parameter (`Readers`).
-/

namespace Unbundle.CommandLine

/-- How a call ended: the store after it, the operations carried out, what was printed, and the exit
code. -/
structure Ended where
  store : FileStore
  journal : List Operation := []
  output : String := ""
  errors : String := ""
  /-- The exit code, or the error that was not handled. -/
  code : Except Error Nat

/-- The exit code of a call that did what was asked. -/
def exitDone : Nat := 0

/-- The exit code of a split that callables stand in the way of. -/
def exitBlocked : Nat := 1

/-- The exit code of a call that could not be carried out. -/
def exitFatal : Nat := 2

/-- Texts on lines of their own. -/
def asLines (texts : List String) : String := String.join (texts.map (· ++ "\n"))

/-- What is printed of notices before the threshold is known. -/
def earlyLines (notices : List Notice) : String :=
  asLines ((notices.filter fun n => Level.warning.rank ≤ n.level.rank).map Notice.message)

/-- A notice as a line of the log. -/
def logLine (notice : Notice) : String := s!"[{notice.level.name}] {notice.message}"

/-- What is printed of notices. -/
def logLines (threshold : Nat) (notices : List Notice) : String :=
  asLines ((notices.filter fun n => threshold ≤ n.level.rank).map logLine)

/-- Whether settings with an error are reported as unusable. -/
def isRefusal : Error → Bool
  | .invalid _ | .undecodable _ | .settingsNotFound _ => true
  | _ => false

/-- What is told of an error that ends a split, if it is one that is expected. -/
def closingNotice? (error : Error) : Option Notice :=
  match error with
  | .input _ => some (.fatal error.message)
  | .backup _ _ _ | .backupDiffers _ _ | .write _ _ => some (.aborted error.message)
  | _ => none

/-- What is asked for explicitly. -/
def Options.given (options : Options) : List (String × Value) := [
  (Setting.dryRun.key, if options.dryRun then .bool true else .null),
  (Setting.logLevel.key, (options.logLevel.map .text).getD .null)]

/-- How the files are read that a call is configured by. -/
structure Readers where
  /-- Adds the definitions file of the working directory, if there is one, to an environment. -/
  definitions : FileStore → Environment → Attempt Environment
  settings : Settings.Reader

/-- The readers of this library. -/
def Readers.standard : Readers where
  definitions := Definitions.load
  settings := Settings.documentIn

/-- The settings of a call. -/
def Options.settings (options : Options) (reader : Settings.Reader) (s : FileStore)
    (env : Environment) : Attempt Settings :=
  Settings.loadWith reader s options.config env options.given

/-- The listing of a module's tree. -/
def listing (trees : TreeSource) (s : FileStore) (path : Path) : Attempt String := do
  let source ← .ofExcept (ModuleFile.resolve s path)
  let (text, _) ← .ofExcept (ModuleFile.read s source)
  let root ← .ofExcept (trees.parse 0 text)
  .tellAll (Callable.locateNotices (Utf8.encode text) root)
  return listModule source.name {} text root

/-- A text that is to be printed. Where a setting has no encoding, the text has none if the setting
is in it. -/
def printed (config : Config) (text : String) : Except Error String :=
  if config.halted.contains .report && text.toList.contains Utf8.replacement then
    .error .unencodable
  else .ok text

/-- Splits a module and renders the report, with the exit code. -/
def splitting (trees : TreeSource) (config : Config) (path : Path) : Work (String × Nat) := do
  let report ← split trees config path
  let text ← Work.check fun _ => report.render Report.defaultWidth >>= printed config
  return (text, if report.ok then exitDone else exitBlocked)

/-- The work that a call asks for: what it prints, and the exit code. -/
def Options.work (options : Options) (trees : TreeSource) (settings : Settings) :
    Work (String × Nat) :=
  let path := Path.ofString options.path
  if options.dumpTree then do
    let text ← Work.look fun s => listing trees s path
    return (text, exitDone)
  else splitting trees settings.toConfig path

/-- How a call ends after its work. -/
def conclude (threshold : Nat) (early : String) (worked : Worked (String × Nat)) : Ended :=
  let ended : Ended := {
    store := worked.store
    journal := worked.journal
    errors := early ++ logLines threshold worked.notices
    code := .ok exitFatal }
  match worked.result with
  | .ok (text, code) => { ended with output := text ++ "\n", code := .ok code }
  | .error error =>
    match closingNotice? error with
    | some notice => { ended with errors := ended.errors ++ logLines threshold [notice] }
    | none => { ended with code := .error error }

/-- Carries out what was asked for. -/
def carryOut (readers : Readers) (trees : TreeSource) (env : Environment) (options : Options)
    (s : FileStore) : Ended :=
  let defined := readers.definitions s env
  match defined.result with
  | .error error => { store := s, errors := earlyLines defined.notices, code := .error error }
  | .ok env =>
    let loaded := options.settings readers.settings s env
    let early := earlyLines (defined.notices ++ loaded.notices)
    match loaded.result with
    | .error error =>
      if isRefusal error then
        { store := s, errors := early ++ s!"error: {error.message}\n", code := .ok exitFatal }
      else { store := s, errors := early, code := .error error }
    | .ok settings =>
      match Threshold.ofValue (settings .logLevel) with
      | .error error => { store := s, errors := early, code := .error error }
      | .ok threshold => conclude threshold early (options.work trees settings s)

/-- Runs the command with arguments in an environment; `readers` read the files that configure
it. -/
def runWith (readers : Readers) (trees : TreeSource) (env : Environment) (arguments : List String)
    (s : FileStore) : Ended :=
  match Request.ofArguments arguments with
  | .help => { store := s, output := helpText, code := .ok exitDone }
  | .misuse mistake => { store := s, errors := mistake.report, code := .ok exitFatal }
  | .run options => carryOut readers trees env options s

/-- Runs the command with arguments in an environment. -/
def run (trees : TreeSource) (env : Environment) (arguments : List String) (s : FileStore) :
    Ended :=
  runWith .standard trees env arguments s

end Unbundle.CommandLine
