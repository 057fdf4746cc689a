import Unbundle.Path
import Unbundle.Text.Quoted

/-!
# Notices

What a run tells about itself while it works, with one wording and one level for each kind of
notice.
-/

namespace Unbundle

/-- How important a notice is. -/
inductive Level
  | debug
  | info
  | warning
  | error
  deriving DecidableEq, Repr

/-- The name of a level. -/
def Level.name : Level → String
  | .debug => "DEBUG"
  | .info => "INFO"
  | .warning => "WARNING"
  | .error => "ERROR"

/-- The rank of a level; a threshold lets through what ranks at least as high. -/
def Level.rank : Level → Nat
  | .debug => 10
  | .info => 20
  | .warning => 30
  | .error => 40

/-- The things a run tells. Modules are named by their file name. -/
inductive Notice
  | unnamedCallable (line : Nat)
  | located (names : List String)
  | problemInsideCallable (words : String)
  | problem (file : String) (words : String)
  | nothingToDo (file : String)
  | unusableName (callable : String)
  | duplicateName (callable file : String)
  | targetExists (target : Path) (callable : String)
  | planned (callable : String) (target : Path)
  | blocked (skips total : Nat) (file : String)
  | replacingLoader
  | exportLeft (line : Nat)
  | wouldWrite (target : Path) (size : Nat)
  | wouldRemove (keyword callable : String) (startLine endLine : Int)
  | wouldBackUp (file : String) (target : Path)
  | replacingBackup (target : Path)
  | backedUp (file : String) (target : Path)
  | extracted (callable : String) (target : Path)
  | moduleReplaced (file : String) (count : Nat)
  | unknownBoolean (raw : String) (kept : Bool)
  | unreadableVariable (line : Nat)
  | fatal (message : String)
  | aborted (message : String)
  deriving DecidableEq, Repr

/-- The level of a notice. -/
def Notice.level : Notice → Level
  | .located _ | .problemInsideCallable _ | .planned _ _ => .debug
  | .nothingToDo _ | .replacingLoader | .wouldWrite _ _ | .wouldRemove _ _ _ _ | .wouldBackUp _ _
  | .backedUp _ _ | .extracted _ _ | .moduleReplaced _ _ => .info
  | .unnamedCallable _ | .problem _ _ | .unusableName _ | .duplicateName _ _ | .targetExists _ _
  | .blocked _ _ _ | .exportLeft _ | .replacingBackup _ | .unknownBoolean _ _
  | .unreadableVariable _ => .warning
  | .fatal _ | .aborted _ => .error

/-- What is told about a directive that stays in the module. -/
def exportLeftMessage (line : Nat) : String :=
  s!"Export-ModuleMember left in module code (line {line} of the rewritten module); " ++
    "it is not merged with the generated export list"

/-- The words of a notice. -/
def Notice.message : Notice → String
  | .unnamedCallable line => s!"Skipping callable without a name at line {line}"
  | .located names => s!"Located {names.length} top-level callables: {Text.quotedList names}"
  | .problemInsideCallable words =>
    s!"Ignoring parse problem inside an extracted callable: {words}"
  | .problem file words =>
    s!"Parse problem in {file} at {words}; callables in that region may be missed"
  | .nothingToDo file => s!"No top-level callables in {file}; nothing to do"
  | .unusableName callable => s!"Cannot derive a file name from callable '{callable}'"
  | .duplicateName callable file =>
    s!"Callable '{callable}' is defined more than once; {file} already claimed"
  | .targetExists target callable =>
    s!"Target {target.toString} already exists; skipping '{callable}'"
  | .planned callable target => s!"Planned {callable} -> {target.toString}"
  | .blocked skips total file =>
    s!"{skips} of {total} callables cannot be extracted; {file} is left unchanged " ++
      "and nothing was written"
  | .replacingLoader => "Replacing previously generated loader block"
  | .exportLeft line => exportLeftMessage line
  | .wouldWrite target size => s!"[dry-run] would write {target.toString} ({size} bytes)"
  | .wouldRemove keyword callable startLine endLine =>
    s!"[dry-run] would remove {keyword} '{callable}' (lines {startLine}-{endLine})"
  | .wouldBackUp file target => s!"[dry-run] would back up {file} to {target.toString}"
  | .replacingBackup target => s!"Replacing existing backup {target.toString}"
  | .backedUp file target => s!"Backed up {file} -> {target.toString}"
  | .extracted callable target => s!"Extracted {callable} -> {target.toString}"
  | .moduleReplaced file count => s!"Rewrote {file}: {count} callables extracted"
  | .unknownBoolean raw kept => s!"Unrecognised boolean value {raw}; keeping {Text.boolWord kept}"
  | .unreadableVariable line => s!"python-dotenv could not parse statement starting at line {line}"
  | .fatal message => message
  | .aborted message => s!"Aborted: {message}"

end Unbundle
