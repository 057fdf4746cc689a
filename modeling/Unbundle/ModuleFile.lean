import Unbundle.Text.Lowercase
import Unbundle.Work

/-!
# Module files

Finding, reading and writing the files of a module. Text is kept as it is, line endings included; a
byte order mark is split off when reading and put back when writing.
-/

namespace Unbundle.ModuleFile

/-- The suffix of script modules, in lower case. -/
def moduleSuffix : String := ".psm1"

/-- The absolute path of the module file that `path` names; links are followed. -/
def resolve (s : FileStore) (path : Path) : Except Error Path :=
  match s.probe path with
  | .error fault => .error (.file fault)
  | .ok none => .error (.input (.notFound path))
  | .ok (some (.file _)) =>
    if Text.lower path.suffix != moduleSuffix then .error (.input (.unsupportedSuffix path.suffix))
    else
      match s.stat path.toString with
      | .ok (location, _) => .ok ⟨.slash, location⟩
      | .error cause => .error (.file ⟨cause, path.toString⟩)
  | .ok (some _) => .error (.input (.notAFile path))

/-- The content of the file that a path names. -/
def readBytes (s : FileStore) (purpose : Purpose) (path : Path) (wrap : Fault → Error) :
    Except Error Bytes :=
  if !FileStore.acceptable path.toString then .error (.invalid .embeddedNul)
  else (s.fetch purpose path.toString).mapError fun cause => wrap ⟨cause, path.toString⟩

/-- The text of a module file and whether a byte order mark stands before it. -/
def read (s : FileStore) (path : Path) : Except Error (String × Bool) :=
  match readBytes s .use path fun fault => .input (.unreadable path fault) with
  | .error e => .error e
  | .ok bytes => (Utf8.decodeFile bytes).mapError fun flaw => .input (.notText path flaw)

/-- Looks for a directory at a path at which none could be made. -/
def lookFor (wrap : Fault → Error) (path : Path) (fault : Fault) : Work Unit := do
  match ← Work.check fun s => (s.probe path).mapError wrap with
  | some .directory => return
  | _ => Work.fail (wrap fault)

/-- Makes a directory at a path unless there is one, without its parents. -/
def makeOne (wrap : Fault → Error) (path : Path) : Work Unit := do
  match ← Work.attempt (.makeDirectory path.toString) with
  | none => return
  | some fault =>
    if fault.kind = .notFound then Work.fail (wrap fault) else lookFor wrap path fault

/-- Makes the directory with the given names, last first, unless there is one. If the one above it
is missing, that is made first; this is done for at most `levels` directories, one above the
other. -/
def makeUpTo (wrap : Fault → Error) (root : PathRoot) : (levels : Nat) → List String → Work Unit
  | _, [] => makeOne wrap ⟨root, []⟩
  | levels, name :: above => do
    let path : Path := ⟨root, (name :: above).reverse⟩
    match ← Work.attempt (.makeDirectory path.toString) with
    | none => return
    | some fault =>
      if fault.kind = .notFound then
        match levels with
        | 0 => Work.fail .tooDeep
        | levels + 1 =>
          makeUpTo wrap root levels above
          makeOne wrap path
      else lookFor wrap path fault

/-- Makes the directory with the given names, last first, unless there is one, and its parents if
need be. -/
def makeAll (wrap : Fault → Error) (root : PathRoot) (names : List String) : Work Unit := do
  let levels ← Work.check fun s => .ok s.conditions.maxMissing
  makeUpTo wrap root levels names

/-- Makes the directories above a file. -/
def makeParents (path : Path) : Work Unit :=
  makeAll (.write path) path.root path.parent.parts.reverse

/-- Creates a file with a text, and the directories above it; nothing may stand at its place. -/
def writeNew (path : Path) (text : String) (bom : Bool) : Work Unit := do
  makeParents path
  Work.perform (.write path) (.create path.toString (Utf8.encodeFile text bom))

/-- Gives a file a new text. -/
def write (path : Path) (text : String) (bom : Bool) : Work Unit :=
  Work.perform (.write path) (.overwrite path.toString (Utf8.encodeFile text bom))

end Unbundle.ModuleFile
