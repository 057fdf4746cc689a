import Unbundle.CommandLine.Run
import Unbundle.Script

/-!
# The command

The outer layer: it copies the part of the disk that a call can look at into a store, runs the
command on that store, and then carries out the operations in the journal on the disk. Modules are
read by the script reader.
-/

namespace Unbundle.Disk

/-- The path of a location. -/
def pathOf (location : Location) : String := "/" ++ "/".intercalate location

/-- What stands at a location of the disk. A link leads to the place that it finally names, or to
itself if there is no such place. -/
def entryAt (location : Location) : IO (Option Entry) := do
  let path := pathOf location
  try
    match (← (System.mkFilePath [path]).symlinkMetadata).type with
    | .dir => return some .directory
    | .symlink =>
      try return some (.link (← IO.FS.realPath path).toString)
      catch _ => return some (.link path)
    | _ => return some (.file (← IO.FS.readBinFile path).toList)
  catch _ => return none

/-- Adds what stands on the way that names take from a directory; `links` bounds the links that are
followed. -/
def addNames (links : Nat) (s : FileStore) (here : Location) : List String → IO FileStore
  | [] => return s
  | name :: rest => do
    if name == "" || name == "." then addNames links s here rest
    else if name == ".." then addNames links s here.dropLast rest
    else
      let next := here ++ [name]
      match ← entryAt next with
      | none => return s
      | some (.link target) =>
        match links with
        | 0 => return s
        | links + 1 =>
          addNames links (s.set next (.link target)) [] (FileStore.namesIn target.toList ++ rest)
      | some entry => addNames links (s.set next entry) next rest
termination_by names => (links, names.length)

/-- Adds what stands on the way of a path. -/
def addPath (s : FileStore) (path : String) : IO FileStore :=
  addNames FileStore.maxLinks s (if path.startsWith "/" then [] else s.workingDir)
    (FileStore.namesIn path.toList)

/-- Adds what a directory holds. -/
def addChildren (s : FileStore) (path : String) : IO FileStore := do
  match s.stat path with
  | .ok (location, .directory) =>
    let children ← (System.mkFilePath [pathOf location]).readDir
    children.foldlM (fun s child => addPath s (pathOf (location ++ [child.fileName]))) s
  | _ => return s

/-- Adds the directory at a path and what it holds. -/
def addDirectory (s : FileStore) (path : String) : IO FileStore := do
  addChildren (← addPath s path) path

/-- The store of the working directory. -/
def workingStore : IO FileStore := do
  let here := (← IO.currentDir).toString
  addPath { workingDir := FileStore.namesIn here.toList } here

/-- The variables of the environment that a call can look up. -/
def environment (s : FileStore) : IO Environment := do
  let names := [Definitions.disablingVariable, Settings.dryRunVariable, Settings.suffixVariable,
    Settings.levelVariable] ++ Definitions.lookups s
  names.eraseDups.filterMapM fun name => do return (← IO.getEnv name).map (name, ·)

/-- Adds what a split can look at: the module, what stands beside it, and what the directory for
extracted files holds. -/
def addForSplit (s : FileStore) (options : CommandLine.Options) (env : Environment) :
    IO FileStore := do
  let s ← addPath s options.path
  match ModuleFile.resolve s (Path.ofString options.path) with
  | .error _ => return s
  | .ok source =>
    let s ← addDirectory s source.parent.toString
    let readers := CommandLine.Readers.standard
    let loaded : Attempt Settings := do
      options.settings readers.settings s (← readers.definitions s env)
    let config? := loaded.result.toOption.map Settings.toConfig
    match config?.bind fun config => (Split.targetDirectory source config).toOption with
    | some directory => addDirectory s directory.toString
    | none => return s

/-- The store that a call with these arguments can look at, and its environment. -/
def snapshot (arguments : List String) : IO (FileStore × Environment) := do
  let s ← addPath (← workingStore) Definitions.fileName
  let env ← environment s
  match CommandLine.Request.ofArguments arguments with
  | .run options =>
    let s ← match options.config with
      | some path => addPath s path
      | none => pure s
    return (← addForSplit s options env, env)
  | _ => return (s, env)

/-- Carries out an operation on the disk. -/
def perform : Operation → IO Unit
  | .makeDirectory path => IO.FS.createDir path
  | .create path content => IO.FS.withFile path .writeNew fun file => file.write ⟨content.toArray⟩
  | .overwrite path content => IO.FS.writeBinFile path ⟨content.toArray⟩

/-- Carries out operations on the disk, as they went on the store `s`: those that failed there have
no effect and are left out. The first one that fails on the disk ends it. -/
def performAll (s : FileStore) : List Operation → IO Unit
  | [] => return
  | op :: rest => do
    if (op.apply s).isOk then perform op
    performAll (op.attempt s) rest

end Unbundle.Disk

/-- Runs the command. If the disk fails where the store did not, the call could not be carried
out. -/
def main (arguments : List String) : IO UInt32 := do
  let (before, env) ← Unbundle.Disk.snapshot arguments
  let ended := Unbundle.CommandLine.run .scripts env arguments before
  try
    Unbundle.Disk.performAll before ended.journal
  catch fault =>
    IO.eprintln fault.toString
    return Unbundle.CommandLine.exitFatal.toUInt32
  IO.print ended.output
  IO.eprint ended.errors
  match ended.code with
  | .ok code => return code.toUInt32
  | .error error =>
    IO.eprintln error.message
    return 1
