import Unbundle.ModuleFile

/-!
# Backups

Before a module is overwritten it is copied, byte for byte, to a file beside it. An older backup is
replaced. The copy is read back; only then may the module be touched.
-/

namespace Unbundle.Backup

/-- The path of a module's backup. -/
def pathFor (source : Path) (suffix : String) : Except Error Path :=
  (source.withName (source.name ++ suffix)).mapError fun e => .invalid (.name e)

/-- The file that a copy to `target` writes, and how messages show it: a copy onto a directory goes
into it, under the name of the source. -/
def destination (s : FileStore) (source target : Path) : String × String :=
  if s.leadsToDirectory target.toString then
    let slash := if target.toString.endsWith "/" then "" else "/"
    let inside := target.toString ++ slash ++ source.name
    (inside, Text.quoted inside)
  else (target.toString, target.shown)

/-- Whether two paths lead to one file. -/
def sameFile (s : FileStore) (a b : String) : Bool :=
  match s.stat a, s.stat b with
  | .ok (x, _), .ok (y, _) => x == y
  | _, _ => false

/-- What is to be copied, and where to. -/
def prepareCopy (s : FileStore) (source target : Path) : Except Error (String × Bytes) :=
  let (inside, shown) := destination s source target
  let failed := fun cause => Error.backup source target cause
  if !FileStore.acceptable inside then .error (.invalid .embeddedNul)
  else if sameFile s source.toString inside then .error (failed (.sameFile source.shown shown))
  else (ModuleFile.readBytes s .copy source (failed ∘ .fault)).map (inside, ·)

/-- Copies the content of a file to a path. -/
def copy (source target : Path) : Work Unit := do
  let (inside, content) ← Work.check fun s => prepareCopy s source target
  match ← Work.attempt (.overwrite inside content) with
  | none => return
  | some fault =>
    let there ← Work.check fun s => .ok (s.leadsSomewhere inside)
    if fault.kind == .isADirectory && !there then
      Work.fail (.backup source target (.missingDirectory inside))
    else Work.fail (.backup source target (.fault fault))

/-- Whether a backup reads back as its module. -/
def verify (s : FileStore) (source target : Path) : Except Error Unit := do
  let failed := fun fault => Error.backup source target (.fault fault)
  let copied ← ModuleFile.readBytes s .compare target failed
  let content ← ModuleFile.readBytes s .compare source failed
  if copied == content then return else throw (.backupDiffers source target)

/-- Copies a module to its backup at `target` and reads the copy back. -/
def createAt (source target : Path) : Work Unit := do
  match ← Work.check fun s => (s.probe target).mapError .file with
  | some _ => Work.tell (.replacingBackup target)
  | none => pure ()
  copy source target
  Work.check fun s => verify s source target
  Work.tell (.backedUp source.name target)

/-- Makes the backup of a module and gives its path. -/
def create (source : Path) (suffix : String) : Work Path := do
  let target ← Work.check fun _ => pathFor source suffix
  createAt source target
  return target

end Unbundle.Backup
