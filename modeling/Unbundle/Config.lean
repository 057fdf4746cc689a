import Unbundle.Error

/-!
# Run configuration

What a split needs to know: whether to change anything, and how directories, files and backups are
named. A setting that must be text may turn out not to be; the error then stands in its place and is
raised when the setting is first used. A text may also hold half of a surrogate pair, which has no
encoding; a replacement character then stands in its place, and the steps that would have to write
it are listed.
-/

namespace Unbundle

/-- A setting that must be text, or the error that using it raises. -/
abbrev TextSetting := Except Error String

/-- The steps of a call that hand a setting on: to the system as a path, or to a file or the
terminal as text. -/
inductive Step
  /-- The copy to the backup. -/
  | backup
  /-- Making the directories of a file. -/
  | directories
  /-- Creating a file. -/
  | file
  /-- Writing the module. -/
  | module
  /-- Printing the report. -/
  | report
  deriving DecidableEq, Repr

/-- The configuration of a split. -/
structure Config where
  dryRun : Bool := false
  publicDir : TextSetting := .ok "Public"
  privateDir : TextSetting := .ok "Private"
  extension : String := ".ps1"
  backupSuffix : TextSetting := .ok ".bak"
  /-- The steps that come upon a text without an encoding. -/
  halted : List Step := []

/-- Whether the paths of extracted files have no encoding. Nothing is found at such a path. -/
def Config.hidesFiles (config : Config) : Bool :=
  config.halted.contains .directories || config.halted.contains .file

end Unbundle
