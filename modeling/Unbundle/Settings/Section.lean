import Unbundle.FileStore.Basic
import Unbundle.Settings.Document
import Unbundle.Text.Stream

/-!
# The section of a settings file

The settings there are, and the section of a settings file that holds them. The section may be
missing; it may hold no other key.
-/

namespace Unbundle

/-- The settings there are. -/
inductive Setting
  | dryRun
  | publicDir
  | privateDir
  | extension
  | backupSuffix
  | logLevel
  deriving DecidableEq, Repr

namespace Setting

/-- The key of a setting. -/
def key : Setting → String
  | dryRun => "dry_run"
  | publicDir => "public_dir"
  | privateDir => "private_dir"
  | extension => "extension"
  | backupSuffix => "backup_suffix"
  | logLevel => "log_level"

/-- All settings. -/
def all : List Setting := [dryRun, publicDir, privateDir, extension, backupSuffix, logLevel]

/-- The setting with a key. -/
def ofKey? (key : String) : Option Setting := all.find? (·.key == key)

/-- The setting that a key of a mapping stands for. -/
def ofValue? : Value → Option Setting
  | .text key => ofKey? key
  | _ => none

end Setting

namespace Settings

/-- Settings with values, in the order of their keys in a file. -/
abbrev Entries := List (Setting × Value)

/-- The key of the section. -/
def sectionKey : String := "splitter"

/-- The entries of a mapping; an item that counts as none has none. -/
def entriesIn (document : Document) (item : Item) (refusal : InvalidValue) :
    Except Error (List (Value × Item)) :=
  if document.isFalsy item then .ok []
  else match document.entries? item with
    | some entries => .ok entries
    | none => .error (.invalid refusal)

/-- The refusal of keys that are no settings: they are listed in order, if they have one and can be
written. -/
def refuseKeys (path : String) (keys : List Value) : Error :=
  match Value.sorted? keys with
  | some sorted =>
    match (Value.list sorted).shownInFull with
    | .ok shown => .invalid (.unknownKeys path shown)
    | .error e => e
  | none => .wrongType

/-- The settings in a document. -/
def sectionOf (path : String) (document : Document) : Except Error Entries := do
  let top ← entriesIn document document.root (.settingsNotMapping path)
  let found := (Value.lookup top sectionKey).getD (.scalar .null)
  let inner ← entriesIn document found (.sectionNotMapping path)
  let unknown := (inner.map (·.1)).filter fun key => (Setting.ofValue? key).isNone
  if unknown.isEmpty then
    return inner.filterMap fun (key, item) => (Setting.ofValue? key).map (·, document.valueOf item)
  else throw (refuseKeys path unknown)

/-- A reader of settings files: the document in the content of the file at a path. -/
abbrev Reader := String → Bytes → Except Error Document

/-- Reads a settings file as YAML. -/
def documentIn : Reader := fun path content =>
  (Document.ofLoads (Text.loads content)).mapError fun failure =>
    match failure with
    | .malformed => .invalid (.malformedSettings path)
    | .error e => e

/-- The content of a settings file. -/
def contentOf (s : FileStore) (path : String) : Except Error Bytes :=
  if !FileStore.acceptable path then .error (.invalid .embeddedNul)
  else (s.fetch .use path).mapError fun cause =>
    if cause.kind = .notFound then .settingsNotFound path else .file ⟨cause, path⟩

/-- The settings in the file at a path, which `reader` reads. -/
def entriesWith (reader : Reader) (s : FileStore) (path : String) : Except Error Entries := do
  sectionOf path (← reader path (← contentOf s path))

/-- The settings in the YAML file at a path. -/
def entriesAt (s : FileStore) (path : String) : Except Error Entries :=
  entriesWith documentIn s path

end Settings

end Unbundle
