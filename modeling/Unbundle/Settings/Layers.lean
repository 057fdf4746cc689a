import Unbundle.Attempt
import Unbundle.Config
import Unbundle.Environment.Basic
import Unbundle.Settings.Section

/-!
# Layers of settings

Each setting has its value from the highest layer that has one: what is given explicitly, then the
environment, then the settings file, then the defaults. Afterwards an extension gets the dot that it
lacks, and a backup suffix must not be empty.
-/

namespace Unbundle

/-- A value for every setting. -/
abbrev Settings := Setting → Value

/-- Values for some of the settings. -/
abbrev Layer := Setting → Option Value

namespace Settings

/-- The settings before anything is configured. -/
def defaults : Settings
  | .dryRun => .bool false
  | .publicDir => .text "Public"
  | .privateDir => .text "Private"
  | .extension => .text ".ps1"
  | .backupSuffix => .text ".bak"
  | .logLevel => .text "INFO"

/-- Settings with a layer over them. -/
def withLayer (base : Settings) (layer : Layer) : Settings :=
  fun setting => (layer setting).getD (base setting)

/-- Settings with one of them changed. -/
def change (base : Settings) (setting : Setting) (value : Value) : Settings :=
  fun other => if other = setting then value else base other

/-! ## Truth values -/

/-- The words for yes. -/
def yesWords : List String := ["1", "true", "yes", "y", "on"]

/-- The words for no. -/
def noWords : List String := ["0", "false", "no", "n", "off"]

/-- The truth value that a text stands for, blanks around it and case apart. -/
def truthOf? (text : String) : Option Bool :=
  let word := String.ofList (Text.lowerChars (Text.trim text.toList))
  if yesWords.contains word then some true
  else if noWords.contains word then some false
  else none

/-- The truth value of a setting; null, and what stands for none, keep the value before. The latter
is told. -/
def readTruth (raw : Value) (before : Bool) : Attempt Bool :=
  match raw with
  | .null => pure before
  | raw => do
    match truthOf? raw.words with
    | some b => return b
    | none =>
      .tell (.unknownBoolean (← .ofExcept raw.shownInFull) before)
      return before

/-! ## The layers -/

/-- The variable for dry runs. -/
def dryRunVariable : String := "MODULE_SPLITTER_DRY_RUN"

/-- The variable for the suffix of backups. -/
def suffixVariable : String := "MODULE_SPLITTER_BACKUP_SUFFIX"

/-- The variable for the log level. -/
def levelVariable : String := "LOG_LEVEL"

/-- The layer of a settings file, its dry run read as `dryRun`. -/
def fileLayer (entries : Entries) (dryRun : Bool) : Layer
  | .dryRun => some (.bool dryRun)
  | setting => entries.lookup setting

/-- The layer of an environment, its dry run read as `dryRun`. -/
def environmentLayer (env : Environment) (dryRun : Bool) : Layer
  | .dryRun => some (.bool dryRun)
  | .backupSuffix => (env.nonempty? suffixVariable).map .text
  | .logLevel => (env.nonempty? levelVariable).map .text
  | _ => none

/-- The layer of values by key; a key that is no setting is refused. -/
def layerOf (given : List (String × Value)) : Except Error Layer :=
  if given.all fun (key, _) => (Setting.ofKey? key).isSome then
    .ok fun setting => given.lookup setting.key
  else .error .wrongType

/-- The values that are given explicitly: null gives none. -/
def explicit (given : List (String × Value)) : List (String × Value) :=
  given.filter fun (_, value) => !(value matches .null)

/-- The text of an extension, with a dot at its front. -/
def dotted : Value → Except Error Value
  | .text text => .ok (.text (if text.startsWith "." then text else "." ++ text))
  | .unpaired letters =>
    .ok (.unpaired (if letters.head?.any (·.isChar '.') then letters else .char '.' :: letters))
  | .binary _ => .error .wrongType
  | _ => .error .noSuchAttribute

/-- The settings as they are used. -/
def validate (settings : Settings) : Except Error Settings := do
  let extension ← dotted (settings .extension)
  if (settings .backupSuffix).isFalsy then throw (.invalid .emptyBackupSuffix)
  return settings.change .extension extension

/-- The settings of all layers. -/
def combine (entries : Entries) (env : Environment) (given : List (String × Value)) :
    Attempt Settings := do
  let inFile ← match entries.lookup .dryRun with
    | some value => do readTruth (← .ofExcept value.toText) false
    | none => pure false
  let inEnvironment ← readTruth (((env.get? dryRunVariable).map .text).getD .null) inFile
  let explicitly ← .ofExcept (layerOf (explicit given))
  let configured :=
    (defaults.withLayer (fileLayer entries inFile)).withLayer (environmentLayer env inEnvironment)
  .ofExcept (validate (configured.withLayer explicitly))

/-- The settings of all layers, with the file at a path if one is named; `reader` reads it. -/
def loadWith (reader : Reader) (s : FileStore) (path : Option String) (env : Environment)
    (given : List (String × Value)) : Attempt Settings := do
  let entries ← match path.filter (!·.isEmpty) with
    | some path => .ofExcept (entriesWith reader s path)
    | none => pure []
  combine entries env given

/-- The settings of all layers, with the YAML file at a path if one is named. -/
def load (s : FileStore) (path : Option String) (env : Environment)
    (given : List (String × Value)) : Attempt Settings :=
  loadWith documentIn s path env given

/-! ## Use -/

/-- A setting that must be text, or the error that its use raises. -/
def textOr (value : Value) (error : Error) : TextSetting :=
  match value with
  | .text _ | .unpaired _ => .ok value.words
  | _ => .error error

/-- The private directory is text where it is quoted for the loader. -/
def privateDirOf (value : Value) : TextSetting :=
  match value with
  | .binary _ | .date _ | .moment _ => .error .wrongType
  | value => textOr value .noSuchAttribute

/-- The names that a path ends in when an extension stands behind a stem. The first one goes on from
the stem; of the others, a path drops those that lead nowhere else. -/
def extensionNames (value : Value) : List Letters :=
  match Letters.fields '/' (value.letters?.getD []) with
  | [] => []
  | first :: rest => first :: rest.filter fun name => name != [] && name != [.char '.']

/-- The steps that come upon a text without an encoding. A path may hold halves that stand for
bytes; what is written or printed may hold none. -/
def haltedSteps (settings : Settings) : List Step :=
  let strays := fun setting => (settings setting).hasLetter Letter.isStray
  let halves := fun setting => (settings setting).hasLetter Letter.isHalf
  let names := (extensionNames (settings .extension)).map (·.any Letter.isStray)
  let steps := [
    (Step.backup, strays .backupSuffix),
    (.directories, strays .publicDir || names.dropLast.any id),
    (.file, names.getLastD false),
    (.module, halves .publicDir || halves .privateDir || halves .extension),
    (.report, halves .publicDir || halves .extension || halves .backupSuffix)]
  (steps.filter (·.2)).map (·.1)

/-- The configuration of a split. -/
def toConfig (settings : Settings) : Config where
  dryRun := !(settings .dryRun).isFalsy
  publicDir := textOr (settings .publicDir) .wrongType
  privateDir := privateDirOf (settings .privateDir)
  extension := (settings .extension).words
  backupSuffix := textOr (settings .backupSuffix) .wrongType
  halted := settings.haltedSteps

end Settings

end Unbundle
