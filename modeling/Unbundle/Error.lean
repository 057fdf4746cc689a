import Unbundle.FileStore.Fault
import Unbundle.Path
import Unbundle.Text.Numeral
import Unbundle.Text.Utf8

/-!
# Errors

Every way in which an operation of this library can fail, as a cause; the wording of each cause is
in one place. A module that cannot be used, a backup or a write that fails are the documented errors
of a split; the others come from unusable arguments, settings or trees.
-/

namespace Unbundle

/-- Why a module cannot be used as input. -/
inductive InputError
  | notFound (path : Path)
  | notAFile (path : Path)
  | unsupportedSuffix (suffix : String)
  | unreadable (path : Path) (fault : Fault)
  | notText (path : Path) (flaw : Utf8.DecodeError)
  deriving DecidableEq, Repr

/-- The words for an unusable module. -/
def InputError.message : InputError → String
  | .notFound path => s!"Module file not found: {path.toString}"
  | .notAFile path => s!"Not a file: {path.toString}"
  | .unsupportedSuffix suffix =>
    let shown := if suffix.isEmpty then "<none>" else suffix
    s!"Unsupported file extension: {shown} (expected ['.psm1'])"
  | .unreadable path fault => s!"Cannot read {path.toString}: {fault.message}"
  | .notText path flaw => s!"{path.toString} is not valid UTF-8: {flaw.message}"

/-- Why a file could not be copied. -/
inductive CopyFault
  | fault (cause : Fault)
  /-- The source and the target, as shown, are one file. -/
  | sameFile (source target : String)
  /-- The target names a directory that is not there. -/
  | missingDirectory (target : String)
  deriving DecidableEq, Repr

/-- The words for a failed copy. -/
def CopyFault.message : CopyFault → String
  | .fault cause => cause.message
  | .sameFile source target => s!"{source} and {target} are the same file"
  | .missingDirectory target => s!"Directory does not exist: {target}"

/-- A value that an operation does not accept. -/
inductive InvalidValue
  | spanOutside (start stop : Int) (size : Nat)
  | spanOverlap (start stop floor : Int)
  | skipsInExtraction
  | skipsInAssembly
  | name (error : Path.NameError)
  | width (given : Int)
  | embeddedNul
  | badVariableName
  | unknownLevel (name : String)
  | malformedSettings (path : String)
  | settingsNotMapping (path : String)
  | sectionNotMapping (path : String)
  | unknownKeys (path : String) (keys : String)
  | emptyBackupSuffix
  /-- A scalar of the settings file that its tag does not allow, in words. -/
  | scalar (words : String)
  /-- A whole number has too many decimal digits to be read, which are counted then, or to be
  written. -/
  | tooManyDigits (given : Option Nat)
  deriving DecidableEq, Repr

/-- The words for a value that is not accepted. -/
def InvalidValue.message : InvalidValue → String
  | .spanOutside start stop size => s!"Span ({start}, {stop}) outside of {size} bytes"
  | .spanOverlap start stop floor => s!"Span ({start}, {stop}) overlaps a span starting at {floor}"
  | .skipsInExtraction => "Refusing to write extractions from a plan that contains skips"
  | .skipsInAssembly => "A rewrite plan requires an extraction plan without skips"
  | .name error => error.message
  | .width given => s!"invalid width {given} (must be > 0)"
  | .embeddedNul => "embedded null byte"
  | .badVariableName => "illegal environment variable name"
  | .unknownLevel given => s!"Unknown level: {Text.quoted given}"
  | .malformedSettings path => s!"Failed to load configuration from {path}: "
  | .settingsNotMapping path => s!"Configuration in {path} must be a mapping"
  | .sectionNotMapping path => s!"'splitter' section in {path} must be a mapping"
  | .unknownKeys path keys => s!"Unknown configuration keys in {path}: {keys}"
  | .emptyBackupSuffix => "backup_suffix must not be empty"
  | .scalar words => words
  | .tooManyDigits given =>
    s!"Exceeds the limit ({Text.digitLimit} digits) for integer string conversion"
      ++ (given.map fun count => s!": value has {count} digits").getD ""
      ++ "; use sys.set_int_max_str_digits() to increase the limit"

/-- The errors of this library. -/
inductive Error
  | input (error : InputError)
  | backup (source target : Path) (cause : CopyFault)
  /-- A backup does not read back as its module. -/
  | backupDiffers (source target : Path)
  | write (path : Path) (fault : Fault)
  | invalid (value : InvalidValue)
  | undecodable (flaw : Utf8.DecodeError)
  | file (fault : Fault)
  | settingsNotFound (path : String)
  /-- There is no tree for a parse, or none that can be walked through. -/
  | outOfTrees
  /-- A value has no such property. -/
  | noSuchAttribute
  /-- A value is of the wrong kind for its use. -/
  | wrongType
  /-- A word is not in the table that its tag prescribes. -/
  | unknownWord
  /-- A text is empty where a character is needed. -/
  | emptyText
  /-- A number is too large for its use. -/
  | tooLarge
  /-- A document is nested too deep or without end, or too many directories are missing. -/
  | tooDeep
  /-- A text holds half of a surrogate pair where it must be written as bytes. -/
  | unencodable
  deriving DecidableEq, Repr

/-- The words for an error; those that say no more than their kind have none. -/
def Error.message : Error → String
  | .input error => error.message
  | .backup source target cause =>
    s!"Cannot back up {source.toString} to {target.toString}: {cause.message}"
  | .backupDiffers source target =>
    s!"Backup {target.toString} does not match {source.toString}"
  | .write path fault => s!"Failed to write {path.toString}: {fault.message}"
  | .invalid value => value.message
  | .undecodable flaw => flaw.message
  | .file fault => fault.message
  | .settingsNotFound path => s!"Configuration file not found: {path}"
  | .outOfTrees => "no tree left for this parse"
  | .noSuchAttribute | .wrongType | .unknownWord | .emptyText | .tooLarge | .tooDeep
  | .unencodable => ""

end Unbundle
