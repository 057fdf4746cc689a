import Unbundle.Attempt
import Unbundle.Settings.Value

/-!
# Log thresholds

A log level is named in any case; notices that rank below it are not shown. A name that is not known
means the usual threshold.
-/

namespace Unbundle.Threshold

/-- The threshold when none is named. -/
def usual : Nat := Level.info.rank

/-- The ranks that have a name. -/
def ranks : List (String × Nat) := [
  ("CRITICAL", 50), ("FATAL", 50), ("ERROR", 40), ("WARNING", 30), ("WARN", 30), ("INFO", 20),
  ("DEBUG", 10), ("NOTSET", 0)]

/-- The name under which the layout of log lines is kept, which is no level. -/
def layoutName : String := "BASIC_FORMAT"

/-- The layout of log lines. -/
def layout : String := "%(levelname)s:%(name)s:%(message)s"

/-- The name under which the styles of log lines are kept, which are no levels either. -/
def stylesName : String := "_STYLES"

/-- A character in upper case, as far as the names of levels need it: the letters that become plain
capitals. -/
def upperChar (c : Char) : List Char :=
  match c.toNat with
  | 0xdf => ['S', 'S']
  | 0x131 => ['I']
  | 0x17f => ['S']
  | 0xfb00 => ['F', 'F']
  | 0xfb01 => ['F', 'I']
  | 0xfb02 => ['F', 'L']
  | 0xfb03 => ['F', 'F', 'I']
  | 0xfb04 => ['F', 'F', 'L']
  | 0xfb05 | 0xfb06 => ['S', 'T']
  | _ => [c.toUpper]

/-- A name of a level in upper case. -/
def upperName (name : String) : String := String.ofList (name.toList.flatMap upperChar)

/-- The threshold that a name stands for. -/
def ofName (name : String) : Except Error Nat :=
  let upper := upperName name
  match ranks.lookup upper with
  | some rank => .ok rank
  | none =>
    if upper == layoutName then .error (.invalid (.unknownLevel layout))
    else if upper == stylesName then .error .wrongType
    else .ok usual

/-- The threshold that a setting stands for. -/
def ofValue (value : Value) : Except Error Nat :=
  if value.isFalsy then .ok usual
  else match value with
    | .text name => ofName name
    | .unpaired _ => .ok usual
    | .binary _ => .error .wrongType
    | _ => .error .noSuchAttribute

end Unbundle.Threshold
