import Unbundle.Yaml.Cursor

/-!
# Tags of plain scalars

A plain scalar without a tag gets one from its form: truth values, numbers, null, times, the merge
mark and the default mark are recognised, and so are the marks that have no value on their own;
everything else is text. A line break at the very end does not count for the form.
-/

namespace Unbundle.Yaml

open Text (isHexDigit)

/-- A tag of the core vocabulary. -/
def coreTag (name : String) : String := "tag:yaml.org,2002:" ++ name

/-- Decimal digits and underscores. -/
def isDigitOrScore (c : Char) : Bool := c.isDigit || c == '_'

/-- A text without a leading sign. -/
def dropSign : List Char → List Char
  | '+' :: rest => rest
  | '-' :: rest => rest
  | cs => cs

/-- The words for truth values. -/
def truthWords : List String := [
  "yes", "Yes", "YES", "no", "No", "NO", "true", "True", "TRUE", "false", "False", "FALSE",
  "on", "On", "ON", "off", "Off", "OFF"]

/-- The words for null. -/
def nullWords : List String := ["", "~", "null", "Null", "NULL"]

/-- A digit and then digits or underscores. -/
def isNumeral : List Char → Bool
  | [] => false
  | c :: rest => c.isDigit && rest.all isDigitOrScore

/-- One or two digits below sixty. -/
def isSixtieth : List Char → Bool
  | [a] => a.isDigit
  | [a, b] => '0' ≤ a && a ≤ '5' && b.isDigit
  | _ => false

/-- Numerals to base sixty: several places between colons. -/
def isSexagesimal (cs : List Char) : Bool :=
  match Text.fields (· == ':') cs with
  | first :: second :: rest => isNumeral first && (second :: rest).all isSixtieth
  | _ => false

/-- Whole numbers: binary, octal, decimal, hexadecimal and to base sixty. -/
def isInteger (cs : List Char) : Bool :=
  match dropSign cs with
  | ['0'] => true
  | '0' :: 'b' :: rest => !rest.isEmpty && rest.all fun c => c == '0' || c == '1' || c == '_'
  | '0' :: 'x' :: rest => !rest.isEmpty && rest.all fun c => isHexDigit c || c == '_'
  | '0' :: rest => rest.all fun c => ('0' ≤ c && c ≤ '7') || c == '_'
  | digits => (isNumeral digits || isSexagesimal digits) && digits.head? != some '0'

/-- What may follow the digits of a number with a point: an exponent with a sign, or nothing. -/
def isExponent : List Char → Bool
  | [] => true
  | [_] => false
  | e :: sign :: digits =>
    (e == 'e' || e == 'E') && (sign == '+' || sign == '-') && !digits.isEmpty &&
      digits.all Char.isDigit

/-- The digits behind a point, and perhaps an exponent. -/
def isFraction (cs : List Char) : Bool := isExponent (cs.dropWhile isDigitOrScore)

/-- Numbers with a point. -/
def isFloat (cs : List Char) : Bool :=
  let body := dropSign cs
  let whole := body.takeWhile (· != '.')
  match body.dropWhile (· != '.') with
  | [] => false
  | _ :: fraction =>
    if whole.isEmpty then
      (["inf", "Inf", "INF"].map String.toList).contains fraction
        || (cs.head? == some '.' &&
          ((["nan", "NaN", "NAN"].map String.toList).contains fraction
            || (fraction.head?.any Char.isDigit && isFraction fraction)))
    else
      (isNumeral whole && isFraction fraction)
        || (isSexagesimal whole && fraction.all isDigitOrScore)

/-- The parts of a time as written. -/
structure TimeText where
  year : List Char
  month : List Char
  day : List Char
  /-- Hour, minute, second and fraction. -/
  clock : Option (List Char × List Char × List Char × List Char) := none
  /-- Whether universal time or an offset is given; the offset with its sign, hours and minutes. -/
  zoned : Bool := false
  offset : Option (Char × List Char × List Char) := none

/-- Reads between `low` and `high` digits. -/
def digitsBetween (low high : Nat) (cs : List Char) : Option (List Char × List Char) :=
  let run := (cs.take high).takeWhile Char.isDigit
  if low ≤ run.length then some (run, cs.drop run.length) else none

/-- Reads a character. -/
def expect (c : Char) : List Char → Option (List Char)
  | d :: rest => if c == d then some rest else none
  | [] => none

/-- Reads the zone of a time up to the end. -/
def zone? (time : TimeText) (cs : List Char) : Option TimeText :=
  match cs.dropWhile fun c => c == ' ' || c == '\t' with
  | [] => if cs.isEmpty then some time else none
  | ['Z'] => some { time with zoned := true }
  | sign :: rest =>
    if sign == '+' || sign == '-' then do
      let (hours, rest) ← digitsBetween 1 2 rest
      match rest with
      | [] => return { time with zoned := true, offset := some (sign, hours, []) }
      | _ =>
        let (minutes, rest) ← digitsBetween 2 2 (← expect ':' rest)
        if rest.isEmpty then
          return { time with zoned := true, offset := some (sign, hours, minutes) }
        else none
    else none

/-- Reads the time of day behind a date. -/
def clock? (time : TimeText) (cs : List Char) : Option TimeText := do
  let gap := cs.takeWhile fun c => c == ' ' || c == '\t'
  let rest ← match cs with
    | 'T' :: rest => some rest
    | 't' :: rest => some rest
    | _ => if gap.isEmpty then none else some (cs.drop gap.length)
  let (hour, rest) ← digitsBetween 1 2 rest
  let (minute, rest) ← digitsBetween 2 2 (← expect ':' rest)
  let (second, rest) ← digitsBetween 2 2 (← expect ':' rest)
  let (fraction, rest) := match rest with
    | '.' :: rest => (rest.takeWhile Char.isDigit, rest.dropWhile Char.isDigit)
    | _ => ([], rest)
  zone? { time with clock := some (hour, minute, second, fraction) } rest

/-- Reads a date, or a date and a time. -/
def time? (cs : List Char) : Option TimeText := do
  let (year, rest) ← digitsBetween 4 4 cs
  let (month, rest) ← digitsBetween 1 2 (← expect '-' rest)
  let (day, rest) ← digitsBetween 1 2 (← expect '-' rest)
  let date : TimeText := { year, month, day }
  if rest.isEmpty then return date else clock? date rest

/-- Whether a plain scalar is a time; a date on its own is written in full. -/
def isTime (cs : List Char) : Bool :=
  match time? cs with
  | some time => time.clock.isSome || (time.month.length == 2 && time.day.length == 2)
  | none => false

/-- The marks that stand for no value of their own. -/
def markWords : List String := ["!", "&", "*"]

/-- A text without a line feed at its end. -/
def dropFinalBreak (cs : List Char) : List Char :=
  if cs.getLast? == some '\n' then cs.dropLast else cs

/-- The tag of a plain scalar. A line feed on its own is text. -/
def implicitTag (text : Letters) : String :=
  coreTag <|
    match text.chars? with
    | none | some ['\n'] => "str"
    | some cs =>
      let cs := dropFinalBreak cs
      let word := String.ofList cs
      if truthWords.contains word then "bool"
      else if isFloat cs then "float"
      else if isInteger cs then "int"
      else if word == "<<" then "merge"
      else if nullWords.contains word then "null"
      else if isTime cs then "timestamp"
      else if word == "=" then "value"
      else if markWords.contains word then "yaml"
      else "str"

end Unbundle.Yaml
