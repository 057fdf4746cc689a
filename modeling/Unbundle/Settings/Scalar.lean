import Unbundle.Settings.Value
import Unbundle.Yaml.Tag

/-!
# Scalars of a settings document

The text of a scalar is read as its tag says. A text that its tag does not allow fails with the
words of the reader that refuses it; a scalar whose tag is not known makes the document malformed.
-/

namespace Unbundle.Settings

open Yaml (Failure coreTag)
open Text (digitsValue signed)

/-- A scalar that its tag does not allow. -/
def refuse {α : Type} (words : String) : Except Error α := .error (.invalid (.scalar words))

/-! ## Numbers -/

/-- Takes a sign from a text: whether it is negative, and the rest. -/
def takeSign : Letters → Bool × Letters
  | .char '-' :: rest => (true, rest)
  | .char '+' :: rest => (false, rest)
  | text => (false, text)

/-- A text without the underscores that group its digits. -/
def ungrouped (text : Letters) : Letters := text.filter fun l => !l.isChar '_'

/-- How many characters of a refused number a message quotes. -/
def quotedLength : Nat := 200

/-- Reads a whole number to a base. -/
def integer (base : Nat) (text : Letters) : Except Error Int :=
  (Text.integer base text).mapError fun
    | .notNumber =>
      let shown := String.ofList (text.quoted.toList.take quotedLength)
      .invalid (.scalar s!"invalid literal for int() with base {base}: {shown}")
    | .tooLong digits => .invalid (.tooManyDigits (some digits))

/-- Reads a whole number as settings write it: to base 2, 8, 10, 16 or 60. -/
def wholeNumber (text : Letters) : Except Error Int := do
  let (negative, body) := takeSign (ungrouped text)
  match body with
  | [] => throw .emptyText
  | [.char '0'] => return 0
  | .char '0' :: .char 'b' :: digits => return signed negative (← integer 2 digits)
  | .char '0' :: .char 'x' :: digits => return signed negative (← integer 16 digits)
  | .char '0' :: _ => return signed negative (← integer 8 body)
  | _ =>
    let places ← (body.fields ':').mapM (integer 10)
    return signed negative (places.foldl (fun n place => n * 60 + place) 0)

/-- Reads a number with a point and an exponent, both of which may be missing. -/
def decimal? (cs : List Char) : Option Float :=
  let whole := cs.takeWhile Char.isDigit
  let afterWhole := cs.dropWhile Char.isDigit
  let (fraction, afterFraction) := match afterWhole with
    | '.' :: rest => (rest.takeWhile Char.isDigit, rest.dropWhile Char.isDigit)
    | rest => ([], rest)
  let digits := whole ++ fraction
  if digits.isEmpty then none
  else
    let value := digitsValue 10 digits
    match afterFraction with
    | [] => some (Decimal.nearest value (-(fraction.length : Int)))
    | mark :: rest =>
      let (negative, power) := Text.takeSign rest
      if mark == 'e' && !power.isEmpty && power.all Char.isDigit then
        some (Decimal.nearest value
          (signed negative (digitsValue 10 power) - (fraction.length : Int)))
      else none

/-- Reads a number in lower case, with blanks around it and a sign. -/
def number (text : Letters) : Except Error Float :=
  let (negative, body) := Text.takeSign (Text.trimNumeral (Text.plainNumeral text))
  let size? :=
    if body == "inf".toList || body == "infinity".toList then some (1.0 / 0.0)
    else if body == "nan".toList then some (0.0 / 0.0)
    else decimal? body
  match size? with
  | some size => .ok (if negative then -size else size)
  | none => refuse s!"could not convert string to float: {text.quoted}"

/-- The sum of places to base sixty, the lowest first; `weight` is what the first counts. -/
def sexagesimal (sum : Float) (weight : Nat) : List Float → Except Error Float
  | [] => .ok sum
  | place :: rest =>
    let scale := Decimal.nearest weight 0
    if scale.isInf then .error .tooLarge else sexagesimal (sum + place * scale) (weight * 60) rest

/-- Reads a number with a point as settings write it: also to base 60, infinite, or no number. -/
def pointNumber (origin : Nat) (text : Letters) : Except Error Value := do
  let value := (ungrouped text).lower
  if value.isEmpty then throw .emptyText
  let (negative, body) := takeSign value
  let withSign := fun (size : Float) => Value.ofFloat origin (if negative then -size else size)
  if body == .ofChars ".inf".toList then return withSign (1.0 / 0.0)
  else if body == .ofChars ".nan".toList then return .nan none
  else match body.fields ':' with
    | [single] => return withSign (← number single)
    | parts => return withSign (← sexagesimal 0.0 1 (← parts.mapM number).reverse)

/-! ## Truth values, times, bytes -/

/-- Reads a truth value. -/
def truth (text : Letters) : Except Error Bool :=
  let isWord := fun (word : String) => text.lower == .ofChars word.toList
  if ["yes", "true", "on"].any isWord then .ok true
  else if ["no", "false", "off"].any isWord then .ok false
  else .error .unknownWord

/-- An interval of time shown as a value. -/
def intervalShown (seconds : Int) : String :=
  let days := seconds.fdiv 86400
  let rest := seconds.fmod 86400
  let parts := (if days = 0 then [] else [s!"days={days}"]) ++
    (if rest = 0 then [] else [s!"seconds={rest}"])
  "datetime.timedelta(" ++ ", ".intercalate parts ++ ")"

/-- The offset from universal time that a time is written with, in seconds; it is less than a
day. -/
def offsetOf (time : Yaml.TimeText) : Except Error (Option Int) :=
  match time.offset with
  | none => .ok (if time.zoned then some 0 else none)
  | some (sign, hours, minutes) =>
    let size : Nat := digitsValue 10 hours * 3600 + digitsValue 10 minutes * 60
    let seconds := signed (sign == '-') size
    if size < 86400 then .ok (some seconds)
    else refuse ("offset must be a timedelta strictly between -timedelta(hours=24) and "
      ++ "timedelta(hours=24), not "
      ++ intervalShown seconds ++ ".")

/-- Reads a date or a moment. -/
def time (text : Letters) : Except Error Value := do
  match text.chars?.bind (Yaml.time? ∘ Yaml.dropFinalBreak) with
  | none => throw .noSuchAttribute
  | some written =>
    let refused := fun {α : Type} (made : Except String α) =>
      made.mapError fun words => Error.invalid (.scalar words)
    let decimal := digitsValue 10
    let date := Date.make (decimal written.year) (decimal written.month) (decimal written.day)
    match written.clock with
    | none => return .date (← refused date)
    | some (hour, minute, second, fraction) =>
      let micro := decimal ((fraction ++ List.replicate 6 '0').take 6)
      let offset ← offsetOf written
      let moment :=
        Moment.make (← refused date) (decimal hour) (decimal minute) (decimal second) micro offset
      return .moment (← refused moment)

/-- The six bits that a letter of the base-64 alphabet stands for. -/
def sixBits? (c : Char) : Option Nat :=
  if c.isUpper then some (c.toNat - 65)
  else if c.isLower then some (c.toNat - 71)
  else if c.isDigit then some (c.toNat + 4)
  else if c == '+' then some 62
  else if c == '/' then some 63
  else none

/-- Decodes base-64 letters; `held` letters of a group of four are in `bits`, and `pads` fillers
came after them. What is no letter is passed over, and fillers that complete a group end the
text. -/
def base64 : List Char → (held bits pads : Nat) → Option Bytes
  | [], held, _, _ => if held = 0 then some [] else none
  | c :: rest, held, bits, pads =>
    if c == '=' then
      if 2 ≤ held && 4 ≤ held + pads + 1 then some []
      else base64 rest held bits (if 2 ≤ held then pads + 1 else pads)
    else match sixBits? c with
      | none => base64 rest held bits pads
      | some six =>
        let bits := bits * 64 + six
        match held with
        | 0 => base64 rest 1 six 0
        | 1 => (base64 rest 2 (bits % 16) 0).map (UInt8.ofNat (bits / 16) :: ·)
        | 2 => (base64 rest 3 (bits % 4) 0).map (UInt8.ofNat (bits / 4) :: ·)
        | _ => (base64 rest 0 0 0).map (UInt8.ofNat bits :: ·)

/-- Reads bytes, which are written in ASCII. -/
def bytes? (text : Letters) : Option Bytes := do
  let cs ← text.chars?
  if cs.all fun c => c.toNat < 128 then base64 cs 0 0 0 else none

/-! ## All scalars -/

/-- The kinds of scalars that a tag can ask for. -/
inductive ScalarKind
  | text
  | null
  | truth
  | whole
  | point
  | time
  | bytes
  deriving DecidableEq, Repr

/-- The kind of scalar that a tag asks for, if it does. -/
def ScalarKind.ofTag? (tag : String) : Option ScalarKind := [
  (coreTag "str", text), (coreTag "null", null), (coreTag "bool", truth), (coreTag "int", whole),
  (coreTag "float", point), (coreTag "timestamp", time), (coreTag "binary", bytes)].lookup tag

/-- The value of a scalar that comes from `origin`. -/
def scalar (kind : ScalarKind) (origin : Nat) (text : Letters) : Except Failure Value :=
  let read := fun (made : Except Error Value) => made.mapError Failure.error
  match kind with
  | .text => .ok (.ofLetters text)
  | .null => .ok .null
  | .truth => read (.bool <$> truth text)
  | .whole => read (.int <$> wholeNumber text)
  | .point => read (pointNumber origin text)
  | .time => read (time text)
  | .bytes =>
    match bytes? text with
    | some bytes => .ok (.binary bytes)
    | none => .error .malformed

end Unbundle.Settings
