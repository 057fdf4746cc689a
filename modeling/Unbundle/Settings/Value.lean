import Unbundle.Decimal.Nearest
import Unbundle.Error
import Unbundle.Settings.Moment
import Unbundle.Text.Letter

/-!
# Values of settings

What a settings file can hold: scalars, lists and mappings. Mappings keep the order in which their
keys were first set.
-/

namespace Unbundle

/-- A value in a settings file. -/
inductive Value
  | null
  | bool (b : Bool)
  | int (n : Int)
  | float (x : Float)
  /-- What is no number though it is of their kind. Two of these are the same only if they have one
  origin. -/
  | nan (origin : Option Nat)
  | text (s : String)
  /-- A text with halves of surrogate pairs in it. -/
  | unpaired (letters : Letters)
  | binary (bytes : Bytes)
  | date (d : Date)
  | moment (m : Moment)
  | list (items : List Value)
  | map (pairs : List (Value × Value))
  | set (items : List Value)
  /-- A key with its value, in an ordered mapping. -/
  | pair (key value : Value)
  /-- A list inside itself. -/
  | sameList
  /-- A mapping inside itself. -/
  | sameMap

namespace Value

/-- The value of a text. -/
def ofLetters (letters : Letters) : Value :=
  match letters.chars? with
  | some cs => text (String.ofList cs)
  | none => unpaired letters

/-- The value of a floating-point number that comes from `origin`. -/
def ofFloat (origin : Nat) (x : Float) : Value := if x.isNaN then nan (some origin) else float x

/-! ## As text -/

/-- One byte in a text of bytes. -/
def byteText (quote : Char) (b : UInt8) : List Char :=
  let c := Char.ofNat b.toNat
  if c = quote || c = '\\' then ['\\', c]
  else if c = '\n' then ['\\', 'n']
  else if c = '\r' then ['\\', 'r']
  else if c = '\t' then ['\\', 't']
  else if 0x20 ≤ b.toNat && b.toNat < 0x7f then [c]
  else '\\' :: 'x' :: Text.hexDigits 2 b.toNat

/-- Bytes in quotes. -/
def bytesShown (bytes : Bytes) : String :=
  let quote := if bytes.contains 0x27 && !bytes.contains 0x22 then '"' else '\''
  String.ofList ('b' :: quote :: bytes.flatMap (byteText quote) ++ [quote])

mutual

/-- A value as it is shown inside another one. -/
def shown : Value → String
  | null => "None"
  | bool b => Text.boolWord b
  | int n => toString n
  | float x => Decimal.render x
  | nan _ => "nan"
  | text s => Text.quoted s
  | unpaired letters => letters.quoted
  | binary bytes => bytesShown bytes
  | date d => d.shown
  | moment m => m.shown
  | list items => "[" ++ ", ".intercalate (shownAll items) ++ "]"
  | map pairs => "\x7b" ++ ", ".intercalate (shownPairs pairs) ++ "\x7d"
  | set [] => "set()"
  | set items => "\x7b" ++ ", ".intercalate (shownAll items) ++ "\x7d"
  | pair key value => "(" ++ shown key ++ ", " ++ shown value ++ ")"
  | sameList => "[...]"
  | sameMap => "\x7b...\x7d"

/-- The values of a list as they are shown inside another one. -/
def shownAll : List Value → List String
  | [] => []
  | v :: rest => shown v :: shownAll rest

/-- The entries of a mapping as they are shown inside another value. -/
def shownPairs : List (Value × Value) → List String
  | [] => []
  | (k, v) :: rest => (shown k ++ ": " ++ shown v) :: shownPairs rest

end

/-- A value as text on its own. A half of a surrogate pair shows as U+FFFD. -/
def words : Value → String
  | text s => s
  | unpaired letters => String.ofList (letters.map fun l => l.char?.getD Utf8.replacement)
  | date d => d.words
  | moment m => m.words
  | v => v.shown

/-- Whether a whole number has more digits than may be written. -/
def isLong (n : Int) : Bool := Nat.pow 10 Text.digitLimit ≤ n.natAbs

mutual

/-- Whether a value holds a whole number with more digits than may be written. -/
def holdsLong : Value → Bool
  | int n => isLong n
  | list items => anyLong items
  | map pairs => anyLongPair pairs
  | set items => anyLong items
  | pair key value => holdsLong key || holdsLong value
  | _ => false

/-- Whether one of several values holds such a number. -/
def anyLong : List Value → Bool
  | [] => false
  | v :: rest => holdsLong v || anyLong rest

/-- Whether one of several entries holds such a number. -/
def anyLongPair : List (Value × Value) → Bool
  | [] => false
  | (k, v) :: rest => holdsLong k || holdsLong v || anyLongPair rest

end

/-- A value as it is shown inside another one, if it can be written. -/
def shownInFull (v : Value) : Except Error String :=
  if v.holdsLong then .error (.invalid (.tooManyDigits none)) else .ok v.shown

/-- The text of a value, if it can be written. -/
def toText : Value → Except Error Value
  | text s => .ok (text s)
  | unpaired letters => .ok (unpaired letters)
  | v => if v.holdsLong then .error (.invalid (.tooManyDigits none)) else .ok (text v.words)

/-- Whether a value counts as none: null, false, zero, or empty. -/
def isFalsy : Value → Bool
  | null => true
  | bool b => !b
  | int n => n == 0
  | float x => x == 0.0
  | text s => s.isEmpty
  | binary bytes => bytes.isEmpty
  | list items => items.isEmpty
  | map pairs => pairs.isEmpty
  | set items => items.isEmpty
  | nan _ | unpaired _ | date _ | moment _ | pair _ _ | sameList | sameMap => false

/-! ## Keys -/

/-- The letters of a text. -/
def letters? : Value → Option Letters
  | text s => some (.ofChars s.toList)
  | unpaired letters => some letters
  | _ => none

/-- Whether a text has a letter of some kind. -/
def hasLetter (v : Value) (p : Letter → Bool) : Bool := (v.letters?.getD []).any p

/-- The whole number that a value is, if it is one: truth values count as zero and one. -/
def integer? : Value → Option Int
  | bool b => some (if b then 1 else 0)
  | int n => some n
  | _ => none

/-- How two numbers compare, whole or not; nothing where one of the values is none. -/
def compareNumbers? (a b : Value) : Option Ordering :=
  match integer? a, integer? b, a, b with
  | some m, some n, _, _ => some (compare m n)
  | some m, _, _, float y => Decimal.compareExact m y
  | _, some n, float x, _ => (Decimal.compareExact n x).map Ordering.swap
  | _, _, float x, float y => some (if x < y then .lt else if x == y then .eq else .gt)
  | _, _, _, _ => none

/-- Whether a value is of the kind of numbers. -/
def isNumeric : Value → Bool
  | bool _ | int _ | float _ | nan _ => true
  | _ => false

/-- Whether two values are one key of a mapping. Only scalars are keys. -/
def sameKey (a b : Value) : Bool :=
  match a, b with
  | null, null => true
  | text s, text t => s == t
  | unpaired s, unpaired t => s == t
  | binary x, binary y => x == y
  | date x, date y => x == y
  | moment x, moment y => x.offset.isSome == y.offset.isSome && x.instant == y.instant
  | nan x, nan y => x == y
  | _, _ => compareNumbers? a b == some .eq

/-- Puts what a key stands for among entries: an equal key keeps its place. -/
def insert {α : Type} (pairs : List (Value × α)) (key : Value) (value : α) : List (Value × α) :=
  if pairs.any (·.1.sameKey key) then
    pairs.map fun p => if p.1.sameKey key then (p.1, value) else p
  else pairs ++ [(key, value)]

/-- What a key that is text stands for among entries. -/
def lookup {α : Type} (pairs : List (Value × α)) (key : String) : Option α :=
  (pairs.find? (·.1.sameKey (text key))).map (·.2)

/-! ## Order -/

/-- Whether one value is less than another, if they can be compared. -/
def less? (a b : Value) : Option Bool :=
  match a, b with
  | binary x, binary y => some (x.map (·.toNat) < y.map (·.toNat))
  | date x, date y => some (x.ordinal < y.ordinal)
  | moment x, moment y =>
    if x.offset.isSome == y.offset.isSome then some (x.instant < y.instant) else none
  | _, _ =>
    match letters? a, letters? b with
    | some s, some t => some (s.codes < t.codes)
    | _, _ => if a.isNumeric && b.isNumeric then some (compareNumbers? a b == some .lt) else none

/-- The values in ascending order, if all of them can be compared. -/
def sorted? (values : List Value) : Option (List Value) :=
  match values with
  | [] => some []
  | first :: rest =>
    if rest.all fun v => (first.less? v).isSome then
      some (values.mergeSort fun a b => !((b.less? a).getD false))
    else none

end Value

end Unbundle
