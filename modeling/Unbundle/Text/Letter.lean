import Unbundle.Text.Lowercase
import Unbundle.Text.Quoted

/-!
# Letters

A text can be written with escapes for single codes, and such an escape may name one half of a
surrogate pair, which is no character. The letters of such a text are its characters and its halves.
Two halves side by side stay two letters.
-/

namespace Unbundle

/-- A character, or one half of a surrogate pair on its own. -/
inductive Letter
  | char (c : Char)
  | half (code : Nat)
  deriving DecidableEq, Repr

namespace Letter

/-- The letter with a code that is in range. -/
def ofCode (code : Nat) : Letter :=
  if 0xd800 ≤ code && code ≤ 0xdfff then half code else char (Char.ofNat code)

/-- The code of a letter. -/
def code : Letter → Nat
  | char c => c.toNat
  | half code => code

/-- The character that a letter is, if it is one. -/
def char? : Letter → Option Char
  | char c => some c
  | half _ => none

/-- Whether a letter is half of a surrogate pair. -/
def isHalf (l : Letter) : Bool := l.char?.isNone

/-- Whether a letter is a half that stands for no byte. In a path the other halves, from U+DC80 to
U+DCFF, stand for the bytes from 80 to FF. -/
def isStray : Letter → Bool
  | char _ => false
  | half code => !(0xdc80 ≤ code && code ≤ 0xdcff)

/-- Whether a letter is this character. -/
def isChar (l : Letter) (c : Char) : Bool := l == char c

/-- One letter of a quoted text. -/
def escaped (quote : Char) : Letter → List Char
  | char c => Text.escapeChar quote c
  | half code => '\\' :: 'u' :: Text.hexDigits 4 code

end Letter

/-- A text that may hold halves of surrogate pairs. -/
abbrev Letters := List Letter

namespace Letters

/-- Characters as letters. -/
def ofChars (cs : List Char) : Letters := cs.map .char

/-- The characters of a text, if it has no halves. -/
def chars? (ls : Letters) : Option (List Char) := ls.mapM Letter.char?

/-- The characters that are in a text. -/
def chars (ls : Letters) : List Char := ls.filterMap Letter.char?

/-- A text in quotes. -/
def quoted (ls : Letters) : String :=
  let quote := Text.quoteFor ls.chars
  String.ofList (quote :: ls.flatMap (Letter.escaped quote) ++ [quote])

/-- The codes of a text. Texts are ordered by them. -/
def codes (ls : Letters) : List Nat := ls.map Letter.code

/-- The fields of a text between the letters that are the character `sep`; there is always at least
one. -/
def fields (sep : Char) : Letters → List Letters
  | [] => [[]]
  | l :: ls =>
    if l.isChar sep then [] :: fields sep ls
    else match fields sep ls with
      | [] => [[l]]
      | field :: others => (l :: field) :: others

/-- The lower case of a text; `run` holds the characters before it, nearest first, up to a half. A
half has no case. -/
def lowerFrom (run : List Char) : Letters → Letters
  | [] => ofChars (Text.lowerChars run.reverse)
  | .char c :: rest => lowerFrom (c :: run) rest
  | .half code :: rest => ofChars (Text.lowerChars run.reverse) ++ .half code :: lowerFrom [] rest

/-- The lower case of a text. -/
def lower (ls : Letters) : Letters := lowerFrom [] ls

end Letters

end Unbundle
