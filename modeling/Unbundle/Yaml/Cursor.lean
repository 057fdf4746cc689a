import Unbundle.Error
import Unbundle.Text.Stream

/-!
# Reading position in a YAML stream

The rest of the stream and where it starts. Lines end at line feeds, carriage returns, and the
breaks U+0085, U+2028 and U+2029. The end of the stream shows as NUL, which no stream may hold.

A stream is taken in load by load. If a load cannot be taken in, the stream ends before it, and the
failure comes up once something behind that end is needed.
-/

namespace Unbundle.Yaml

/-- Why a stream has no value: it is malformed, or a scalar in it fails on its own. -/
inductive Failure
  | malformed
  | error (error : Error)

/-- Characters that a stream may hold. -/
def isAllowed (c : Char) : Bool :=
  let n := c.toNat
  n == 0x09 || n == 0x0a || n == 0x0d || (0x20 ≤ n && n ≤ 0x7e) || n == 0x85
    || (0xa0 ≤ n && n != 0xfffe && n != 0xffff)

/-- A place in a stream. -/
structure Cursor where
  rest : List Char
  index : Nat := 0
  line : Nat := 0
  column : Nat := 0
  /-- How many characters the stream has. -/
  size : Nat := rest.length
  /-- Why what comes after the rest cannot be taken in. -/
  fault : Option Failure := none

/-- The characters of a stream that comes in loads, and why there are no more of them. -/
def readable : List (Except Utf8.DecodeError (List Char)) → List Char × Option Failure
  | [] => ([], none)
  | .error e :: _ => ([], some (.error (.undecodable e)))
  | .ok load :: others =>
    if load.all isAllowed then
      let (more, fault) := readable others
      (load ++ more, fault)
    else ([], some .malformed)

/-- The start of a stream that comes in loads. -/
def Cursor.ofLoads (loads : List (Except Utf8.DecodeError (List Char))) : Cursor :=
  let (rest, fault) := readable loads
  { rest, fault }

/-- What the end of the stream shows as. -/
def streamEnd : Char := '\x00'

/-- Characters that end a line. -/
def isBreak (c : Char) : Bool :=
  c == '\n' || c == '\r' || c.toNat == 0x85 || c.toNat == 0x2028 || c.toNat == 0x2029

/-- The end of a line or of the stream. -/
def isBreakOrEnd (c : Char) : Bool := c == streamEnd || isBreak c

/-- A space, or the end of a line or of the stream. -/
def isSpaceOrEnd (c : Char) : Bool := c == ' ' || isBreakOrEnd c

/-- A space, a tab, or the end of a line or of the stream. -/
def isGapOrEnd (c : Char) : Bool := c == '\t' || isSpaceOrEnd c

/-- Letters, digits, the hyphen and the underscore, of ASCII. -/
def isWordChar (c : Char) : Bool := c.isAlphanum || c == '-' || c == '_'

namespace Cursor

/-- How many characters are left. -/
def left (c : Cursor) : Nat := c.size - c.index

/-- The character `k` places ahead. -/
def peekAt (c : Cursor) (k : Nat) : Char := (c.rest.drop k).headD streamEnd

/-- The next character. -/
def peek (c : Cursor) : Char := c.rest.headD streamEnd

/-- The next `n` characters. -/
def ahead (c : Cursor) (n : Nat) : List Char := c.rest.take n

/-- The cursor behind the next character. -/
def next (c : Cursor) : Cursor :=
  match c.rest with
  | [] => c
  | ch :: rest =>
    if isBreak ch && !(ch == '\r' && rest.head? == some '\n') then
      { c with rest, index := c.index + 1, line := c.line + 1, column := 0 }
    else if ch.toNat == 0xfeff then { c with rest, index := c.index + 1 }
    else { c with rest, index := c.index + 1, column := c.column + 1 }

/-- The cursor behind the next `n` characters. -/
def skip (c : Cursor) : Nat → Cursor
  | 0 => c
  | n + 1 => c.next.skip n

/-- The next characters that satisfy `p`, and the cursor behind them. -/
def takeRun (c : Cursor) (p : Char → Bool) : List Char × Cursor :=
  let run := c.rest.takeWhile p
  (run, c.skip run.length)

/-- The cursor behind the next characters that satisfy `p`. -/
def skipRun (c : Cursor) (p : Char → Bool) : Cursor := (c.takeRun p).2

/-- Reads a line break, if one is next: what it means, and the cursor behind it. -/
def lineBreak (c : Cursor) : List Char × Cursor :=
  let ch := c.peek
  if ch == '\r' && c.peekAt 1 == '\n' then (['\n'], c.skip 2)
  else if ch == '\r' || ch == '\n' || ch.toNat == 0x85 then (['\n'], c.next)
  else if isBreak ch then ([ch], c.next)
  else ([], c)

/-- Whether a line that starts here is a mark between documents. -/
def atDocumentMark (c : Cursor) : Bool :=
  (c.ahead 3 == ['-', '-', '-'] || c.ahead 3 == ['.', '.', '.']) && isGapOrEnd (c.peekAt 3)

/-- What failed if reading stops here: the next load, if it was needed, or the form of the
stream. -/
def failure (c : Cursor) : Failure := if c.rest.isEmpty then c.fault.getD .malformed else .malformed

/-- Stops reading here. -/
def refuse {α : Type} (c : Cursor) : Except Failure α := .error c.failure

/-- Fails if the next load is needed here and cannot be taken in. -/
def check (c : Cursor) : Except Failure Unit :=
  if c.rest.isEmpty && c.fault.isSome then c.refuse else .ok ()

/-- The cursor behind a comment, if one is next. -/
def skipComment (c : Cursor) : Cursor :=
  if c.peek == '#' then c.skipRun (!isBreakOrEnd ·) else c

/-- The cursor behind the spaces, the comment and the line break that end a line; nothing else may
stand there. -/
def endOfLine (c : Cursor) : Except Failure Cursor :=
  let c := (c.skipRun (· == ' ')).skipComment
  if isBreakOrEnd c.peek then .ok c.lineBreak.2 else c.refuse

end Cursor

end Unbundle.Yaml
