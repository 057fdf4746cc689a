/-!
# UTF-8

Text is stored as bytes in UTF-8. `encode` writes a text. A byte sequence falls into `pieces`:
characters, and runs of bytes that belong to no character. Reading strictly (`decode`) stops at the
first such run and says where it is and what is wrong with it; reading leniently (`decodeLossy`)
puts one U+FFFD in its place. A run is the longest front of a sequence that could still have become
a character, or else one byte.
-/

namespace Unbundle

/-- Contents of a file, or the encoded form of a text. -/
abbrev Bytes := List UInt8

namespace Utf8

/-- What is wrong with a run of bytes that belongs to no character. -/
inductive Flaw
  /-- The byte can start no character. -/
  | start
  /-- A character has begun, but the next byte does not continue it. -/
  | continuation
  /-- A character has begun, but the input ends. -/
  | truncated
  deriving DecidableEq, Repr

/-- A front part of a byte sequence: a character or a faulty run. -/
inductive Piece
  | char (c : Char)
  | bad (run : Bytes) (flaw : Flaw)
  deriving DecidableEq, Repr

/-- The encoded form of a list of characters. -/
def encodeChars (cs : List Char) : Bytes := cs.flatMap String.utf8EncodeChar

/-- The encoded form of a text. -/
def encode (text : String) : Bytes := encodeChars text.toList

/-- The bytes that a piece stands for. -/
def Piece.bytes : Piece → Bytes
  | .char c => String.utf8EncodeChar c
  | .bad run _ => run

/-- Reads `need` further bytes of a character. The next one lies between `lo` and `hi`, those after
it are plain continuation bytes; `value` holds the bits read so far and `seen` the bytes. Gives the
piece and how many of the further bytes it takes. -/
def follow : (need : Nat) → (lo hi value : Nat) → (seen : Bytes) → Bytes → Piece × Nat
  | 0, _, _, value, seen, _ => (.char (Char.ofNat value), seen.length - 1)
  | _ + 1, _, _, _, seen, [] => (.bad seen .truncated, seen.length - 1)
  | need + 1, lo, hi, value, seen, b :: rest =>
    if lo ≤ b.toNat && b.toNat ≤ hi then
      follow need 0x80 0xbf (value * 64 + b.toNat % 64) (seen ++ [b]) rest
    else (.bad seen .continuation, seen.length - 1)

/-- The piece that starts with byte `b`, and how many of the bytes after `b` it takes. -/
def front (b : UInt8) (rest : Bytes) : Piece × Nat :=
  let n := b.toNat
  if n < 0x80 then (.char (Char.ofNat n), 0)
  else if n < 0xc2 then (.bad [b] .start, 0)
  else if n < 0xe0 then follow 1 0x80 0xbf (n % 32) [b] rest
  else if n < 0xf0 then
    follow 2 (if n = 0xe0 then 0xa0 else 0x80) (if n = 0xed then 0x9f else 0xbf) (n % 16) [b] rest
  else if n < 0xf5 then
    follow 3 (if n = 0xf0 then 0x90 else 0x80) (if n = 0xf4 then 0x8f else 0xbf) (n % 8) [b] rest
  else (.bad [b] .start, 0)

/-- The pieces of a byte sequence, from the front. -/
def pieces : Bytes → List Piece
  | [] => []
  | b :: rest => (front b rest).1 :: pieces (rest.drop (front b rest).2)
termination_by bytes => bytes.length
decreasing_by simp only [List.length_drop, List.length_cons]; omega

/-- Where strict reading stopped: the faulty run, its position and its flaw. -/
structure DecodeError where
  position : Nat
  run : Bytes
  flaw : Flaw
  deriving DecidableEq, Repr

/-- The characters of a list of pieces; `position` is where the first piece starts. -/
def charsOf (position : Nat) : List Piece → Except DecodeError (List Char)
  | [] => .ok []
  | .bad run flaw :: _ => .error ⟨position, run, flaw⟩
  | .char c :: rest => (charsOf (position + (String.utf8EncodeChar c).length) rest).map (c :: ·)

/-- Reads a byte sequence strictly. -/
def decode (bytes : Bytes) : Except DecodeError String :=
  (charsOf 0 (pieces bytes)).map String.ofList

/-- The character that stands for a faulty run. -/
def replacement : Char := '�'

/-- The character that a piece shows when reading leniently. -/
def Piece.lossyChar : Piece → Char
  | .char c => c
  | .bad _ _ => replacement

/-- Reads a byte sequence, writing U+FFFD for each faulty run. -/
def decodeLossy (bytes : Bytes) : String := String.ofList ((pieces bytes).map Piece.lossyChar)

/-- The byte order mark. -/
def byteOrderMark : Bytes := [0xef, 0xbb, 0xbf]

/-- A text as file contents, after a byte order mark if one is asked for. -/
def encodeFile (text : String) (bom : Bool) : Bytes :=
  if bom then byteOrderMark ++ encode text else encode text

/-- Splits a leading byte order mark off file contents. -/
def splitMark (bytes : Bytes) : Bool × Bytes :=
  if byteOrderMark.isPrefixOf bytes then (true, bytes.drop byteOrderMark.length) else (false, bytes)

/-- Reads file contents strictly: the text, and whether a byte order mark stood before it. -/
def decodeFile (bytes : Bytes) : Except DecodeError (String × Bool) :=
  (decode (splitMark bytes).2).map (·, (splitMark bytes).1)

/-- The two lower-case hexadecimal digits of a byte. -/
def hexByte (b : UInt8) : String :=
  String.ofList [Nat.digitChar (b.toNat / 16), Nat.digitChar (b.toNat % 16)]

/-- The words for a flaw. -/
def Flaw.message : Flaw → String
  | .start => "invalid start byte"
  | .continuation => "invalid continuation byte"
  | .truncated => "unexpected end of data"

/-- The words for a decoding error. -/
def DecodeError.message (e : DecodeError) : String :=
  let place := match e.run with
    | [b] => s!"byte 0x{hexByte b} in position {e.position}"
    | run => s!"bytes in position {e.position}-{e.position + run.length - 1}"
  s!"'utf-8' codec can't decode {place}: {e.flaw.message}"

end Utf8

end Unbundle
