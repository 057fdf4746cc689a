import Unbundle.Text.File

/-!
# Streams of text

A large file of text is not read at once. Its bytes come in portions, which are decoded one by one;
its characters are given out in pieces of a fixed size. So a flaw in the bytes shows only when the
portion with it is needed, and its position is counted in that portion, behind what the portion
before it left over: the front of a character that was cut off. All line endings read as a line
feed.
-/

namespace Unbundle.Text

/-- How far a file has been read. -/
structure Stream where
  /-- The bytes that have not been read. -/
  rest : Bytes
  /-- The front of a character at the end of the last portion. -/
  carry : Bytes := []
  /-- Whether the last portion ended in a carriage return, which a line feed may follow. -/
  heldReturn : Bool := false
  /-- How many bytes a character took in the last portion. -/
  ratio : Float := 0.0
  /-- The characters that have been read and not given out. -/
  ready : List Char := []

namespace Stream

/-- How many bytes a portion has at least. -/
def portionSize : Nat := 8192

/-- How many characters a piece has. -/
def pieceSize : Nat := 4096

/-- Whether a flaw may be the front of a character that was cut off: nothing follows, or two bytes
are left that begin half of a surrogate pair. -/
def isCutOff (data : Bytes) (e : Utf8.DecodeError) : Bool :=
  e.flaw = .truncated ||
    (e.run = [0xed] && data.length = e.position + 2 &&
      data.getLast?.any fun b => 0xa0 ≤ b && b ≤ 0xbf)

/-- The characters of a portion, and what it leaves over for the next one. The last portion leaves
nothing. -/
def decodePortion (data : Bytes) (last : Bool) : Except Utf8.DecodeError (List Char × Bytes) :=
  match Utf8.decode data with
  | .ok text => .ok (text.toList, [])
  | .error e =>
    if !last && isCutOff data e then
      (Utf8.decode (data.take e.position)).map fun text => (text.toList, data.drop e.position)
    else .error e

/-- Reads the next portion, when `missing` characters are asked for. A portion without bytes is the
last one. -/
def readPortion (s : Stream) (missing : Nat) : Except Utf8.DecodeError Stream := do
  let portion := s.rest.take (max portionSize (s.ratio * missing.toFloat).toUInt64.toNat)
  let last := portion.isEmpty
  let (decoded, carry) ← decodePortion (s.carry ++ portion) last
  let decoded := if s.heldReturn && (last || !decoded.isEmpty) then '\r' :: decoded else decoded
  let heldReturn :=
    if decoded.isEmpty then s.heldReturn && !last else !last && decoded.getLast? == some '\r'
  let chars := unifyNewlines (if heldReturn then decoded.dropLast else decoded)
  return {
    rest := s.rest.drop portion.length
    carry, heldReturn
    ratio := if chars.isEmpty then 0.0 else portion.length.toFloat / chars.length.toFloat
    ready := s.ready ++ chars }

/-- Reads portions until a piece is ready or the file has ended. -/
def fill : Nat → Stream → Except Utf8.DecodeError Stream
  | 0, s => .ok s
  | fuel + 1, s =>
    if pieceSize ≤ s.ready.length then .ok s
    else do
      let next ← s.readPortion (pieceSize - s.ready.length)
      if s.rest.isEmpty && next.ready.length = s.ready.length then return next else fill fuel next

/-- Gives out the next piece; only a file that has ended gives none. -/
def takePiece (s : Stream) : Except Utf8.DecodeError (List Char × Stream) := do
  let s ← s.fill (s.rest.length + 3)
  return (s.ready.take pieceSize, { s with ready := s.ready.drop pieceSize })

/-- The pieces from here on; a flaw ends them. -/
def pieces : Nat → Stream → List (Except Utf8.DecodeError (List Char))
  | 0, _ => []
  | fuel + 1, s =>
    match s.takePiece with
    | .error e => [.error e]
    | .ok ([], _) => []
    | .ok (piece, s) => .ok piece :: pieces fuel s

end Stream

/-- The loads in which a file is taken in: the first is made of two pieces, each other of one. A
flaw ends them. -/
def loads (content : Bytes) : List (Except Utf8.DecodeError (List Char)) :=
  match Stream.pieces (content.length + 1) { rest := content } with
  | .ok _ :: .error e :: _ => [.error e]
  | .ok first :: .ok second :: rest => .ok (first ++ second) :: rest
  | pieces => pieces

end Unbundle.Text
