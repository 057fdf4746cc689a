import Unbundle.Text.Blank
import Unbundle.Text.WordTable

/-!
# Shortening a text to a width

A text is put on one line of at most `width` characters. Its words are joined by single spaces and
fall into chunks at the spaces and after hyphens between letters. Chunks are laid on the line while
they fit; a chunk that would not fit on any line is cut. If something is left over, chunks are taken
away again until an ellipsis fits.
-/

namespace Unbundle.Text

/-- What marks a shortened text. -/
def ellipsis : List Char := ['…']

/-- Characters after which a dash between words may stand. -/
def isWordEdge (c : Char) : Bool :=
  isWordChar c || ['!', '"', '\'', '&', '.', ',', '?'].contains c

/-- Whether a run of two or more hyphens and then a word character come next. -/
def dashAhead (cs : List Char) : Bool :=
  2 ≤ (cs.takeWhile (· == '-')).length &&
    match cs.dropWhile (· == '-') with
    | [] => false
    | c :: _ => isWordChar c

/-- Whether two letters come next, perhaps with a hyphen between them. -/
def lettersAhead : List Char → Bool
  | a :: '-' :: b :: _ => isWordLetter a && isWordLetter b
  | a :: b :: _ => isWordLetter a && isWordLetter b
  | _ => false

/-- Whether two letters, or two letters each followed by a hyphen, stand before a hyphen; `before`
is what comes before the hyphen, nearest first. -/
def lettersBehind : List Char → Bool
  | a :: '-' :: b :: _ => isWordLetter a && isWordLetter b
  | a :: b :: _ => isWordLetter a && isWordLetter b
  | _ => false

/-- Whether the character nearest before is one after which a dash may stand. -/
def edgeBehind : List Char → Bool
  | [] => false
  | c :: _ => isWordEdge c

/-- The rest of a chunk that has begun. `before` is all the text before `cs`, nearest first. Gives
what the chunk takes of `cs`. A chunk ends behind a hyphen between letters, at a space, and before a
dash. -/
def chunkRest (before : List Char) : List Char → List Char
  | [] => []
  | c :: cs =>
    if c == '-' && lettersBehind before && lettersAhead cs then [c]
    else if c == ' ' then []
    else if edgeBehind before && dashAhead (c :: cs) then []
    else c :: chunkRest (c :: before) cs

/-- What the chunk after its first character `c` takes. -/
def chunkTail (before : List Char) (c : Char) (cs : List Char) : List Char :=
  if c == ' ' then cs.takeWhile (· == ' ')
  else if edgeBehind before && dashAhead (c :: cs) then cs.takeWhile (· == '-')
  else chunkRest (c :: before) cs

/-- The chunks of a text that stands behind `before`, nearest first. -/
def chunksFrom (before : List Char) : List Char → List (List Char)
  | [] => []
  | c :: cs =>
    let tail := chunkTail before c cs
    (c :: tail) :: chunksFrom (tail.reverse ++ c :: before) (cs.drop tail.length)
termination_by cs => cs.length
decreasing_by simp only [List.length_drop, List.length_cons]; omega

/-- Lays chunks on a line of which `used` characters are taken, while they fit; gives the chunks on
the line and those left over. -/
def layChunks (width used : Nat) : List (List Char) → List (List Char) × List (List Char)
  | [] => ([], [])
  | chunk :: rest =>
    if used + chunk.length ≤ width then
      let (line, left) := layChunks width (used + chunk.length) rest
      (chunk :: line, left)
    else ([], chunk :: rest)

/-- How many characters of an overlong chunk go on a line with `room` characters left: up to the
last hyphen among them if something else stands before it, else all that fit. -/
def cutLength (room : Nat) (chunk : List Char) : Nat :=
  let upToHyphen := ((chunk.take room).reverse.dropWhile (· != '-')).length
  if room < chunk.length && (chunk.take (upToHyphen - 1)).any (· != '-') then upToHyphen else room

/-- Takes chunks off the end of a line, last first, until the last one is not blank and the ellipsis
fits. -/
def closeLine (width : Nat) : List (List Char) → List Char
  | [] => ellipsis
  | last :: before =>
    if !(trim last).isEmpty && (last :: before).flatten.length + ellipsis.length ≤ width then
      (last :: before).reverse.flatten ++ ellipsis
    else closeLine width before

/-- Drops a blank chunk from the end of a line. -/
def dropBlankLast (line : List (List Char)) : List (List Char) :=
  match line.getLast? with
  | some last => if (trim last).isEmpty then line.dropLast else line
  | none => line

/-- A text on one line of `width` characters; `width` is at least one. -/
def shortenChars (width : Nat) (text : List Char) : List Char :=
  let joined := [' '].intercalate (words text)
  let (line, left) := layChunks width 0 (chunksFrom [] joined)
  let used := line.flatten.length
  match left with
  | [] => (dropBlankLast line).flatten
  | next :: rest =>
    if width < next.length then
      let cut := cutLength (width - used) next
      let line := dropBlankLast (line ++ [next.take cut])
      closeLine width line.reverse
    else if rest.isEmpty && (trim next).isEmpty then (dropBlankLast line).flatten
    else closeLine width (dropBlankLast line).reverse

/-- A text on one line of `width` characters, or nothing if there is no room for any. -/
def shorten? (width : Int) (text : String) : Option String :=
  if 0 < width then some (String.ofList (shortenChars width.toNat text.toList)) else none

end Unbundle.Text
