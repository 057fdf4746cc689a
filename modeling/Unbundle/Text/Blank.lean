/-!
# Blanks and rows

Which characters are blank, how blanks are trimmed from the ends of a text, how a text falls into
words and how it falls into fields at a separator. Everything is stated on lists of characters.
-/

namespace Unbundle.Text

/-- Blanks: the ASCII blanks and separators, and the spaces of other scripts. The zero-width space,
the byte order mark and NUL are not blank. -/
def isBlank (c : Char) : Bool :=
  let n := c.toNat
  (0x09 ≤ n && n ≤ 0x0d) || (0x1c ≤ n && n ≤ 0x20) || n == 0x85 || n == 0xa0 || n == 0x1680
    || (0x2000 ≤ n && n ≤ 0x200a) || n == 0x2028 || n == 0x2029 || n == 0x202f || n == 0x205f
    || n == 0x3000

/-- Characters that end a line of running text. Each of them is blank. -/
def isLineBreak (c : Char) : Bool :=
  let n := c.toNat
  (0x0a ≤ n && n ≤ 0x0d) || (0x1c ≤ n && n ≤ 0x1e) || n == 0x85 || n == 0x2028 || n == 0x2029

/-- A text without the blanks at its front. -/
def trimStart (cs : List Char) : List Char := cs.dropWhile isBlank

/-- A text without the blanks at its end. -/
def trimEnd (cs : List Char) : List Char := (cs.reverse.dropWhile isBlank).reverse

/-- A text without the blanks at both ends. -/
def trim (cs : List Char) : List Char := trimEnd (trimStart cs)

/-- The fields of a text between the characters that satisfy `sep`; there is always at least one. -/
def fields (sep : Char → Bool) : List Char → List (List Char)
  | [] => [[]]
  | c :: cs =>
    if sep c then [] :: fields sep cs
    else match fields sep cs with
      | [] => [[c]]
      | w :: ws => (c :: w) :: ws

/-- The rows of a text: the pieces between its line feeds. -/
def rows (cs : List Char) : List (List Char) := fields (· == '\n') cs

/-- The words of a text: its longest runs of characters that are not blank. -/
def words (cs : List Char) : List (List Char) := (fields isBlank cs).filter (!·.isEmpty)

/-- The rows joined by line feeds. -/
def joinRows : List (List Char) → List Char
  | [] => []
  | [row] => row
  | row :: next :: rest => row ++ '\n' :: joinRows (next :: rest)

/-- What follows the last `sep` of a text, or the whole text if it has none. -/
def afterLast (sep : Char) (cs : List Char) : List Char :=
  (cs.reverse.takeWhile (· != sep)).reverse

/-- Whether `needle` occurs in a text. -/
def contains (needle : List Char) : List Char → Bool
  | [] => needle.isEmpty
  | c :: cs => needle.isPrefixOf (c :: cs) || contains needle cs

/-- The text with every occurrence of one character replaced by a string of characters. -/
def substitute (c : Char) (text : List Char) (cs : List Char) : List Char :=
  cs.flatMap fun d => if d == c then text else [d]

end Unbundle.Text
