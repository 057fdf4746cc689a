import Unbundle.Text.Utf8

/-!
# Text files

Files that hold text for reading: UTF-8, with line feeds, carriage returns, or both together at the
end of a line. All of them read as a line feed.
-/

namespace Unbundle.Text

/-- A text with one kind of line ending. -/
def unifyNewlines : List Char → List Char
  | '\r' :: '\n' :: rest => '\n' :: unifyNewlines rest
  | '\r' :: rest => '\n' :: unifyNewlines rest
  | c :: rest => c :: unifyNewlines rest
  | [] => []

/-- Reads a file at once. -/
def readWhole (content : Bytes) : Except Utf8.DecodeError (List Char) :=
  (Utf8.decode content).map fun text => unifyNewlines text.toList

end Unbundle.Text
