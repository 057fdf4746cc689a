import Unbundle.Text.Blank
import Unbundle.Text.Quoted

/-!
# Paths

A path is the names on the way, from the root or from the working directory. Empty names and the
name `.` vanish when a path is read; `..` stays. Exactly two leading slashes are a root of their
own.
-/

namespace Unbundle

/-- Where a path starts. -/
inductive PathRoot
  | relative
  | slash
  | doubleSlash
  deriving DecidableEq, Repr

/-- The leading slashes of a path. -/
def PathRoot.text : PathRoot → String
  | .relative => ""
  | .slash => "/"
  | .doubleSlash => "//"

/-- A path: its root and the names on the way. -/
structure Path where
  root : PathRoot := .relative
  parts : List String := []
  deriving DecidableEq, Repr

namespace Path

/-- The root that a text spells. -/
def rootOf : List Char → PathRoot
  | '/' :: '/' :: '/' :: _ => .slash
  | '/' :: '/' :: _ => .doubleSlash
  | '/' :: _ => .slash
  | _ => .relative

/-- The names that a text spells between its slashes. -/
def partsOf (cs : List Char) : List String :=
  ((Text.fields (· == '/') cs).map String.ofList).filter fun name => name != "" && name != "."

/-- Reads a path. -/
def ofString (text : String) : Path := ⟨rootOf text.toList, partsOf text.toList⟩

/-- A path as text; the empty relative path is `.`. -/
protected def toString (p : Path) : String :=
  match p.root, p.parts with
  | .relative, [] => "."
  | root, parts => root.text ++ "/".intercalate parts

instance : ToString Path := ⟨Path.toString⟩

/-- The path that `text` spells when read from `p`: an absolute one stands alone. -/
def join (p : Path) (text : String) : Path :=
  let q := ofString text
  match q.root with
  | .relative => ⟨p.root, p.parts ++ q.parts⟩
  | _ => q

/-- The last name, or nothing for a path without names. -/
def name (p : Path) : String := p.parts.getLast?.getD ""

/-- The path without its last name. -/
def parent (p : Path) : Path := { p with parts := p.parts.dropLast }

/-- The last name from its last dot on, unless that dot is the first or the last character. -/
def suffix (p : Path) : String :=
  let cs := p.name.toList
  let tail := Text.afterLast '.' cs
  if cs.contains '.' && !tail.isEmpty && tail.length + 1 < cs.length then
    String.ofList ('.' :: tail)
  else ""

/-- A path shown as a value. -/
def shown (p : Path) : String := s!"PosixPath({Text.quoted p.toString})"

/-- Why a path cannot be given another last name. -/
inductive NameError
  /-- The path has no last name. -/
  | empty (path : Path)
  /-- The new text is not one name. -/
  | invalid (name : String)
  deriving DecidableEq, Repr

/-- The words for a naming error. -/
def NameError.message : NameError → String
  | .empty path => s!"{path.shown} has an empty name"
  | .invalid name => s!"Invalid name {Text.quoted name}"

/-- The path with its last name replaced by `name`. -/
def withName (p : Path) (name : String) : Except NameError Path :=
  if p.name.isEmpty then .error (.empty p)
  else if name.endsWith "/" || rootOf name.toList != .relative ||
      (partsOf name.toList).length != 1 then
    .error (.invalid name)
  else .ok { p with parts := p.parts.dropLast ++ [name] }

end Path

end Unbundle
