import Unbundle.FileStore.Fault
import Unbundle.Path
import Unbundle.Text.Utf8

/-!
# File stores

A store holds directories, files and symbolic links at locations. A path is followed name by name
from the root or from the working directory; links on the way are followed, up to a limit. All rules
for finding the spot that a path names are in `FileStore.walk`.

A store is used under conditions: a path may be barred, the file that it leads to may not be
readable, and writing there may break off. They stay as they are, whatever is done to the store.
-/

namespace Unbundle

/-- A place in a store: the names from the root, none of them a link, `.` or `..`. -/
abbrev Location := List String

/-- What can stand at a location. -/
inductive Entry
  | directory
  | file (content : Bytes)
  | link (target : String)
  deriving DecidableEq, Repr

/-- A trouble that befalls what is made or written at a path. -/
structure Mishap where
  trouble : Trouble
  /-- How many bytes had arrived in the file by then, if it was touched at all. -/
  arrived : Option Nat := none
  deriving DecidableEq, Repr

/-- What a file is read for. -/
inductive Purpose
  /-- For what it says. -/
  | use
  /-- To be copied. -/
  | copy
  /-- To be compared with another file. -/
  | compare
  deriving DecidableEq, Repr

/-- The conditions that a store is used under. -/
structure Conditions where
  /-- The paths that cannot be followed. -/
  barred : List (String × Trouble) := []
  /-- The paths whose files cannot be read, and what for. -/
  unreadable : List ((Purpose × String) × Trouble) := []
  /-- The paths at which nothing can be made or written as it should be. -/
  mishaps : List (String × Mishap) := []
  /-- How many directories may be missing, one above the other, when one is made. -/
  maxMissing : Nat := 990
  deriving DecidableEq, Repr

/-- The directories, files and links there are, the directory that relative paths start from, and
the conditions that all this is used under. -/
structure FileStore where
  workingDir : Location := []
  entries : List (Location × Entry) := []
  conditions : Conditions := {}
  deriving DecidableEq, Repr

/-- Where a path leads. -/
inductive Spot
  /-- To something that is there. -/
  | found (location : Location) (entry : Entry)
  /-- To a free place in a directory; `slash` says that the path ended in a slash. -/
  | vacant (location : Location) (slash : Bool)
  deriving DecidableEq, Repr

namespace FileStore

/-- What stands at a location; the root is a directory. -/
def get? (s : FileStore) (location : Location) : Option Entry :=
  if location = [] then some .directory else s.entries.lookup location

/-- The store with `entry` at `location`. -/
def set (s : FileStore) (location : Location) (entry : Entry) : FileStore :=
  { s with entries := (location, entry) :: s.entries.filter (·.1 != location) }

/-- The names in a path, with an empty one at the end if it ends in a slash. -/
def namesIn (path : List Char) : List String :=
  let names := ((Text.fields (· == '/') path).filter (!·.isEmpty)).map String.ofList
  if path.getLast? == some '/' then names ++ [""] else names

/-- The most bytes that a name may have. -/
def maxNameSize : Nat := 255

/-- The least size in bytes of a path that is too long. -/
def pathSizeLimit : Nat := 4096

/-- How many links may be followed on one way. -/
def maxLinks : Nat := 40

/-- Follows names from the directory `here`. Links on the way are left to `jump`, which is told
where to go on and with which names; a link at the very end is followed only if `follow` says so. -/
def walkTo (s : FileStore) (follow : Bool) (jump : Location → List String → Except FaultKind Spot)
    (here : Location) : List String → Except FaultKind Spot
  | [] =>
    match s.get? here with
    | some entry => .ok (.found here entry)
    | none => .error .notFound
  | name :: rest =>
    match s.get? here with
    | none => .error .notFound
    | some (.file _) | some (.link _) => .error .notADirectory
    | some .directory =>
      if name = "" || name = "." then s.walkTo follow jump here rest
      else if name = ".." then s.walkTo follow jump here.dropLast rest
      else if maxNameSize < name.utf8ByteSize then .error .nameTooLong
      else
        let next := here ++ [name]
        match s.get? next with
        | none =>
          if rest.isEmpty then .ok (.vacant next false)
          else if rest = [""] then .ok (.vacant next true)
          else .error .notFound
        | some (.link target) =>
          if rest.isEmpty && !follow then .ok (.found next (.link target))
          else jump (if target.startsWith "/" then [] else here) (namesIn target.toList ++ rest)
        | some _ => s.walkTo follow jump next rest

/-- Follows names from a directory; at most `links` links are followed. -/
def walk (s : FileStore) (follow : Bool) :
    (links : Nat) → Location → List String → Except FaultKind Spot
  | 0 => s.walkTo follow fun _ _ => .error .tooManyLinks
  | links + 1 => s.walkTo follow (s.walk follow links)

/-- The spot that a path names. -/
def spot (s : FileStore) (follow : Bool) (path : String) : Except Cause Spot :=
  if path.isEmpty then .error (.layout .notFound)
  else if pathSizeLimit ≤ path.utf8ByteSize then .error (.layout .nameTooLong)
  else
    match s.conditions.barred.lookup path with
    | some trouble => .error (.trouble trouble)
    | none =>
      let start := if path.startsWith "/" then [] else s.workingDir
      (s.walk follow maxLinks start (namesIn path.toList)).mapError .layout

/-- What a path names when links are followed, and where it is. -/
def stat (s : FileStore) (path : String) : Except Cause (Location × Entry) :=
  match s.spot true path with
  | .ok (.found location entry) => .ok (location, entry)
  | .ok (.vacant _ _) => .error (.layout .notFound)
  | .error cause => .error cause

/-- The content of the file that a path names. -/
def read (s : FileStore) (path : String) : Except Cause Bytes :=
  match s.stat path with
  | .ok (_, .file content) => .ok content
  | .ok (_, _) => .error (.layout .isADirectory)
  | .error cause => .error cause

/-- Reads the file that a path names for a purpose, if that can be done. -/
def fetch (s : FileStore) (purpose : Purpose) (path : String) : Except Cause Bytes :=
  match s.conditions.unreadable.lookup (purpose, path), s.read path with
  | some trouble, .ok _ => .error (.trouble trouble)
  | _, content => content

/-- Whether a path can be given to the store at all: it holds no NUL. -/
def acceptable (path : String) : Bool := !path.toList.contains '\x00'

/-- Whether a path leads to something; every fault means that it does not. -/
def leadsSomewhere (s : FileStore) (path : String) : Bool :=
  acceptable path && (s.stat path).isOk

/-- Whether a path leads to a directory; every fault means that it does not. -/
def leadsToDirectory (s : FileStore) (path : String) : Bool :=
  acceptable path &&
    match s.stat path with
    | .ok (_, .directory) => true
    | _ => false

/-- What a path names, if anything. Names that are too long and troubles are faults; a path that
cannot be followed for another reason names nothing. -/
def probe (s : FileStore) (path : Path) : Except Fault (Option Entry) :=
  if !acceptable path.toString then .ok none
  else
    match s.stat path.toString with
    | .ok (_, entry) => .ok (some entry)
    | .error cause =>
      if cause.kind = .nameTooLong then .error ⟨cause, path.toString⟩ else .ok none

end FileStore

end Unbundle
