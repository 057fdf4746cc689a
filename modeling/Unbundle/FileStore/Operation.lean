import Unbundle.FileStore.Basic

/-!
# Operations that change a store

There are three: making a directory, creating a file that must not exist, and writing a file whether
it exists or not. What an operation does to the entries is in `Operation.apply`; if it fails for
what is in the store, nothing is changed. How it is carried out under the conditions of the store is
in `Operation.carryOut`: a mishap may come before anything is done, or leave a file behind that
holds only the first bytes of the content.
-/

namespace Unbundle

/-- A change of a store, by path. -/
inductive Operation
  /-- Makes a directory; nothing may stand at its place. -/
  | makeDirectory (path : String)
  /-- Creates a file; nothing may stand at its place, not even a link that leads nowhere. -/
  | create (path : String) (content : Bytes)
  /-- Gives a file new content, creating it if need be; links are followed. -/
  | overwrite (path : String) (content : Bytes)
  deriving DecidableEq, Repr

namespace Operation

/-- The path that an operation is about. -/
def path : Operation → String
  | makeDirectory path | create path _ | overwrite path _ => path

/-- The store after an operation, or why it fails. -/
def apply (s : FileStore) : Operation → Except Cause FileStore
  | makeDirectory path =>
    match s.spot false path with
    | .error cause => .error cause
    | .ok (.found _ _) => .error (.layout .alreadyExists)
    | .ok (.vacant location _) => .ok (s.set location .directory)
  | create path content =>
    match s.spot false path with
    | .error cause => .error cause
    | .ok (.found _ _) => .error (.layout .alreadyExists)
    | .ok (.vacant _ true) => .error (.layout .isADirectory)
    | .ok (.vacant location false) => .ok (s.set location (.file content))
  | overwrite path content =>
    match s.spot true path with
    | .error cause => .error cause
    | .ok (.found location (.file _)) => .ok (s.set location (.file content))
    | .ok (.found _ _) => .error (.layout .isADirectory)
    | .ok (.vacant _ true) => .error (.layout .isADirectory)
    | .ok (.vacant location false) => .ok (s.set location (.file content))

/-- The part of an operation that is done when a mishap breaks it off: nothing, or the file is there
with the bytes that had arrived. -/
def brokenOff (mishap : Mishap) : Operation → Option Operation
  | makeDirectory _ => none
  | create path content => mishap.arrived.map fun n => create path (content.take n)
  | overwrite path content => mishap.arrived.map fun n => overwrite path (content.take n)

/-- Carries out an operation: the store after it, and why it failed if it did. -/
def carryOut (s : FileStore) (op : Operation) : FileStore × Option Cause :=
  match op.apply s with
  | .error cause => (s, some cause)
  | .ok after =>
    match s.conditions.mishaps.lookup op.path with
    | none => (after, none)
    | some mishap =>
      let left := (op.brokenOff mishap).bind fun part => (part.apply s).toOption
      (left.getD s, some (.trouble mishap.trouble))

/-- The store after an operation that may have failed. -/
def attempt (s : FileStore) (op : Operation) : FileStore := (carryOut s op).1

/-- The store after operations that were carried out one after the other. -/
def replay (s : FileStore) (ops : List Operation) : FileStore := ops.foldl attempt s

end Operation

end Unbundle
