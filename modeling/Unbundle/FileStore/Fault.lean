import Unbundle.Text.Quoted

/-!
# Faults of file operations

Why an operation on files failed, and at which path. Some reasons lie in what is in a store. The
others are troubles of the system, which can come up anywhere.
-/

namespace Unbundle

/-- The reasons for a fault that lie in what is in a store. -/
inductive FaultKind
  | notFound
  | alreadyExists
  | notADirectory
  | isADirectory
  | nameTooLong
  | tooManyLinks
  deriving DecidableEq, Repr

/-- The number of a reason. -/
def FaultKind.code : FaultKind → Nat
  | .notFound => 2
  | .alreadyExists => 17
  | .notADirectory => 20
  | .isADirectory => 21
  | .nameTooLong => 36
  | .tooManyLinks => 40

/-- The words for a reason. -/
def FaultKind.words : FaultKind → String
  | .notFound => "No such file or directory"
  | .alreadyExists => "File exists"
  | .notADirectory => "Not a directory"
  | .isADirectory => "Is a directory"
  | .nameTooLong => "File name too long"
  | .tooManyLinks => "Too many levels of symbolic links"

/-- A trouble of the system: no permission, no space, a medium that cannot be written or fails. It
has a number of its own, which is none of those above nor the one of a bad descriptor. -/
structure Trouble where
  code : Nat
  words : String
  /-- Whether messages name the path; they do not once a file is open. -/
  named : Bool := true
  apart : code ∉ [2, 9, 17, 20, 21, 36, 40] := by decide
  deriving DecidableEq, Repr

/-- What a fault is due to. -/
inductive Cause
  /-- To what is in the store. -/
  | layout (kind : FaultKind)
  /-- To the system. -/
  | trouble (t : Trouble)
  deriving DecidableEq, Repr

namespace Cause

/-- The reason that a cause is dealt with as. A trouble is neither passed over nor mended, and the
reason for which this holds too is a name that is too long. -/
def kind : Cause → FaultKind
  | layout kind => kind
  | trouble _ => .nameTooLong

/-- The words for a cause, with its number. -/
def words : Cause → String
  | layout kind => s!"[Errno {kind.code}] {kind.words}"
  | trouble t => s!"[Errno {t.code}] {t.words}"

/-- Whether messages about a cause name the path. -/
def named : Cause → Bool
  | layout _ => true
  | trouble t => t.named

end Cause

/-- A failed file operation: the cause and the path as it was given. -/
structure Fault where
  cause : Cause
  path : String
  deriving DecidableEq, Repr

/-- The reason that a fault is dealt with as. -/
def Fault.kind (f : Fault) : FaultKind := f.cause.kind

/-- The words for a failed file operation. -/
def Fault.message (f : Fault) : String :=
  f.cause.words ++ if f.cause.named then s!": {Text.quoted f.path}" else ""

end Unbundle
