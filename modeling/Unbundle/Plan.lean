import Unbundle.Callable

/-!
# Extraction plans

Each callable gets a file of its own, named by its stem, or is skipped for a reason. A stem is
claimed by the first callable that has it, whatever its case; a claim holds also when the file
already exists.
-/

namespace Unbundle

/-- Whether a callable is to be written to its file. -/
inductive Status
  | write
  | skip
  deriving DecidableEq, Repr

/-- The word for a status. -/
def Status.word : Status → String
  | .write => "write"
  | .skip => "skip"

/-- Why a callable is skipped. -/
inductive SkipReason
  | alreadyExists
  | duplicateName
  | invalidName
  deriving DecidableEq, Repr

/-- The word for a reason. -/
def SkipReason.word : SkipReason → String
  | .alreadyExists => "AlreadyExists"
  | .duplicateName => "DuplicateName"
  | .invalidName => "InvalidName"

/-- What is planned for a callable, and the file meant. -/
structure Outcome where
  callable : Callable
  status : Status
  path : Option Path := none
  reason : Option SkipReason := none
  deriving DecidableEq, Repr

namespace Outcome

/-- A callable that is written to `path`. -/
def write (callable : Callable) (path : Path) : Outcome := ⟨callable, .write, some path, none⟩

/-- A callable that is skipped. -/
def skip (callable : Callable) (reason : SkipReason) (path : Option Path) : Outcome :=
  ⟨callable, .skip, path, some reason⟩

/-- Whether the callable is skipped. -/
def isSkip (o : Outcome) : Bool := o.status == .skip

/-- Whether the callable is written. -/
def isWrite (o : Outcome) : Bool := o.status == .write

/-- What is told about a planned outcome. -/
def notice (o : Outcome) : Notice :=
  let target := o.path.getD {}
  match o.status, o.reason with
  | .skip, some .duplicateName => .duplicateName o.callable.name target.name
  | .skip, some .alreadyExists => .targetExists target o.callable.name
  | .skip, _ => .unusableName o.callable.name
  | .write, _ => .planned o.callable.name target

end Outcome

/-- The outcomes for the callables of a module, in their order. -/
structure Plan where
  outcomes : List Outcome := []
  deriving DecidableEq, Repr

namespace Plan

/-- Whether one skip withholds the whole module. -/
def anySkip (p : Plan) : Bool := p.outcomes.any (·.isSkip)

/-- The outcomes that are written. -/
def writes (p : Plan) : List Outcome := p.outcomes.filter (·.isWrite)

/-- The outcomes that are skipped. -/
def skips (p : Plan) : List Outcome := p.outcomes.filter (·.isSkip)

/-- What is told about making a plan. -/
def notices (p : Plan) : List Notice := p.outcomes.map (·.notice)

end Plan

namespace Callable

/-- Characters that no file name may have. -/
def isBarredChar (c : Char) : Bool :=
  c.toNat < 0x20 || ['<', '>', ':', '"', '/', '\\', '|', '?', '*'].contains c

/-- Whether a stem can name a file. -/
def validStem (stem : String) : Bool :=
  stem != "" && stem != "." && stem != ".." && !stem.toList.any isBarredChar

/-- The file of a callable. -/
def target (c : Callable) (directory : Path) (extension : String) : Path :=
  directory.join (c.stem ++ extension)

/-- What a stem is claimed by: stems that differ only in case are one. -/
def claim (c : Callable) : String := Text.lower c.stem

end Callable

/-- The outcomes for callables when the stems in `claimed` are taken; `present` says which files
exist. -/
def planFrom (directory : Path) (extension : String) (present : Path → Bool)
    (claimed : List String) : List Callable → List Outcome
  | [] => []
  | c :: rest =>
    if !Callable.validStem c.stem then
      .skip c .invalidName none :: planFrom directory extension present claimed rest
    else
      let target := c.target directory extension
      if claimed.contains c.claim then
        .skip c .duplicateName target :: planFrom directory extension present claimed rest
      else
        let outcome := if present target then .skip c .alreadyExists target else .write c target
        outcome :: planFrom directory extension present (c.claim :: claimed) rest

/-- The extraction plan for the callables of a module. -/
def Plan.make (callables : List Callable) (directory : Path) (extension : String)
    (present : Path → Bool) : Plan :=
  ⟨planFrom directory extension present [] callables⟩

end Unbundle
