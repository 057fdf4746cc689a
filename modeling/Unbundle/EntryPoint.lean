/-!
# Entry points

The parts of the library that are offered under a name of their own.
-/

namespace Unbundle

/-- What is offered by name. -/
inductive EntryPoint
  | split
  | config
  | report
  deriving DecidableEq, Repr

namespace EntryPoint

/-- The name of an entry point. -/
def name : EntryPoint → String
  | split => "split_module"
  | config => "SplitterConfig"
  | report => "SplitReport"

/-- All entry points. -/
def all : List EntryPoint := [split, config, report]

/-- The entry point with a name. -/
def ofName? (name : String) : Option EntryPoint := all.find? (·.name == name)

end EntryPoint

end Unbundle
