import Unbundle.Error

/-!
# Environments

The variables that a process runs with. A variable is looked up by its name; an assignment does not
replace one that is already there.
-/

namespace Unbundle

/-- Names of variables and their values. -/
abbrev Environment := List (String × String)

namespace Environment

/-- The value of a variable. -/
def get? (env : Environment) (name : String) : Option String := env.lookup name

/-- The value of a variable that is set and not empty. -/
def nonempty? (env : Environment) (name : String) : Option String :=
  (env.get? name).filter (!·.isEmpty)

/-- Sets a variable that is not set. -/
def define (env : Environment) (name value : String) : Except Error Environment :=
  if (env.get? name).isSome then .ok env
  else if name.toList.contains '\x00' || value.toList.contains '\x00' then
    .error (.invalid .embeddedNul)
  else if name.toList.contains '=' then .error (.invalid .badVariableName)
  else .ok (env ++ [(name, value)])

end Environment

end Unbundle
