import Unbundle.ModuleFile
import Unbundle.Plan

/-!
# Writing the extracted files

The files of a plan are created one after the other. The first failure stops; the files created
before it are kept.
-/

namespace Unbundle.Extraction

/-- Creates the files of outcomes, in order, and gives their paths. -/
def writeAll (bom : Bool) : List Outcome → Work (List Path)
  | [] => return []
  | o :: rest => do
    let path := o.path.getD {}
    ModuleFile.writeNew path o.callable.text bom
    Work.tell (.extracted o.callable.name path)
    let paths ← writeAll bom rest
    return path :: paths

/-- Creates the files of a plan; the plan must have no skips. -/
def write (plan : Plan) (bom : Bool) : Work (List Path) :=
  if plan.anySkip then Work.fail (.invalid .skipsInExtraction) else writeAll bom plan.writes

end Unbundle.Extraction
