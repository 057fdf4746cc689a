import Unbundle.Assembly
import Unbundle.Backup
import Unbundle.Config
import Unbundle.Extraction
import Unbundle.Report

/-!
# Splitting a module

A split first decides everything (`prepare`): it reads the module, locates its callables, plans a
file for each, and puts the new module together. This only looks at the store. If nothing stands in
the way and it is no dry run, the job is then carried out (`commit`): the module is backed up, the
files are created, and last the module is overwritten. A step that comes upon a text without an
encoding stops there.
-/

namespace Unbundle

/-- What is to be carried out once everything is decided. -/
structure Job where
  /-- The report so far. -/
  report : Report
  backup : Path
  plan : Plan
  text : String
  bom : Bool
  /-- The steps that come upon a text without an encoding. -/
  halted : List Step := []

/-- What preparing a split comes to. -/
inductive Decision
  /-- There is nothing to carry out. -/
  | finish (report : Report)
  | carryOut (job : Job)

namespace Split

/-- The directory for extracted files, beside the module. -/
def targetDirectory (source : Path) (config : Config) : Except Error Path :=
  config.publicDir.map source.parent.join

/-- The loader for a configuration. -/
def loaderFor (config : Config) (newline : String) : Except Error String := do
  let privateDir ← config.privateDir
  let publicDir ← config.publicDir
  return Loader.render publicDir privateDir config.extension newline

/-- The backup path for a configuration. -/
def backupFor (source : Path) (config : Config) : Except Error Path := do
  Backup.pathFor source (← config.backupSuffix)

/-- What a dry run tells. -/
def dryRunNotices (source backup : Path) (plan : Plan) (assembly : Assembly) : List Notice :=
  plan.writes.map (fun o => .wouldWrite (o.path.getD {}) (Utf8.encode o.callable.text).length) ++
    assembly.removed.map (fun c => .wouldRemove c.keyword c.name c.startLine c.endLine) ++
    [.wouldBackUp source.name backup]

/-- Puts the split module together for a plan without skips. -/
def prepareJob (trees : TreeSource) (config : Config) (report : Report) (plan : Plan)
    (text : String) (bom : Bool) : Attempt Decision := do
  let loader ← .ofExcept (loaderFor config (newlineOf text))
  let assembly ← .ofExcept (Assembly.ofPlan plan loader)
  let result ← assembly.apply trees text
  let backup ← .ofExcept (backupFor report.module config)
  let report := { report with warnings := result.warnings, backup := some backup }
  if config.dryRun then
    .tellAll (dryRunNotices report.module backup plan assembly)
    return .finish report
  else return .carryOut ⟨report, backup, plan, result.text, bom, config.halted⟩

/-- Whether something is found where a file is to go. -/
def seesFile (config : Config) (s : FileStore) (path : Path) : Bool :=
  !config.hidesFiles && s.leadsSomewhere path.toString

/-- Decides what a split of the module at `path` is to do. -/
def prepare (trees : TreeSource) (config : Config) (s : FileStore) (path : Path) :
    Attempt Decision := do
  let source ← .ofExcept (ModuleFile.resolve s path)
  let (text, bom) ← .ofExcept (ModuleFile.read s source)
  let root ← .ofExcept (trees.parse 0 text)
  let bytes := Utf8.encode text
  let callables := Callable.locate bytes root
  .tellAll (Callable.locateNotices bytes root)
  let diagnostics := root.diagnostics bytes
  let outside := Callable.diagnosticsOutside diagnostics callables
  .tellAll (Callable.outsideNotices diagnostics callables)
  .tellAll (outside.map fun d => .problem source.name d.words)
  let report : Report := { module := source, dryRun := config.dryRun, diagnostics := outside }
  if callables.isEmpty then
    .tell (.nothingToDo source.name)
    return .finish report
  else
    let directory ← .ofExcept (targetDirectory source config)
    let plan := Plan.make callables directory config.extension (seesFile config s)
    .tellAll plan.notices
    let report := { report with outcomes := plan.outcomes }
    if plan.anySkip then
      .tell (.blocked plan.skips.length plan.outcomes.length source.name)
      return .finish { report with blocked := true }
    else prepareJob trees config report plan text bom

/-- Stops before a step that comes upon a text without an encoding. -/
def enter (job : Job) (step : Step) : Work Unit :=
  Work.check fun _ => if job.halted.contains step then .error .unencodable else .ok ()

/-- The first file of a job, if the names of its files have no encoding. -/
def nameless? (job : Job) : Option Outcome :=
  if job.halted.contains .file then job.plan.writes.head? else none

/-- Creates the files of a job. That a file has no name is noticed when the directories above it are
there. -/
def extract (job : Job) : Work (List Path) := do
  enter job .directories
  match nameless? job with
  | some first =>
    ModuleFile.makeParents (first.path.getD {})
    Work.fail .unencodable
  | none => Extraction.write job.plan job.bom

/-- Carries out a job: backup, extracted files, module. -/
def commit (job : Job) : Work Report := do
  let source := job.report.module
  enter job .backup
  Backup.createAt source job.backup
  let written ← extract job
  enter job .module
  ModuleFile.write source job.text job.bom
  Work.tell (.moduleReplaced source.name written.length)
  return { job.report with written, replaced := true }

end Split

/-- Splits the module at `path`. -/
def split (trees : TreeSource) (config : Config) (path : Path) : Work Report := do
  match ← Work.look fun s => Split.prepare trees config s path with
  | .finish report => return report
  | .carryOut job => Split.commit job

end Unbundle
