import Unbundle.Proofs.Assembly
import Unbundle.Proofs.Backup
import Unbundle.Split

/-!
# What a job rests on

A split carries out a job only if everything before it went well: the module was found, read and
parsed, its callables have a plan without skips, and the new module was put together. `Prepared`
lists these facts, and `prepare_carryOut` says that they hold of every job. Whatever else preparing
comes to, nothing has been written or replaced, and the report says why (`prepare_finish`).
-/

namespace Unbundle.Split

/-- What is found out while a job is prepared. -/
structure Grounds where
  text : String
  root : Node
  directory : Path
  loader : String
  assembly : Assembly
  result : Assembly.Result

namespace Grounds

/-- The callables that are taken out of the module. -/
def callables (g : Grounds) : List Callable := Callable.locate (Utf8.encode g.text) g.root

end Grounds

/-- The facts that a job rests on. -/
structure Prepared (trees : TreeSource) (config : Config) (s : FileStore) (path : Path) (job : Job)
    (g : Grounds) : Prop where
  resolved : ModuleFile.resolve s path = .ok job.report.module
  read : ModuleFile.read s job.report.module = .ok (g.text, job.bom)
  parsed : trees.parse 0 g.text = .ok g.root
  located : g.callables ≠ []
  directory : targetDirectory job.report.module config = .ok g.directory
  plan : job.plan = Plan.make g.callables g.directory config.extension (seesFile config s)
  skipFree : job.plan.anySkip = false
  loader : loaderFor config (newlineOf g.text) = .ok g.loader
  assembly : Assembly.ofPlan job.plan g.loader = .ok g.assembly
  applied : (g.assembly.apply trees g.text).result = .ok g.result
  text : job.text = g.result.text
  backup : backupFor job.report.module config = .ok job.backup
  halted : job.halted = config.halted
  carriedOut : config.dryRun = false
  reportBackup : job.report.backup = some job.backup
  reportOutcomes : job.report.outcomes = job.plan.outcomes
  reportDryRun : job.report.dryRun = false
  reportBlocked : job.report.blocked = false

/-- Putting the module together ends in a job only with a loader, an assembly and a backup path. -/
theorem prepareJob_carryOut {trees : TreeSource} {config : Config} {report : Report} {plan : Plan}
    {text : String} {bom : Bool} {job : Job}
    (h : (prepareJob trees config report plan text bom).result = .ok (.carryOut job)) :
    ∃ loader assembly result, loaderFor config (newlineOf text) = .ok loader ∧
      Assembly.ofPlan plan loader = .ok assembly ∧
      (assembly.apply trees text).result = .ok result ∧
      backupFor report.module config = .ok job.backup ∧ config.dryRun = false ∧
      job = ⟨{ report with warnings := result.warnings, backup := some job.backup }, job.backup,
        plan, result.text, bom, config.halted⟩ := by
  obtain ⟨loader, hloader, h⟩ := Attempt.bind_ok h
  obtain ⟨assembly, hassembly, h⟩ := Attempt.bind_ok h
  obtain ⟨result, hresult, h⟩ := Attempt.bind_ok h
  obtain ⟨backup, hbackup, h⟩ := Attempt.bind_ok h
  simp only at h
  split at h
  next => exact nomatch h
  next hdry =>
    cases h
    exact ⟨loader, assembly, result, hloader, hassembly, hresult, hbackup, by simpa using hdry, rfl⟩

/-- Without a job the report says why there is none. -/
structure Finished (config : Config) (report : Report) : Prop where
  replaced : report.replaced = false
  written : report.written = []
  dryRun : report.dryRun = config.dryRun
  reason : config.dryRun = true ∨ report.blocked = true ∨ report.outcomes = []

theorem prepareJob_finish {trees : TreeSource} {config : Config} {report final : Report}
    {plan : Plan} {text : String} {bom : Bool}
    (h : (prepareJob trees config report plan text bom).result = .ok (.finish final)) :
    final.replaced = report.replaced ∧ final.written = report.written ∧
      final.dryRun = report.dryRun ∧ config.dryRun = true := by
  obtain ⟨loader, -, h⟩ := Attempt.bind_ok h
  obtain ⟨assembly, -, h⟩ := Attempt.bind_ok h
  obtain ⟨result, -, h⟩ := Attempt.bind_ok h
  obtain ⟨backup, -, h⟩ := Attempt.bind_ok h
  simp only at h
  split at h
  next hdry =>
    cases h
    exact ⟨rfl, rfl, rfl, hdry⟩
  next => exact nomatch h

theorem prepare_carryOut {trees : TreeSource} {config : Config} {s : FileStore} {path : Path}
    {job : Job} (h : (prepare trees config s path).result = .ok (.carryOut job)) :
    ∃ g, Prepared trees config s path job g := by
  obtain ⟨source, hsource, h⟩ := Attempt.bind_ok h
  obtain ⟨⟨text, bom⟩, htext, h⟩ := Attempt.bind_ok h
  obtain ⟨root, hroot, h⟩ := Attempt.bind_ok h
  simp only [Attempt.tellAll_bind_result] at h
  split at h
  next => exact nomatch h
  next hlocated =>
    obtain ⟨directory, hdirectory, h⟩ := Attempt.bind_ok h
    simp only [Attempt.tellAll_bind_result] at h
    split at h
    next => exact nomatch h
    next hskip =>
      obtain ⟨loader, assembly, result, hloader, hassembly, hresult, hbackup, hdry, hjob⟩ :=
        prepareJob_carryOut h
      rw [hjob]
      exact ⟨⟨text, root, directory, loader, assembly, result⟩, {
        resolved := hsource
        read := htext
        parsed := hroot
        located := by simpa [Grounds.callables] using hlocated
        directory := hdirectory
        plan := rfl
        skipFree := by simpa using hskip
        loader := hloader
        assembly := hassembly
        applied := hresult
        text := rfl
        backup := hbackup
        halted := rfl
        carriedOut := hdry
        reportBackup := rfl
        reportOutcomes := rfl
        reportDryRun := hdry
        reportBlocked := rfl }⟩

theorem prepare_finish {trees : TreeSource} {config : Config} {s : FileStore} {path : Path}
    {report : Report} (h : (prepare trees config s path).result = .ok (.finish report)) :
    Finished config report := by
  obtain ⟨source, -, h⟩ := Attempt.bind_ok h
  obtain ⟨⟨text, bom⟩, -, h⟩ := Attempt.bind_ok h
  obtain ⟨root, -, h⟩ := Attempt.bind_ok h
  simp only [Attempt.tellAll_bind_result] at h
  split at h
  next =>
    cases h
    exact ⟨rfl, rfl, rfl, Or.inr (Or.inr rfl)⟩
  next =>
    obtain ⟨directory, -, h⟩ := Attempt.bind_ok h
    simp only [Attempt.tellAll_bind_result] at h
    split at h
    next =>
      cases h
      exact ⟨rfl, rfl, rfl, Or.inr (Or.inl rfl)⟩
    next =>
      obtain ⟨hreplaced, hwritten, hreport, hdry⟩ := prepareJob_finish h
      exact ⟨hreplaced, hwritten, hreport, Or.inl hdry⟩

/-! ## What follows from it -/

namespace Prepared

variable {trees : TreeSource} {config : Config} {s : FileStore} {path : Path} {job : Job}
  {g : Grounds}

theorem outcomes_callables (hg : Prepared trees config s path job g) :
    job.plan.outcomes.map (·.callable) = g.callables := by
  rw [hg.plan]
  exact planFrom_callables ..

/-- Every callable has a valid stem and goes to its own target. -/
theorem eq_write (hg : Prepared trees config s path job g) {o : Outcome}
    (ho : o ∈ job.plan.outcomes) :
    Callable.validStem o.callable.stem = true ∧
      o = .write o.callable (o.callable.target g.directory config.extension) := by
  have hskip := hg.skipFree
  rw [hg.plan] at ho hskip
  exact Plan.eq_write_of_mem hskip ho

/-- The path of the module is acceptable and leads to a file. -/
theorem stat_module (hg : Prepared trees config s path job g) :
    FileStore.acceptable job.report.module.toString = true ∧
      ∃ l raw, s.stat job.report.module.toString = .ok (l, .file raw) := by
  obtain ⟨raw, hpath, hraw, -⟩ := ModuleFile.read_ok hg.read
  obtain ⟨l, hstat⟩ := FileStore.read_eq_ok_iff.mp hraw
  exact ⟨hpath, l, raw, hstat⟩

end Prepared

end Unbundle.Split
