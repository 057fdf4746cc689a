import Unbundle.Proofs.Commit

/-!
# Every decision comes before the first change

A split that is blocked, a dry run or has nothing to do, and one that stops because of its input,
its configuration or its trees, leaves the store as it is (`split_held_back`). Such results come
from preparing, which only looks at the store. What remains to be shown is that carrying out a job
has none of them: its report is another one, and its errors are those of a backup or of a write,
since all its paths are acceptable (`Prepared.commit_fails`).
-/

namespace Unbundle

open Work (Within)
open FileStore (acceptable acceptable_append)

/-- The texts of a configuration that become parts of paths hold no NUL. -/
structure Config.NulFree (config : Config) : Prop where
  publicDir : ∀ name, config.publicDir = .ok name → acceptable name = true
  extension : acceptable config.extension = true
  backupSuffix : ∀ suffix, config.backupSuffix = .ok suffix → acceptable suffix = true

/-- A valid stem has no control characters, hence no NUL. -/
theorem Callable.acceptable_of_validStem {stem : String} (h : validStem stem = true) :
    acceptable stem = true := by
  simp only [validStem, Bool.and_eq_true, Bool.not_eq_true', List.any_eq_false] at h
  refine FileStore.acceptable_iff.mpr fun hnul => h.2 _ hnul ?_
  decide

namespace Split

variable {trees : TreeSource} {config : Config} {s : FileStore} {path : Path} {job : Job}
  {g : Grounds}

/-! ## Acceptable paths -/

theorem Prepared.acceptable_backup (hg : Prepared trees config s path job g)
    (hconfig : config.NulFree) : acceptable job.backup.toString = true := by
  obtain ⟨suffix, hsuffix, hpath⟩ := except_bind_ok hg.backup
  refine Path.acceptable_withName hg.stat_module.1 ?_ (mapError_eq_ok.mp hpath)
  exact acceptable_append.mpr
    ⟨Path.acceptable_name hg.stat_module.1, hconfig.backupSuffix suffix hsuffix⟩

theorem Prepared.acceptable_directory (hg : Prepared trees config s path job g)
    (hconfig : config.NulFree) : acceptable g.directory.toString = true := by
  have hdirectory := hg.directory
  unfold targetDirectory at hdirectory
  cases hname : config.publicDir with
  | error e => rw [hname] at hdirectory; exact nomatch hdirectory
  | ok name =>
    rw [hname] at hdirectory
    rw [← Except.ok.inj hdirectory]
    exact Path.acceptable_join (Path.acceptable_parent hg.stat_module.1)
      (hconfig.publicDir name hname)

theorem Prepared.acceptable_target (hg : Prepared trees config s path job g)
    (hconfig : config.NulFree) {o : Outcome} (ho : o ∈ job.plan.outcomes) :
    acceptable (o.path.getD {}).toString = true := by
  obtain ⟨hstem, ho⟩ := hg.eq_write ho
  rw [ho]
  exact Path.acceptable_join (hg.acceptable_directory hconfig)
    (acceptable_append.mpr ⟨Callable.acceptable_of_validStem hstem, hconfig.extension⟩)

/-! ## What carrying out comes to -/

/-- The errors that carrying out a job ends with: those of its backup and of writing, of directories
that are too deep, and of texts without an encoding. -/
inductive CommitFailure (job : Job) : Error → Prop
  | backup {e : Error} (h : Backup.Failure job.report.module job.backup e) : CommitFailure job e
  | write (path : Path) (fault : Fault) : CommitFailure job (.write path fault)
  | tooDeep : CommitFailure job .tooDeep
  | unencodable : CommitFailure job .unencodable

theorem Prepared.commit_fails (hg : Prepared trees config s path job g)
    (hconfig : config.NulFree) : Within (fun _ => True) (CommitFailure job) (commit job) := by
  have hmay : ∀ {p : Path}, acceptable p.toString = true → MayHand (CommitFailure job) p :=
    fun hp hbad => nomatch hp.symm.trans hbad
  have hbackup := Backup.createAt_fails hg.stat_module.1 (hg.acceptable_backup hconfig)
  have htarget : ∀ o ∈ job.plan.writes, MayHand (CommitFailure job) (o.path.getD {}) := by
    intro o ho
    rw [Plan.writes_eq hg.skipFree] at ho
    exact hmay (hg.acceptable_target hconfig ho)
  refine within_commit (fun _ => .unencodable) (hbackup.mono (fun _ => id) fun _ => .backup) ?_
    (hmay hg.stat_module.1) (.write _)
  refine within_extract ?_ (fun _ => .unencodable) fun o ho =>
    ModuleFile.makeParents_adds (.write _) (htarget o ho) .tooDeep
  exact Extraction.within_write (fun hskip => nomatch hg.skipFree.symm.trans hskip) .tooDeep
    fun o ho => ⟨htarget o ho, .write _⟩

/-- A job that was carried out had outcomes, and was neither blocked nor a dry run. -/
theorem Prepared.commit_report {report : Report} (hg : Prepared trees config s path job g)
    (h : (commit job s).result = .ok report) :
    report.outcomes ≠ [] ∧ report.blocked = false ∧ report.dryRun = false := by
  obtain ⟨written, -, -, -, rfl⟩ := commit_ok h
  refine ⟨fun hnil => hg.located ?_, hg.reportBlocked, hg.reportDryRun⟩
  have houtcomes : job.plan.outcomes = [] := hg.reportOutcomes.symm.trans hnil
  rw [← hg.outcomes_callables, houtcomes, List.map_nil]

end Split

/-- Results of a split that was held back: its report says so, or its input, a value given to it or
its leftover could not be used. -/
inductive HeldBack : Except Error Report → Prop
  | blocked {report : Report} (h : report.blocked = true) : HeldBack (.ok report)
  | dryRun {report : Report} (h : report.dryRun = true) : HeldBack (.ok report)
  | nothing {report : Report} (h : report.outcomes = []) : HeldBack (.ok report)
  | input (error : InputError) : HeldBack (.error (.input error))
  | invalid (value : InvalidValue) : HeldBack (.error (.invalid value))
  | undecodable (flaw : Utf8.DecodeError) : HeldBack (.error (.undecodable flaw))

/-- Carrying out a job does not come to a result of a split that was held back. -/
theorem Split.Prepared.not_heldBack {trees : TreeSource} {config : Config} {s : FileStore}
    {path : Path} {job : Job} {g : Split.Grounds} (hg : Prepared trees config s path job g)
    (hconfig : config.NulFree) : ¬ HeldBack (commit job s).result := by
  intro h
  cases hresult : (commit job s).result with
  | ok report =>
    obtain ⟨houtcomes, hblocked, hdry⟩ := hg.commit_report hresult
    rw [hresult] at h
    cases h with
    | blocked h => exact nomatch h.symm.trans hblocked
    | dryRun h => exact nomatch h.symm.trans hdry
    | nothing h => exact houtcomes h
  | error e =>
    have hfailure := (hg.commit_fails hconfig).stops s e hresult
    rw [hresult] at h
    cases hfailure with
    | backup hbackup => cases hbackup <;> cases h
    | write p fault => cases h
    | tooDeep => cases h
    | unencodable => cases h

/-- **Every decision comes before the first change.** A split that was held back has carried out
nothing, and the store is as it was. -/
theorem split_held_back {trees : TreeSource} {config : Config} {path : Path} {s : FileStore}
    (hconfig : config.NulFree) (h : HeldBack (split trees config path s).result) :
    (split trees config path s).store = s ∧ (split trees config path s).journal = [] := by
  rcases Split.split_cases trees config path s with
    ⟨hjournal, hstore, -⟩ | ⟨job, hprepare, -, -, hresult⟩
  · exact ⟨hstore, hjournal⟩
  · obtain ⟨g, hg⟩ := Split.prepare_carryOut hprepare
    rw [hresult] at h
    exact absurd h (hg.not_heldBack hconfig)

/-- A dry run, and a suffix that makes no name for a backup. -/
theorem split_held_back_sample :
    (HeldBack (split Sample.trees { dryRun := true } Sample.path Sample.store).result ∧
      (split Sample.trees { dryRun := true } Sample.path Sample.store).store = Sample.store) ∧
    ∃ value,
      (split Sample.trees { backupSuffix := .ok "/x" } Sample.path Sample.store).result =
        .error (.invalid value) ∧
      (split Sample.trees { backupSuffix := .ok "/x" } Sample.path Sample.store).store =
        Sample.store := by
  have hany : (split Sample.trees { dryRun := true } Sample.path
      Sample.store).result.toOption.any (·.dryRun) = true := by decide +kernel
  obtain ⟨report, hrun, hdry⟩ := exists_ok_of_any hany
  have hheld : HeldBack (split Sample.trees { dryRun := true } Sample.path Sample.store).result :=
    hrun ▸ .dryRun hdry
  have hconfig : ({ dryRun := true } : Config).NulFree :=
    ⟨fun _ h => by cases h; decide, by decide, fun _ h => by cases h; decide⟩
  refine ⟨⟨hheld, (split_held_back hconfig hheld).1⟩, ?_⟩
  have hvalue : (match (split Sample.trees { backupSuffix := .ok "/x" } Sample.path
      Sample.store).result with
    | .error (.invalid _) => true
    | _ => false) = true := by decide +kernel
  have hconfig' : ({ backupSuffix := .ok "/x" } : Config).NulFree :=
    ⟨fun _ h => by cases h; decide, by decide, fun _ h => by cases h; decide⟩
  split at hvalue
  next value hraised =>
    exact ⟨value, hraised, (split_held_back hconfig' (hraised ▸ .invalid value)).1⟩
  next => exact nomatch hvalue

end Unbundle
