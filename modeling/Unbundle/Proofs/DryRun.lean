import Unbundle.Proofs.Commit

/-!
# Dry runs

A dry run decides all that a split decides and carries out nothing. Both prepare in the same way, up
to the point where a job would be carried out (`prepare_dryRun`), so a dry run reports what the
split is going to report (`dryRun_foretells`), and it fails as the split does.
-/

namespace Unbundle

/-- What a dry run reports in place of a decision. -/
def Decision.rehearsal : Decision → Report
  | .finish report => { report with dryRun := true }
  | .carryOut job => { job.report with dryRun := true }

namespace Split

variable {trees : TreeSource} {config : Config} {s : FileStore} {path : Path} {job : Job}

/-! ## One preparation for both -/

theorem prepareJob_dryRun (trees : TreeSource) (config : Config) {dry report : Report}
    (h : dry = { report with dryRun := true }) (plan : Plan) (text : String) (bom : Bool) :
    (prepareJob trees { config with dryRun := true } dry plan text bom).result =
      (prepareJob trees { config with dryRun := false } report plan text bom).result.map
        fun decision => .finish decision.rehearsal := by
  subst h
  refine Attempt.bind_result_map fun loader => Attempt.bind_result_map fun assembly => ?_
  exact Attempt.bind_result_map fun result => Attempt.bind_result_map fun backup => rfl

/-- A dry run looks for the files where a split does. -/
theorem seesFile_dryRun (config : Config) (dryRun : Bool) (s : FileStore) :
    seesFile { config with dryRun := dryRun } s = seesFile config s := rfl

theorem prepare_dryRun (trees : TreeSource) (config : Config) (s : FileStore) (path : Path) :
    (prepare trees { config with dryRun := true } s path).result =
      (prepare trees { config with dryRun := false } s path).result.map
        fun decision => .finish decision.rehearsal := by
  refine Attempt.bind_result_map fun source => Attempt.bind_result_map fun (text, bom) => ?_
  refine Attempt.bind_result_map fun root => ?_
  simp only [Attempt.tellAll_bind_result]
  split
  next => rfl
  next =>
    refine Attempt.bind_result_map fun directory => ?_
    simp only [Attempt.tellAll_bind_result]
    rw [seesFile_dryRun config true, seesFile_dryRun config false]
    split
    next => rfl
    next => exact prepareJob_dryRun trees config (by rfl) _ _ _

theorem split_result (trees : TreeSource) (config : Config) (path : Path) (s : FileStore) :
    (split trees config path s).result =
      match (prepare trees config s path).result with
      | .error e => .error e
      | .ok (.finish report) => .ok report
      | .ok (.carryOut job) => (commit job s).result := by
  rcases split_cases trees config path s with
    ⟨-, -, ⟨e, hprepare, hresult⟩ | ⟨report, hprepare, hresult⟩⟩ | ⟨job, hprepare, -, -, hresult⟩
  all_goals rw [hprepare, hresult]

/-- A dry run reports in place of what a split decides. -/
theorem split_dryRun (trees : TreeSource) (config : Config) (path : Path) (s : FileStore) :
    (split trees { config with dryRun := true } path s).result =
      (prepare trees { config with dryRun := false } s path).result.map Decision.rehearsal := by
  rw [split_result, prepare_dryRun]
  cases (prepare trees { config with dryRun := false } s path).result with
  | error e => rfl
  | ok decision => rfl

/-- A job that was carried out has written the files of its outcomes. -/
theorem Prepared.commit_written {g : Grounds} (hg : Prepared trees config s path job g)
    {report : Report} (h : (commit job s).result = .ok report) :
    report = { job.report with written := report.written, replaced := report.replaced } ∧
      report.written.map some = (job.report.outcomes.filter (·.isWrite)).map (·.path) := by
  obtain ⟨written, -, hwritten, -, rfl⟩ := commit_ok h
  refine ⟨rfl, ?_⟩
  rw [Extraction.write, if_neg (by simp [hg.skipFree])] at hwritten
  obtain ⟨rfl, -⟩ := Extraction.writeAll_ok hwritten
  rw [hg.reportOutcomes, List.map_map]
  refine List.map_congr_left fun o ho => ?_
  rw [Function.comp_apply, (hg.eq_write (List.mem_filter.mp ho).1).2]
  rfl

end Split

/-! ## What a dry run says -/

/-- A report of a split says what the report of a dry run said before. -/
structure Foretells (dry real : Report) : Prop where
  outcomes : real.outcomes = dry.outcomes
  diagnostics : real.diagnostics = dry.diagnostics
  warnings : real.warnings = dry.warnings
  blocked : real.blocked = dry.blocked
  backup : real.backup = dry.backup
  extracted : real.extractedCount = dry.extractedCount
  skipped : real.skippedCount = dry.skippedCount
  withheld : real.withheldCount = dry.withheldCount
  /-- What was to be written is what was written, in the same order. -/
  written : real.written.map some =
    if dry.blocked then [] else (dry.outcomes.filter (·.isWrite)).map (·.path)

/-- A report that differs from a planned one only in what was done to the store was foretold, if
what was planned was written. -/
theorem Foretells.of_written {planned real : Report}
    (hreal : real = { planned with written := real.written, replaced := real.replaced })
    (hdry : planned.dryRun = false)
    (hwritten : real.written.map some =
      if planned.blocked then [] else (planned.outcomes.filter (·.isWrite)).map (·.path)) :
    Foretells { planned with dryRun := true } real := by
  have hcount : real.extractedCount =
      ({ planned with dryRun := true } : Report).extractedCount := by
    have hlength := congrArg List.length hwritten
    rw [hreal]
    simp only [Report.extractedCount, Report.writeCount, hdry, List.countP_eq_length_filter]
    split
    next => rfl
    next hblocked =>
      rw [if_neg hblocked] at hlength
      simpa using hlength
  rw [hreal] at hcount ⊢
  exact ⟨rfl, rfl, rfl, rfl, rfl, hcount, rfl, rfl, hwritten⟩

/-- **A dry run foretells the split.** If it fails, the split fails with the same error. Otherwise
the split, if it comes to its end, reports what the dry run reported. -/
theorem dryRun_foretells (trees : TreeSource) (config : Config) (path : Path) (s : FileStore) :
    (∀ e, (split trees { config with dryRun := true } path s).result = .error e →
      (split trees { config with dryRun := false } path s).result = .error e) ∧
    ∀ dry real, (split trees { config with dryRun := true } path s).result = .ok dry →
      (split trees { config with dryRun := false } path s).result = .ok real →
      Foretells dry real := by
  rw [Split.split_dryRun, Split.split_result]
  cases hprepare : (Split.prepare trees { config with dryRun := false } s path).result with
  | error e => exact ⟨fun _ he => he, fun _ _ hdry => nomatch hdry⟩
  | ok decision =>
    refine ⟨fun _ he => (nomatch he), fun dry real hdry hreal => ?_⟩
    obtain rfl := Except.ok.inj hdry
    cases decision with
    | finish planned =>
      obtain rfl := Except.ok.inj hreal
      have hfinished := Split.prepare_finish hprepare
      refine .of_written rfl hfinished.dryRun ?_
      rw [hfinished.written]
      rcases hfinished.reason with hdry | hblocked | hnone
      · exact nomatch hdry
      · rw [if_pos hblocked]
        rfl
      · simp [hnone]
    | carryOut job =>
      obtain ⟨g, hg⟩ := Split.prepare_carryOut hprepare
      obtain ⟨hreport, hwritten⟩ := hg.commit_written hreal
      refine .of_written hreport hg.reportDryRun ?_
      rw [hwritten, hg.reportBlocked]
      rfl

/-- The dry run of the sample leaves it to the split to write one file. -/
theorem dryRun_foretells_sample :
    ∃ dry real, (split Sample.trees { dryRun := true } Sample.path Sample.store).result = .ok dry ∧
      (split Sample.trees { dryRun := false } Sample.path Sample.store).result = .ok real ∧
      dry.written = [] ∧ real.written.length = 1 ∧ Foretells dry real := by
  have hdry : (split Sample.trees { dryRun := true } Sample.path
      Sample.store).result.toOption.any (·.written = []) = true := by decide +kernel
  have hreal : (split Sample.trees { dryRun := false } Sample.path
      Sample.store).result.toOption.any (·.written.length = 1) = true := by decide +kernel
  obtain ⟨dry, hdry, hnone⟩ := exists_ok_of_any hdry
  obtain ⟨real, hreal, hone⟩ := exists_ok_of_any hreal
  exact ⟨dry, real, hdry, hreal, of_decide_eq_true hnone, of_decide_eq_true hone,
    (dryRun_foretells Sample.trees {} Sample.path Sample.store).2 dry real hdry hreal⟩

end Unbundle
