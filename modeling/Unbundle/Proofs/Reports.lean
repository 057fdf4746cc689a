import Unbundle.Proofs.DryRun
import Unbundle.Proofs.Endings
import Unbundle.Proofs.Guard

/-!
# Reports tell what happened

A report counts what was extracted, skipped and withheld, and it has words for each outcome. Both
are made up from the outcomes, from the files that were written and from two marks, so they agree in
every report in which these agree (`Report.Settled`, `Report.Settled.worded`). The report of a split
is one of them, and it lists the callables that were located (`Split.split_reported`). What it calls
written was not there before, and is a file with the text of its callable now
(`report_matches_run`).
-/

namespace Unbundle

open FileStore (acceptable)

/-! ## Words and counts -/

namespace Report

/-- Words that say that a callable is extracted. -/
def saysExtracted (words : String) : Bool := words == "written" || words == "would write"

/-- Words that say that a callable is skipped. -/
def saysSkipped (words : String) : Bool := "skip".toList.isPrefixOf words.toList

/-- Words that say that a callable is withheld. -/
def saysWithheld (words : String) : Bool := words == "withheld"

/-- How many outcomes have words of a kind for what became of them. -/
def countSaying (r : Report) (kind : String → Bool) : Nat :=
  r.outcomes.countP fun o => (r.action o).toOption.any kind

/-- A report whose parts agree: every skip has a reason, and if nothing stood in the way and it was
no dry run, everything that was planned was written. -/
structure Settled (r : Report) : Prop where
  explained : ∀ o ∈ r.outcomes, o.Explained
  written : r.blocked = false → r.dryRun = false →
    r.written.map some = (r.outcomes.filter (·.isWrite)).map (·.path)

/-- What the words for an outcome say. -/
structure Worded (r : Report) (o : Outcome) (words : String) : Prop where
  action : r.action o = .ok words
  extracted : saysExtracted words = (o.isWrite && !r.blocked)
  skipped : saysSkipped words = o.isSkip
  withheld : saysWithheld words = (o.isWrite && r.blocked)
  known : words ≠ "not written"
  written : words = "written" ↔ o.isWrite = true ∧ r.blocked = false ∧ r.dryRun = false

variable {r : Report} {o : Outcome}

/-- The words for a skip say nothing else. -/
theorem says_skip (reason : SkipReason) :
    saysExtracted s!"skip ({reason.word})" = false ∧ saysSkipped s!"skip ({reason.word})" = true ∧
      saysWithheld s!"skip ({reason.word})" = false ∧ s!"skip ({reason.word})" ≠ "not written" ∧
      s!"skip ({reason.word})" ≠ "written" := by
  cases reason <;> decide

/-- The words for a callable that is to be written, by the marks of the report. -/
def planWords (blocked dryRun : Bool) : String :=
  if blocked then "withheld" else if dryRun then "would write" else "written"

theorem says_planWords (blocked dryRun : Bool) :
    saysExtracted (planWords blocked dryRun) = !blocked ∧
      saysSkipped (planWords blocked dryRun) = false ∧
      saysWithheld (planWords blocked dryRun) = blocked ∧
      planWords blocked dryRun ≠ "not written" ∧
      (planWords blocked dryRun = "written" ↔ blocked = false ∧ dryRun = false) := by
  cases blocked <;> cases dryRun <;> decide

theorem Settled.action_write (h : r.Settled) (ho : o ∈ r.outcomes) (hwrite : o.isWrite = true) :
    r.action o = .ok (planWords r.blocked r.dryRun) := by
  have hskip : ¬ o.isSkip = true := by
    rw [Outcome.isWrite_eq_not_isSkip] at hwrite
    simpa using hwrite
  rw [action, if_neg hskip, planWords]
  by_cases hblocked : r.blocked = true
  · rw [if_pos hblocked, if_pos hblocked]
  · rw [if_neg hblocked, if_neg hblocked]
    by_cases hdry : r.dryRun = true
    · rw [if_pos hdry, if_pos hdry]
    · -- the path is among those that were written
      have hmem : o.path ∈ r.written.map some := by
        rw [h.written (Bool.eq_false_iff.mpr hblocked) (Bool.eq_false_iff.mpr hdry)]
        exact List.mem_map_of_mem (List.mem_filter.mpr ⟨ho, hwrite⟩)
      obtain ⟨path, hpath, hsome⟩ := List.mem_map.mp hmem
      have hwritten : o.path.any r.written.contains = true := by
        rw [← hsome]
        exact List.contains_iff_mem.mpr hpath
      rw [if_neg hdry, if_neg hdry, if_pos hwritten]

/-- **The words for an outcome** say what its status and the marks of the report say. -/
theorem Settled.worded (h : r.Settled) (ho : o ∈ r.outcomes) : ∃ words, r.Worded o words := by
  have hstatus := Outcome.isWrite_eq_not_isSkip o
  by_cases hskip : o.isSkip = true
  · obtain ⟨reason, hreason⟩ := h.explained o ho hskip
    obtain ⟨hextracted, hskipped, hwithheld, hknown, hwritten⟩ := says_skip reason
    have haction : r.action o = .ok s!"skip ({reason.word})" := by
      rw [action, if_pos hskip, hreason]
    have hwrite : o.isWrite = false := by rw [hstatus, hskip]; rfl
    refine ⟨_, haction, ?_, ?_, ?_, hknown, ?_⟩
    · rw [hextracted, hwrite, Bool.false_and]
    · rw [hskipped, hskip]
    · rw [hwithheld, hwrite, Bool.false_and]
    · rw [hwrite]
      exact ⟨fun hwords => absurd hwords hwritten, fun hmarks => nomatch hmarks.1⟩
  · have hwrite : o.isWrite = true := by rw [hstatus, Bool.eq_false_iff.mpr hskip]; rfl
    obtain ⟨hextracted, hskipped, hwithheld, hknown, hwritten⟩ :=
      says_planWords r.blocked r.dryRun
    refine ⟨_, h.action_write ho hwrite, ?_, ?_, ?_, hknown, ?_⟩
    · rw [hextracted, hwrite, Bool.true_and]
    · rw [hskipped, Bool.eq_false_iff.mpr hskip]
    · rw [hwithheld, hwrite, Bool.true_and]
    · rw [hwritten, hwrite, eq_self, true_and]

/-- Words of a kind are counted by what they stand for. -/
theorem countSaying_eq {kind : String → Bool} {p : Outcome → Bool}
    (h : ∀ o ∈ r.outcomes, ∃ words, r.action o = .ok words ∧ kind words = p o) :
    r.countSaying kind = r.outcomes.countP p := by
  refine List.countP_congr fun o ho => ?_
  obtain ⟨words, haction, hkind⟩ := h o ho
  rw [haction, ← hkind]
  rfl

theorem writeCount_add_skippedCount (r : Report) :
    r.writeCount + r.skippedCount = r.outcomes.length := by
  rw [List.length_eq_countP_add_countP (p := fun o => o.isWrite)]
  congr 1
  refine List.countP_congr fun o _ => ?_
  rw [Outcome.isWrite_eq_not_isSkip]
  simp

theorem Settled.extractedCount_eq (h : r.Settled) :
    r.extractedCount = if r.blocked then 0 else r.writeCount := by
  unfold extractedCount
  by_cases hblocked : r.blocked = true
  · rw [if_pos hblocked, if_pos hblocked]
  · rw [if_neg hblocked, if_neg hblocked]
    by_cases hdry : r.dryRun = true
    · rw [if_pos hdry]
    · have hlength := congrArg List.length
        (h.written (Bool.eq_false_iff.mpr hblocked) (Bool.eq_false_iff.mpr hdry))
      rw [List.length_map, List.length_map] at hlength
      rw [if_neg hdry, hlength, writeCount, List.countP_eq_length_filter]

/-- **Words and counts agree.** -/
theorem Settled.counts (h : r.Settled) :
    r.countSaying saysExtracted = r.extractedCount ∧
      r.countSaying saysSkipped = r.skippedCount ∧
      r.countSaying saysWithheld = r.withheldCount := by
  have hextracted : r.countSaying saysExtracted =
      r.outcomes.countP fun o => o.isWrite && !r.blocked := by
    refine countSaying_eq fun o ho => ?_
    obtain ⟨words, hwords⟩ := h.worded ho
    exact ⟨words, hwords.action, hwords.extracted⟩
  have hskipped : r.countSaying saysSkipped = r.outcomes.countP fun o => o.isSkip := by
    refine countSaying_eq fun o ho => ?_
    obtain ⟨words, hwords⟩ := h.worded ho
    exact ⟨words, hwords.action, hwords.skipped⟩
  have hwithheld : r.countSaying saysWithheld =
      r.outcomes.countP fun o => o.isWrite && r.blocked := by
    refine countSaying_eq fun o ho => ?_
    obtain ⟨words, hwords⟩ := h.worded ho
    exact ⟨words, hwords.action, hwords.withheld⟩
  rw [hextracted, hwithheld, h.extractedCount_eq]
  refine ⟨?_, hskipped, ?_⟩
  · cases r.blocked <;> simp [writeCount]
  · unfold withheldCount writeCount
    cases r.blocked <;> simp

theorem Settled.total (h : r.Settled) :
    r.extractedCount + r.skippedCount + r.withheldCount = r.outcomes.length := by
  rw [h.extractedCount_eq, ← writeCount_add_skippedCount]
  unfold withheldCount
  split <;> omega

end Report

/-! ## What a split finds -/

/-- A module as it is found: its path, its bytes, its text and its tree. -/
structure Survey where
  source : Path
  raw : Bytes
  text : String
  bom : Bool
  root : Node

namespace Survey

/-- The callables of the module. -/
def callables (v : Survey) : List Callable := Callable.locate (Utf8.encode v.text) v.root

/-- The module that is found in a store at a path. -/
structure Found (trees : TreeSource) (s : FileStore) (path : Path) (v : Survey) : Prop where
  resolved : ModuleFile.resolve s path = .ok v.source
  read : s.read v.source.toString = .ok v.raw
  decoded : Utf8.decodeFile v.raw = .ok (v.text, v.bom)
  parsed : trees 0 v.text = some v.root

/-- The outcomes that are planned for the callables of the module. -/
def Planned (config : Config) (s : FileStore) (v : Survey) (outcomes : List Outcome) : Prop :=
  ∃ directory, Split.targetDirectory v.source config = .ok directory ∧
    outcomes = (Plan.make v.callables directory config.extension
      (Split.seesFile config s)).outcomes

end Survey

namespace Split

variable {trees : TreeSource} {config : Config} {s : FileStore} {path : Path} {job : Job}
  {g : Grounds} {v : Survey} {report : Report}

/-- What a report says about the module that was found. -/
structure Reported (config : Config) (s : FileStore) (v : Survey) (report : Report) : Prop where
  module : report.module = v.source
  dryRun : report.dryRun = config.dryRun
  blocked : report.blocked = report.outcomes.any (·.isSkip)
  outcomes : (v.callables = [] ∧ report.outcomes = []) ∨ v.Planned config s report.outcomes

theorem prepareJob_report {plan : Plan} {text : String} {bom : Bool} {decision : Decision}
    (h : (prepareJob trees config report plan text bom).result = .ok decision) :
    ∃ warnings backup, decision.report = { report with warnings, backup } := by
  obtain ⟨loader, -, h⟩ := Attempt.bind_ok h
  obtain ⟨assembly, -, h⟩ := Attempt.bind_ok h
  obtain ⟨result, -, h⟩ := Attempt.bind_ok h
  obtain ⟨backup, -, h⟩ := Attempt.bind_ok h
  refine ⟨result.warnings, some backup, ?_⟩
  simp only at h
  split at h
  next =>
    cases h
    rfl
  next =>
    cases h
    rfl

/-- **Whatever is decided**, the report is about the module that was found. -/
theorem prepare_reported {decision : Decision}
    (h : (prepare trees config s path).result = .ok decision) :
    ∃ v : Survey, v.Found trees s path ∧ Reported config s v decision.report := by
  obtain ⟨source, hsource, h⟩ := Attempt.bind_ok h
  obtain ⟨⟨text, bom⟩, htext, h⟩ := Attempt.bind_ok h
  obtain ⟨root, hroot, h⟩ := Attempt.bind_ok h
  obtain ⟨raw, -, hraw, hdecoded⟩ := ModuleFile.read_ok htext
  have hparsed : trees 0 text = some root := TreeSource.parse_ok hroot
  refine ⟨⟨source, raw, text, bom, root⟩, ⟨hsource, hraw, hdecoded, hparsed⟩, ?_⟩
  simp only [Attempt.tellAll_bind_result] at h
  split at h
  next hnone =>
    cases h
    exact ⟨rfl, rfl, rfl, Or.inl ⟨List.isEmpty_iff.mp hnone, rfl⟩⟩
  next =>
    obtain ⟨directory, hdirectory, h⟩ := Attempt.bind_ok h
    simp only [Attempt.tellAll_bind_result] at h
    split at h
    next hskip =>
      cases h
      exact ⟨rfl, rfl, hskip.symm, Or.inr ⟨directory, hdirectory, rfl⟩⟩
    next hskip =>
      obtain ⟨warnings, backup, hreport⟩ := prepareJob_report h
      rw [hreport]
      exact ⟨rfl, rfl, (Bool.eq_false_iff.mpr hskip).symm, Or.inr ⟨directory, hdirectory, rfl⟩⟩

/-- There is one outcome for each callable, in their order. -/
theorem Reported.callables (h : Reported config s v report) :
    report.outcomes.map (·.callable) = v.callables := by
  rcases h.outcomes with ⟨hnone, houtcomes⟩ | ⟨directory, -, hplan⟩
  · rw [hnone, houtcomes]
    rfl
  · rw [hplan]
    exact planFrom_callables ..

theorem Reported.explained (h : Reported config s v report) {o : Outcome}
    (ho : o ∈ report.outcomes) : o.Explained := by
  rcases h.outcomes with ⟨-, houtcomes⟩ | ⟨directory, -, hplan⟩
  · rw [houtcomes] at ho
    exact absurd ho List.not_mem_nil
  · rw [hplan] at ho
    exact Plan.explained ho

/-- **The report of a split** is about the module that was found. Either nothing was done, or a job
was carried out to its end. -/
theorem split_reported (h : (split trees config path s).result = .ok report) :
    ∃ v : Survey, v.Found trees s path ∧ Reported config s v report ∧
      (((split trees config path s).store = s ∧ (split trees config path s).journal = [] ∧
          Finished config report) ∨
        ∃ job g, Prepared trees config s path job g ∧ (commit job s).result = .ok report ∧
          (split trees config path s).store = (commit job s).store) := by
  rcases split_cases trees config path s with
    ⟨hjournal, hstore, ⟨e, -, hresult⟩ | ⟨report', hfinish, hresult⟩⟩ |
      ⟨job, hprepare, -, hstore, hresult⟩
  · exact nomatch hresult.symm.trans h
  · obtain rfl := Except.ok.inj (hresult.symm.trans h)
    obtain ⟨v, hv, hreported⟩ := prepare_reported hfinish
    exact ⟨v, hv, hreported, Or.inl ⟨hstore, hjournal, prepare_finish hfinish⟩⟩
  · obtain ⟨v, hv, hreported⟩ := prepare_reported hprepare
    obtain ⟨g, hg⟩ := prepare_carryOut hprepare
    have hcommit := hresult.symm.trans h
    refine ⟨v, hv, ?_, Or.inr ⟨job, g, hg, hcommit, hstore⟩⟩
    -- carrying out a job changes nothing in its report but what was written and replaced
    obtain ⟨written, -, -, -, rfl⟩ := commit_ok hcommit
    exact ⟨hreported.module, hreported.dryRun, hreported.blocked, hreported.outcomes⟩

/-- The parts of a split's report agree. -/
theorem settled_of_split (h : (split trees config path s).result = .ok report) :
    report.Settled := by
  obtain ⟨v, -, hreported, ⟨-, -, hfinished⟩ | ⟨job, g, hg, hcommit, -⟩⟩ := split_reported h
  · refine ⟨fun o ho => hreported.explained ho, fun hfree hreal => ?_⟩
    rcases hfinished.reason with hdry | hblocked | hnone
    · exact nomatch hreal.symm.trans (hfinished.dryRun.trans hdry)
    · exact nomatch hfree.symm.trans hblocked
    · rw [hfinished.written, hnone]
      rfl
  · obtain ⟨hreport, hwritten⟩ := hg.commit_written hcommit
    refine ⟨fun o ho => hreported.explained ho, fun _ _ => ?_⟩
    rw [hwritten, hreport]

end Split

/-! ## What is new -/

/-- A file came to be at a path: the path led nowhere, and now it leads to a file with this content,
at a place that was free. -/
structure FileStore.Created (s t : FileStore) (path : Path) (content : Bytes) : Prop where
  absent : s.leadsSomewhere path.toString = false
  acceptable : acceptable path.toString = true
  place : ∃ l, s.get? l = none ∧ t.stat path.toString = .ok (l, .file content)

/-- A path that leads to a place which was free led nowhere. -/
theorem FileStore.absent_of_free {s t : FileStore} (hgrows : Grows s t) {path : String}
    {l : Location} {e : Entry} (hfree : s.get? l = none) (hstat : t.stat path = .ok (l, e)) :
    s.leadsSomewhere path = false := by
  unfold leadsSomewhere
  cases hbefore : s.stat path with
  | error cause => exact Bool.and_false _
  | ok found =>
    obtain ⟨e', hafter, -⟩ := stat_grows hgrows hbefore
    cases hstat.symm.trans hafter
    exact nomatch hfree.symm.trans (get?_of_stat hbefore)

/-- In a store that is as it was, a path that led nowhere leads to no file. -/
theorem FileStore.read_of_absent {s : FileStore} {path : String}
    (habsent : s.leadsSomewhere path = false) (hpath : acceptable path = true) (content : Bytes) :
    s.read path ≠ .ok content := by
  intro hread
  obtain ⟨l, hstat⟩ := FileStore.read_eq_ok_iff.mp hread
  unfold FileStore.leadsSomewhere at habsent
  rw [hpath, hstat] at habsent
  exact nomatch habsent

namespace Split

variable {trees : TreeSource} {config : Config} {s : FileStore} {path : Path} {job : Job}
  {g : Grounds} {v : Survey} {report : Report}

/-- **The files of a job** are created with the texts of their callables. -/
theorem Prepared.creates (hg : Prepared trees config s path job g) (hv : v.Found trees s path)
    (h : (commit job s).result = .ok report) {o : Outcome} (ho : o ∈ report.outcomes) :
    o = .write o.callable (o.callable.target g.directory config.extension) ∧
      FileStore.Created s (commit job s).store (o.callable.target g.directory config.extension)
        (markedLike v.raw (Utf8.encode o.callable.text)) := by
  obtain ⟨hmodule, hbom, -, -⟩ := hg.names hv.resolved hv.read hv.decoded hv.parsed
  obtain ⟨l, hstat⟩ := FileStore.read_eq_ok_iff.mp hv.read
  rw [← hmodule] at hstat
  have hplanned : o ∈ job.plan.outcomes := by
    obtain ⟨written, -, -, -, rfl⟩ := commit_ok h
    exact hg.reportOutcomes ▸ ho
  obtain ⟨-, hwrite⟩ := hg.eq_write hplanned
  obtain ⟨hacceptable, k, hfree, hfile⟩ := commit_creates hstat hg.skipFree h hplanned
  have hpath : o.path = some (o.callable.target g.directory config.extension) :=
    congrArg Outcome.path hwrite
  rw [hpath, Option.getD_some] at hacceptable hfile
  rw [hbom, encodeFile_eq_markedLike hv.decoded] at hfile
  -- a place that is free after the backup was free before it
  have hfree' : s.get? k = none := by
    obtain ⟨written, hmade, -⟩ := commit_ok h
    exact (Backup.createAt_grows hmade).none hfree
  exact ⟨hwrite, FileStore.absent_of_free (commit_grows job s) hfree' hfile, hacceptable, k,
    hfree', hfile⟩

end Split

/-- **A report that is true.** It lists the callables that were located, its counts add up and agree
with the words for the outcomes, and what is called written came to be by the call. -/
structure Report.Faithful (r : Report) (v : Survey) (before after : FileStore) : Prop where
  outcomes : r.outcomes.map (·.callable) = v.callables
  total : r.extractedCount + r.skippedCount + r.withheldCount = r.outcomes.length
  extracted : r.countSaying saysExtracted = r.extractedCount
  skipped : r.countSaying saysSkipped = r.skippedCount
  withheld : r.countSaying saysWithheld = r.withheldCount
  /-- There are words for every outcome, and none is called not written. -/
  known : ∀ o ∈ r.outcomes, ∃ words, r.action o = .ok words ∧ words ≠ "not written"
  written : ∀ o ∈ r.outcomes, r.action o = .ok "written" ↔
    ∃ p, o.path = some p ∧ before.leadsSomewhere p.toString = false ∧
      acceptable p.toString = true ∧
      after.read p.toString = .ok (markedLike v.raw (Utf8.encode o.callable.text))

/-- **The report of a split matches what was done.** -/
theorem report_matches_run {trees : TreeSource} {config : Config} {path : Path} {s : FileStore}
    {report : Report} (h : (split trees config path s).result = .ok report) :
    ∃ v : Survey, v.Found trees s path ∧
      report.Faithful v s (split trees config path s).store := by
  have hsettled := Split.settled_of_split h
  obtain ⟨hextracted, hskipped, hwithheld⟩ := hsettled.counts
  obtain ⟨v, hv, hreported, hdone⟩ := Split.split_reported h
  refine ⟨v, hv, hreported.callables, hsettled.total, hextracted, hskipped, hwithheld,
    fun o ho => ?_, fun o ho => ?_⟩
  · obtain ⟨words, hwords⟩ := hsettled.worded ho
    exact ⟨words, hwords.action, hwords.known⟩
  · obtain ⟨words, hwords⟩ := hsettled.worded ho
    rw [hwords.action, Except.ok.injEq, hwords.written]
    rcases hdone with ⟨hstore, -, hfinished⟩ | ⟨job, g, hg, hcommit, hstore⟩
    · -- nothing was done: the words are others, and there is no file where there was none
      rw [hstore]
      constructor
      · rintro ⟨-, hfree, hreal⟩
        rcases hfinished.reason with hdry | hblocked | hnone
        · exact nomatch hreal.symm.trans (hfinished.dryRun.trans hdry)
        · exact nomatch hfree.symm.trans hblocked
        · rw [hnone] at ho
          exact absurd ho List.not_mem_nil
      · rintro ⟨p, -, habsent, hpath, hread⟩
        exact absurd hread (FileStore.read_of_absent habsent hpath _)
    · obtain ⟨-, hfree, hreal⟩ := hg.commit_report hcommit
      obtain ⟨hwrite, hcreated⟩ := hg.creates hv hcommit ho
      obtain ⟨k, -, hfile⟩ := hcreated.place
      rw [hstore]
      refine iff_of_true ⟨by rw [hwrite]; rfl, hfree, hreal⟩
        ⟨_, by rw [hwrite]; rfl, hcreated.absent, hcreated.acceptable, ?_⟩
      exact FileStore.read_eq_ok_iff.mpr ⟨k, hfile⟩

theorem report_matches_run_sample :
    ∃ (report : Report) (v : Survey),
      (split Sample.trees {} Sample.path Sample.store).result = .ok report ∧
      report.extractedCount = 1 ∧ v.Found Sample.trees Sample.store Sample.path ∧
      report.Faithful v Sample.store (split Sample.trees {} Sample.path Sample.store).store := by
  have hany : (split Sample.trees {} Sample.path Sample.store).result.toOption.any
      (·.extractedCount = 1) = true := by decide +kernel
  obtain ⟨report, hrun, hone⟩ := exists_ok_of_any hany
  obtain ⟨v, hv, hfaithful⟩ := report_matches_run hrun
  exact ⟨report, v, hrun, of_decide_eq_true hone, hv, hfaithful⟩

end Unbundle
