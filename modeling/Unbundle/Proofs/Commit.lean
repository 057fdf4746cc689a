import Unbundle.Proofs.Extraction
import Unbundle.Proofs.Interruption
import Unbundle.Proofs.Prepare

/-!
# How a job is carried out

A split changes the store only by carrying out a job (`split_cases`). Its journal then takes one
course, which may end early: a copy to the backup, additions, and last the module is overwritten.
Nothing follows the copy unless the backup was made (`commit_course`).
-/

namespace Unbundle

/-- Without a skip a file is written for every outcome. -/
theorem Extraction.write_eq {plan : Plan} (bom : Bool) (hskip : plan.anySkip = false) :
    write plan bom = writeAll bom plan.outcomes := by
  rw [write, if_neg (by simp [hskip]), Plan.writes_eq hskip]

namespace Split

open Work (Within)
open Operation (IsAddition replay)

/-- The operations of a job, as far as it got. -/
inductive Course (s : FileStore) (source backup : Path) (content : Bytes) : List Operation → Prop
  | idle : Course s source backup content []
  | copied {inside : String} {raw : Bytes}
      (hcopy : Backup.prepareCopy s source backup = .ok (inside, raw)) :
      Course s source backup content [.overwrite inside raw]
  | extracted {inside : String} {raw : Bytes} {additions : List Operation}
      (hcopy : Backup.prepareCopy s source backup = .ok (inside, raw))
      (hmade : (Backup.createAt source backup s).result = .ok ())
      (hadd : ∀ op ∈ additions, op.IsAddition) :
      Course s source backup content (.overwrite inside raw :: additions)
  | replaced {inside : String} {raw : Bytes} {additions : List Operation}
      (hcopy : Backup.prepareCopy s source backup = .ok (inside, raw))
      (hmade : (Backup.createAt source backup s).result = .ok ())
      (hadd : ∀ op ∈ additions, op.IsAddition) :
      Course s source backup content
        (.overwrite inside raw :: additions ++ [.overwrite source.toString content])

variable {trees : TreeSource} {config : Config} {s : FileStore} {path : Path} {job : Job}

/-! ## Steps -/

/-- A step is entered, or it comes upon a text without an encoding. -/
theorem enter_run (job : Job) (step : Step) (s : FileStore) :
    (step ∉ job.halted ∧ enter job step s = ⟨s, [], [], .ok ()⟩) ∨
      step ∈ job.halted ∧ enter job step s = ⟨s, [], [], .error .unencodable⟩ := by
  unfold enter Work.check
  by_cases h : step ∈ job.halted
  · exact Or.inr ⟨h, by simp [h]⟩
  · exact Or.inl ⟨h, by simp [h]⟩

theorem enter_ok {step : Step} {u : Unit} (h : (enter job step s).result = .ok u) :
    step ∉ job.halted ∧ enter job step s = ⟨s, [], [], .ok ()⟩ := by
  rcases enter_run job step s with hrun | ⟨-, hrun⟩
  · exact hrun
  · rw [hrun] at h
    exact nomatch h

theorem within_enter {ops : Operation → Prop} {errors : Error → Prop} {step : Step}
    (h : step ∈ job.halted → errors .unencodable) : Within ops errors (enter job step) := by
  refine .check fun s e he => ?_
  split at he
  next hstep =>
    cases he
    exact h (by simpa using hstep)
  next => exact nomatch he

/-- A step that is entered changes nothing. -/
theorem enter_bind {α : Type} (job : Job) (step : Step) (f : Unit → Work α) (s : FileStore) :
    (step ∉ job.halted ∧ (enter job step >>= f) s = f () s) ∨
      step ∈ job.halted ∧ (enter job step >>= f) s = ⟨s, [], [], .error .unencodable⟩ := by
  rcases enter_run job step s with ⟨hstep, hrun⟩ | ⟨hstep, hrun⟩
  · refine Or.inl ⟨hstep, ?_⟩
    rw [Work.bind_of_ok (by rw [hrun]), hrun]
    rfl
  · refine Or.inr ⟨hstep, ?_⟩
    rw [Work.bind_of_error (by rw [hrun]), hrun]

/-! ## The files -/

theorem nameless?_eq_some {o : Outcome} (h : nameless? job = some o) :
    .file ∈ job.halted ∧ o ∈ job.plan.writes := by
  unfold nameless? at h
  split at h
  next hfile => exact ⟨by simpa using hfile, List.mem_of_mem_head? h⟩
  next => exact nomatch h

/-- What bounds the errors of the files of a job. -/
theorem within_extract {errors : Error → Prop}
    (hfiles : Within IsAddition errors (Extraction.write job.plan job.bom))
    (hhalted : .directories ∈ job.halted ∨ .file ∈ job.halted → errors .unencodable)
    (hparents : ∀ o ∈ job.plan.writes,
      Within IsAddition errors (ModuleFile.makeParents (o.path.getD {}))) :
    Within IsAddition errors (extract job) := by
  refine .bind (within_enter fun h => hhalted (Or.inl h)) fun _ => ?_
  split
  next first hfirst =>
    obtain ⟨hfile, hmem⟩ := nameless?_eq_some hfirst
    exact .bind (hparents first hmem) fun _ => .fail (hhalted (Or.inr hfile))
  next => exact hfiles

theorem extract_adds (job : Job) : Within IsAddition (fun _ => True) (extract job) :=
  within_extract (Extraction.write_adds job.plan job.bom) (fun _ => trivial) fun _ _ =>
    ModuleFile.makeParents_adds (fun _ => trivial) (fun _ => trivial) trivial

/-- What is done for the files of a job: nothing, directories only, or all of it. -/
theorem extract_run (job : Job) (s : FileStore) :
    (.directories ∈ job.halted ∧ extract job s = ⟨s, [], [], .error .unencodable⟩) ∨
      (∃ first ∈ job.plan.writes, .file ∈ job.halted ∧ extract job s =
        (ModuleFile.makeParents (first.path.getD {}) >>= fun _ => Work.fail .unencodable) s) ∨
      extract job s = Extraction.write job.plan job.bom s := by
  unfold extract
  rcases enter_bind job .directories _ s with ⟨-, hrun⟩ | hhalted
  · rw [hrun]
    cases hfirst : nameless? job with
    | some first =>
      obtain ⟨hfile, hmem⟩ := nameless?_eq_some hfirst
      exact Or.inr (Or.inl ⟨first, hmem, hfile, rfl⟩)
    | none => exact Or.inr (Or.inr rfl)
  · exact Or.inl hhalted

/-- If the files of a job are created, this is all that is done for them. -/
theorem extract_ok {written : List Path} (h : (extract job s).result = .ok written) :
    extract job s = Extraction.write job.plan job.bom s := by
  rcases extract_run job s with ⟨-, hrun⟩ | ⟨first, -, -, hrun⟩ | hrun
  · rw [hrun] at h
    exact nomatch h
  · rw [hrun] at h
    obtain ⟨u, -, h, -⟩ := Work.bind_ok h
    exact nomatch h
  · exact hrun

/-- Why the files of a job are not all created: a text has no encoding, or one of the files is
hindered. -/
theorem extract_stops {e : Error} (hskip : job.plan.anySkip = false)
    (h : (extract job s).result = .error e) :
    (e = .unencodable ∧ (.directories ∈ job.halted ∨ .file ∈ job.halted)) ∨
      ∃ o ∈ job.plan.outcomes, ModuleFile.Hinders s (o.path.getD {}) e := by
  rcases extract_run job s with ⟨hstep, hrun⟩ | ⟨first, hmem, hfile, hrun⟩ | hrun
  · rw [hrun] at h
    cases h
    exact Or.inl ⟨rfl, Or.inl hstep⟩
  · rw [hrun] at h
    rw [Plan.writes_eq hskip] at hmem
    cases hmade : (ModuleFile.makeParents (first.path.getD {}) s).result with
    | ok u =>
      rw [Work.bind_of_ok hmade] at h
      cases h
      exact Or.inl ⟨rfl, Or.inr hfile⟩
    | error e' =>
      rw [Work.bind_of_error hmade] at h
      cases h
      exact Or.inr ⟨first, hmem, (ModuleFile.makeParents_run _ s).2 e hmade⟩
  · rw [hrun, Extraction.write_eq job.bom hskip] at h
    obtain ⟨whole, torn, -, -, ⟨hok, -⟩ | ⟨e', o, rest, hresult, horder, hhinders, -⟩⟩ :=
      Extraction.writeAll_run job.bom (job.plan.outcomes.map (·.path.getD {})) s
        fun o ho => List.mem_map_of_mem ho
    · exact nomatch h.symm.trans hok
    · obtain rfl := Except.error.inj (h.symm.trans hresult)
      refine Or.inr ⟨o, ?_, hhinders⟩
      rw [horder]
      exact List.mem_append_right _ (List.mem_cons_self ..)

/-! ## Carrying out -/

/-- The last part of a job: the module is overwritten. -/
def finish (job : Job) (written : List Path) : Work Report := do
  enter job .module
  ModuleFile.write job.report.module job.text job.bom
  Work.tell (.moduleReplaced job.report.module.name written.length)
  return { job.report with written, replaced := true }

/-- A job after its backup. -/
def afterBackup (job : Job) : Work Report := do
  let written ← extract job
  finish job written

/-- A job whose backup has a path with an encoding. -/
def begun (job : Job) : Work Report := do
  Backup.createAt job.report.module job.backup
  afterBackup job

/-- A job is begun, or nothing is done. -/
theorem commit_run (job : Job) (s : FileStore) :
    (.backup ∉ job.halted ∧ commit job s = begun job s) ∨
      .backup ∈ job.halted ∧ commit job s = ⟨s, [], [], .error .unencodable⟩ :=
  enter_bind job .backup (fun _ => begun job) s

theorem finish_journal (job : Job) (written : List Path) (s : FileStore) :
    (finish job written s).journal = [] ∨ (finish job written s).journal =
      [.overwrite job.report.module.toString (Utf8.encodeFile job.text job.bom)] := by
  unfold finish
  rcases enter_bind job .module _ s with ⟨-, hrun⟩ | ⟨-, hrun⟩
  · rw [hrun, (Work.bind_silent (fun _ => .bind (.tell _) fun _ => .pure _) s).1]
    exact Work.perform_journal ..
  · rw [hrun]
    exact Or.inl rfl

/-- After the backup there are additions, and perhaps the module is overwritten. -/
theorem afterBackup_journal (job : Job) (s : FileStore) :
    ∃ additions, (∀ op ∈ additions, IsAddition op) ∧
      ((afterBackup job s).journal = additions ∨
        (afterBackup job s).journal = additions ++
          [.overwrite job.report.module.toString (Utf8.encodeFile job.text job.bom)]) := by
  refine ⟨(extract job s).journal, (extract_adds job).journal s, ?_⟩
  unfold afterBackup
  cases hwritten : (extract job s).result with
  | error e => exact Or.inl (by rw [Work.bind_of_error hwritten])
  | ok written =>
    rw [Work.bind_of_ok hwritten]
    rcases finish_journal job written (extract job s).store with h | h
    · exact Or.inl (by simp [h])
    · exact Or.inr (by simp [h])

/-- **The journal of a job takes its course.** -/
theorem commit_course (job : Job) (s : FileStore) :
    Course s job.report.module job.backup (Utf8.encodeFile job.text job.bom)
      (commit job s).journal := by
  rcases commit_run job s with ⟨-, hrun⟩ | ⟨-, hrun⟩
  · rw [hrun, begun]
    cases hmade : (Backup.createAt job.report.module job.backup s).result with
    | error e =>
      -- without a backup nothing follows the copy, if there was one
      rw [Work.bind_of_error hmade]
      rcases Backup.createAt_journal s job.report.module job.backup with
        ⟨h, -⟩ | ⟨inside, raw, hcopy, h, -⟩
      · simp only [h]
        exact .idle
      · simp only [h]
        exact .copied hcopy
    | ok u =>
      obtain ⟨inside, raw, hcopy, hjournal, -, -⟩ := Backup.createAt_ok hmade
      rw [Work.bind_of_ok hmade]
      simp only [hjournal]
      obtain ⟨additions, hadd, h | h⟩ := afterBackup_journal job (Backup.createAt
        job.report.module job.backup s).store
      · simp only [h]
        exact .extracted hcopy hmade hadd
      · simp only [h]
        exact .replaced hcopy hmade hadd
  · rw [hrun]
    exact .idle

/-- A job that was carried out to its end: its backup was made, its files were written, and the
module was overwritten. -/
theorem commit_ok {report : Report} (h : (commit job s).result = .ok report) :
    ∃ written,
      (Backup.createAt job.report.module job.backup s).result = .ok () ∧
      (Extraction.write job.plan job.bom
        (Backup.createAt job.report.module job.backup s).store).result = .ok written ∧
      (Operation.overwrite job.report.module.toString (Utf8.encodeFile job.text job.bom)).apply
        (Extraction.write job.plan job.bom
          (Backup.createAt job.report.module job.backup s).store).store
        = .ok (commit job s).store ∧
      report = { job.report with written, replaced := true } := by
  rcases commit_run job s with ⟨-, hrun⟩ | ⟨-, hrun⟩
  · rw [hrun] at h ⊢
    obtain ⟨u, hmade, h, hstore, -⟩ := Work.bind_ok h
    obtain ⟨written, hwritten, h, hstore', -⟩ := Work.bind_ok h
    obtain ⟨u', henter, h, hstore'', -⟩ := Work.bind_ok h
    rw [(enter_ok henter).2] at h hstore''
    obtain ⟨u'', hwrite, h, hfinal, -⟩ := Work.bind_ok h
    obtain ⟨happly, -⟩ := Work.perform_ok hwrite
    obtain rfl := Except.ok.inj h
    have hextract := extract_ok hwritten
    rw [hextract] at hwritten happly hstore' hstore'' hfinal
    refine ⟨written, hmade, hwritten, ?_, rfl⟩
    rw [happly]
    exact congrArg Except.ok (hstore.trans (hstore'.trans (hstore''.trans hfinal))).symm
  · rw [hrun] at h
    exact nomatch h

/-- If the module is not overwritten, nothing is done, unless this is broken off. -/
theorem finish_error {written : List Path} {e : Error}
    (h : (finish job written s).result = .error e) :
    (finish job written s).store = s ∨
      ∃ trouble, e = .write job.report.module ⟨.trouble trouble, job.report.module.toString⟩ ∧
        (Operation.overwrite job.report.module.toString
          (Utf8.encodeFile job.text job.bom)).BreaksOff s (finish job written s).store trouble := by
  unfold finish at h ⊢
  rcases enter_bind job .module _ s with ⟨-, hrun⟩ | ⟨-, hrun⟩
  · rw [hrun] at h ⊢
    unfold ModuleFile.write at h ⊢
    rcases Work.perform_cases (.write job.report.module)
      (.overwrite job.report.module.toString (Utf8.encodeFile job.text job.bom)) s with
      ⟨hdone, -⟩ | ⟨e', hfault, hstore⟩ | ⟨trouble, hfault, hbroken⟩
    · rw [Work.bind_of_ok hdone] at h
      exact nomatch h
    · rw [Work.bind_of_error hfault]
      exact Or.inl hstore
    · rw [Work.bind_of_error hfault] at h ⊢
      exact Or.inr ⟨trouble, (Except.error.inj h).symm, hbroken⟩
  · rw [hrun]
    exact Or.inl rfl

/-- The last step of a job is broken off, which leaves the store `t`: the backup is made and the
files are there, but the module is overwritten in part. -/
def LastStepBroken (job : Job) (s t : FileStore) (e : Error) : Prop :=
  (Backup.createAt job.report.module job.backup s).result = .ok () ∧
    ∃ u trouble, FileStore.Extends (Backup.createAt job.report.module job.backup s).store u ∧
      e = .write job.report.module ⟨.trouble trouble, job.report.module.toString⟩ ∧
      (Operation.overwrite job.report.module.toString
        (Utf8.encodeFile job.text job.bom)).BreaksOff u t trouble

/-- A job that was begun and fails has only added to what its backup left, or its last step is
broken off. -/
theorem begun_error {e : Error} (h : (begun job s).result = .error e) :
    FileStore.Extends (Backup.createAt job.report.module job.backup s).store
        (begun job s).store ∨
      LastStepBroken job s (begun job s).store e := by
  unfold LastStepBroken begun at *
  cases hmade : (Backup.createAt job.report.module job.backup s).result with
  | error e' =>
    rw [Work.bind_of_error hmade]
    exact Or.inl (.refl _)
  | ok u =>
    rw [Work.bind_of_ok hmade] at h ⊢
    have hadds := (extract_adds job).extends
      (Backup.createAt job.report.module job.backup s).store
    unfold afterBackup at h ⊢
    cases hwritten : (extract job
        (Backup.createAt job.report.module job.backup s).store).result with
    | error e' =>
      rw [Work.bind_of_error hwritten]
      exact Or.inl hadds
    | ok written =>
      rw [Work.bind_of_ok hwritten] at h ⊢
      rcases finish_error h with hstore | ⟨trouble, herror, hbroken⟩
      · simp only [hstore]
        exact Or.inl hadds
      · exact Or.inr ⟨rfl, _, trouble, hadds, herror, hbroken⟩

/-- **A job that fails** has done nothing, or only added to what its backup left, or its last step
is broken off. -/
theorem commit_error {e : Error} (h : (commit job s).result = .error e) :
    (commit job s).store = s ∨
      FileStore.Extends (Backup.createAt job.report.module job.backup s).store
        (commit job s).store ∨
      LastStepBroken job s (commit job s).store e := by
  rcases commit_run job s with ⟨-, hrun⟩ | ⟨-, hrun⟩
  · rw [hrun] at h ⊢
    exact Or.inr (begun_error h)
  · rw [hrun]
    exact Or.inl rfl

/-- At its end a job overwrites the module. What led elsewhere still does. -/
theorem commit_overwrites {report : Report} {raw : Bytes} {l : Location}
    (hsource : s.stat job.report.module.toString = .ok (l, .file raw))
    (h : (commit job s).result = .ok report) :
    (commit job s).store.stat job.report.module.toString =
        .ok (l, .file (Utf8.encodeFile job.text job.bom)) ∧
      ∀ {p : String} {k : Location} {e : Entry}, k ≠ l →
        (Extraction.write job.plan job.bom (Backup.createAt job.report.module job.backup
          s).store).store.stat p = .ok (k, e) →
        (commit job s).store.stat p = .ok (k, e) := by
  obtain ⟨written, hmade, -, happly, -⟩ := commit_ok h
  obtain ⟨hkept, -⟩ := Backup.createAt_secures hsource hmade
  have hsource' := FileStore.stat_of_grows (Backup.createAt_grows hmade) hsource hkept
  have hextends := (Extraction.write_adds job.plan job.bom).extends
    (Backup.createAt job.report.module job.backup s).store
  obtain ⟨hmodule, hothers⟩ :=
    Operation.overwrite_found happly (FileStore.stat_extends hextends hsource')
  exact ⟨hmodule, fun hk hstat => hothers hk hstat⟩

/-- The file of every outcome is new: its place was free when the backup was made. -/
theorem commit_creates {report : Report} {raw : Bytes} {l : Location}
    (hsource : s.stat job.report.module.toString = .ok (l, .file raw))
    (hskip : job.plan.anySkip = false) (h : (commit job s).result = .ok report)
    {o : Outcome} (ho : o ∈ job.plan.outcomes) :
    FileStore.acceptable (o.path.getD {}).toString = true ∧
      ∃ k, (Backup.createAt job.report.module job.backup s).store.get? k = none ∧
        (commit job s).store.stat (o.path.getD {}).toString =
          .ok (k, .file (Utf8.encodeFile o.callable.text job.bom)) := by
  obtain ⟨written, hmade, hwritten, -, -⟩ := commit_ok h
  obtain ⟨hkept, -⟩ := Backup.createAt_secures hsource hmade
  have hwrite := Extraction.write_eq job.bom hskip
  rw [hwrite] at hwritten
  obtain ⟨-, hcreated⟩ := Extraction.writeAll_ok hwritten
  obtain ⟨k, hfree, hstat⟩ := hcreated o ho
  have hne : k ≠ l := by
    rintro rfl
    exact nomatch hkept.symm.trans hfree
  rw [← hwrite] at hstat
  exact ⟨Extraction.acceptable_of_writeAll hwritten o ho, k, hfree,
    (commit_overwrites hsource h).2 hne hstat⟩

/-- **What a job leaves.** When it was carried out to its end, the new module is in the place of
the old one, the old one is in its backup, and every callable is in its file. These are different
files. -/
theorem commit_places {report : Report} {raw : Bytes} {l : Location}
    (hsource : s.stat job.report.module.toString = .ok (l, .file raw))
    (hskip : job.plan.anySkip = false) (h : (commit job s).result = .ok report) :
    (commit job s).store.stat job.report.module.toString =
        .ok (l, .file (Utf8.encodeFile job.text job.bom)) ∧
      (∃ m, m ≠ l ∧ (commit job s).store.stat job.backup.toString = .ok (m, .file raw) ∧
        ∀ o ∈ job.plan.outcomes, ∃ k, k ≠ l ∧ k ≠ m ∧
          (commit job s).store.stat (o.path.getD {}).toString =
            .ok (k, .file (Utf8.encodeFile o.callable.text job.bom))) ∧
      report = { job.report with
        written := job.plan.outcomes.map (·.path.getD {}), replaced := true } := by
  obtain ⟨hmodule, hothers⟩ := commit_overwrites hsource h
  have hcreates := fun o => commit_creates hsource hskip h (o := o)
  obtain ⟨written, hmade, hwritten, -, rfl⟩ := commit_ok h
  obtain ⟨hkept, m, hml, hbackup⟩ := Backup.createAt_secures hsource hmade
  have hextends := (Extraction.write_adds job.plan job.bom).extends
    (Backup.createAt job.report.module job.backup s).store
  rw [Extraction.write_eq job.bom hskip] at hwritten
  obtain ⟨hpaths, -⟩ := Extraction.writeAll_ok hwritten
  refine ⟨hmodule, ⟨m, hml, ?_, fun o ho => ?_⟩, by rw [hpaths]⟩
  · exact hothers hml (FileStore.stat_extends hextends hbackup)
  · obtain ⟨-, k, hfree, hstat⟩ := hcreates o ho
    -- the file is new, so it is neither the module nor the backup
    have hne : ∀ {l' : Location} {e : Entry}, (Backup.createAt job.report.module job.backup
        s).store.get? l' = some e → k ≠ l' := by
      rintro l' e hget rfl
      exact nomatch hget.symm.trans hfree
    exact ⟨k, hne hkept, hne (FileStore.get?_of_stat hbackup), hstat⟩

/-- What bounds the errors of a job: those of its backup, of its files and of its module, and of
texts without an encoding. -/
theorem within_commit {errors : Error → Prop}
    (hhalted : job.halted ≠ [] → errors .unencodable)
    (hbackup : Within (fun _ => True) errors (Backup.createAt job.report.module job.backup))
    (hfiles : Within IsAddition errors (extract job))
    (hmodule : MayHand errors job.report.module)
    (hwrite : ∀ fault, errors (.write job.report.module fault)) :
    Within (fun _ => True) errors (commit job) :=
  .bind (within_enter fun h => hhalted (List.ne_nil_of_mem h)) fun _ =>
    .bind hbackup fun _ => .bind (hfiles.mono (fun _ _ => trivial) fun _ => id) fun _ =>
      .bind (within_enter fun h => hhalted (List.ne_nil_of_mem h)) fun _ =>
        .bind (.perform trivial hmodule hwrite) fun _ => .bind (.tell _) fun _ => .pure _

/-! ## Splits -/

/-- A split that does not carry out a job leaves the store as it is. -/
theorem split_cases (trees : TreeSource) (config : Config) (path : Path) (s : FileStore) :
    ((split trees config path s).journal = [] ∧ (split trees config path s).store = s ∧
      ((∃ e, (prepare trees config s path).result = .error e ∧
          (split trees config path s).result = .error e) ∨
        ∃ report, (prepare trees config s path).result = .ok (.finish report) ∧
          (split trees config path s).result = .ok report)) ∨
      ∃ job, (prepare trees config s path).result = .ok (.carryOut job) ∧
        (split trees config path s).journal = (commit job s).journal ∧
        (split trees config path s).store = (commit job s).store ∧
        (split trees config path s).result = (commit job s).result := by
  unfold split
  cases hprepare : (prepare trees config s path).result with
  | error e =>
    rw [Work.bind_of_error (show (Work.look (fun s => prepare trees config s path) s).result = _
      from hprepare)]
    exact Or.inl ⟨rfl, rfl, Or.inl ⟨e, rfl, rfl⟩⟩
  | ok decision =>
    rw [Work.bind_of_ok (show (Work.look (fun s => prepare trees config s path) s).result = _
      from hprepare)]
    cases decision with
    | finish report => exact Or.inl ⟨rfl, rfl, Or.inr ⟨report, rfl, rfl⟩⟩
    | carryOut job => exact Or.inr ⟨job, rfl, rfl, rfl, rfl⟩

/-- A split with a report has replaced and written nothing, or a job was carried out to its end. -/
theorem split_ok {report : Report} (h : (split trees config path s).result = .ok report) :
    (report.replaced = false ∧ report.written = []) ∨
      ∃ job g, Prepared trees config s path job g ∧ (commit job s).result = .ok report ∧
        (split trees config path s).store = (commit job s).store := by
  rcases split_cases trees config path s with
    ⟨-, -, ⟨e, -, hresult⟩ | ⟨report', hfinish, hresult⟩⟩ | ⟨job, hprepare, -, hstore, hresult⟩
  · exact nomatch hresult.symm.trans h
  · obtain rfl := Except.ok.inj (hresult.symm.trans h)
    have hfinished := prepare_finish hfinish
    exact Or.inl ⟨hfinished.replaced, hfinished.written⟩
  · obtain ⟨g, hg⟩ := prepare_carryOut hprepare
    exact Or.inr ⟨job, g, hg, hresult.symm.trans h, hstore⟩

theorem commit_within (job : Job) : Within (fun _ => True) (fun _ => True) (commit job) :=
  within_commit (fun _ => trivial)
    (Backup.within_createAt (fun _ => trivial)
      (Backup.within_copyTested (fun _ _ _ => trivial) (fun _ => trivial) fun _ _ _ => trivial))
    (extract_adds job) (fun _ => trivial) fun _ => trivial

theorem commit_grows (job : Job) (s : FileStore) : FileStore.Grows s (commit job s).store := by
  rw [(commit_within job).logged s]
  exact Operation.replay_grows _ s

/-- The journal of a split accounts for every change. -/
theorem split_logged (trees : TreeSource) (config : Config) (path : Path) (s : FileStore) :
    (split trees config path s).store = replay s (split trees config path s).journal := by
  have hsplit : Within (fun _ => True) (fun _ => True) (split trees config path) :=
    .bind (.look fun _ _ _ => trivial) fun decision =>
      match decision with
      | .finish report => .pure report
      | .carryOut job => commit_within job
  exact hsplit.logged s

/-- A split carries out nothing, or a job that was prepared takes its course. -/
theorem split_course (trees : TreeSource) (config : Config) (path : Path) (s : FileStore) :
    (split trees config path s).journal = [] ∨
      ∃ job g, Prepared trees config s path job g ∧
        Course s job.report.module job.backup (Utf8.encodeFile job.text job.bom)
          (split trees config path s).journal := by
  rcases split_cases trees config path s with ⟨hjournal, -⟩ | ⟨job, hprepare, hjournal, -⟩
  · exact Or.inl hjournal
  · obtain ⟨g, hg⟩ := prepare_carryOut hprepare
    exact Or.inr ⟨job, g, hg, hjournal ▸ commit_course job s⟩

end Split

/-! ## A small module

A comment that is not plain ASCII and one function after it, with a byte order mark and carriage
returns. -/

namespace Sample

def text : String := "#é\r\nfunction A \x7b\x7d\r\n"

def raw : Bytes := Utf8.encodeFile text true

def root : Node :=
  .mk { kind := "program", start := 0, stop := 20, named := true } [
    .mk { kind := "comment", start := 0, stop := 3, named := true } [],
    .mk { kind := "statement_list", start := 5, stop := 18, named := true } [
      .mk { kind := "function_statement", start := 5, stop := 18, named := true } [
        .mk { kind := "function", start := 5, stop := 13 } [],
        .mk { kind := "function_name", start := 14, stop := 15, named := true } [],
        .mk { kind := "\x7b", start := 16, stop := 17 } [],
        .mk { kind := "\x7d", start := 17, stop := 18 } []]]]

/-- The tree of the text without the function. -/
def rest : Node :=
  .mk { kind := "program", start := 0, stop := 7, named := true } [
    .mk { kind := "comment", start := 0, stop := 3, named := true } []]

def trees : TreeSource := fun _ given => some (if given = text then root else rest)

def path : Path := ⟨.slash, ["M.psm1"]⟩

def store : FileStore := { entries := [(["M.psm1"], .file raw)] }

end Sample

end Unbundle
