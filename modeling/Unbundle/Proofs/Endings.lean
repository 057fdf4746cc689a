import Unbundle.CommandLine.Run
import Unbundle.Proofs.Decisions
import Unbundle.Proofs.SoundTrees

/-!
# How splits and calls end

A split is documented to end with a report, or with an error about its input, its backup or a write.
There are more ways. Some come before anything is changed (`Unforeseen`): looking at the path of the
module or of the backup may fail for a name that is too long or for a trouble, a tree may be
missing, and a suffix may make no name, or one without an encoding. Others come when the backup is
already made (`Belated`): too many directories may be missing, or a text that is to be written has
no encoding. The module is then as it was, and so is its backup (`Abandoned`). A report can always
be rendered, so a call that got as far as its work ends with an exit code, but for these ways, for a
log level that is taken for something else, and for a report that cannot be printed
(`endings_documented`).
-/

namespace Unbundle

open FileStore (acceptable)
open Work (Within)
open Attempt (Ends)

/-! ## What is expected -/

/-- The errors that a split is documented to end with. -/
def Error.IsDocumented : Error → Prop
  | .input _ | .backup _ _ _ | .backupDiffers _ _ | .write _ _ => True
  | _ => False

/-- A configuration whose fields are texts without NUL. -/
structure Config.IsText (config : Config) : Prop where
  publicDir : ∃ name, config.publicDir = .ok name ∧ acceptable name = true
  privateDir : ∃ name, config.privateDir = .ok name
  extension : acceptable config.extension = true
  backupSuffix : ∃ suffix, config.backupSuffix = .ok suffix ∧ acceptable suffix = true

theorem Config.IsText.nulFree {config : Config} (h : config.IsText) : config.NulFree := by
  obtain ⟨name, hname, hnul⟩ := h.publicDir
  obtain ⟨suffix, hsuffix, hnul'⟩ := h.backupSuffix
  refine ⟨fun name' hname' => ?_, h.extension, fun suffix' hsuffix' => ?_⟩
  · rwa [← Except.ok.inj (hname.symm.trans hname')]
  · rwa [← Except.ok.inj (hsuffix.symm.trans hsuffix')]

/-- A store without NUL in its names. -/
def FileStore.NulFree (s : FileStore) : Prop :=
  ∀ l e, s.get? l = some e → ∀ name ∈ l, acceptable name = true

/-- A tree that can be the tree of a text. -/
structure Node.Fits (text : String) (root : Node) : Prop where
  sound : root.Sound
  inside : root.info.stop ≤ (Utf8.encode text).length
  aligned : Aligned text root

/-- The first tree for the module at a path, if there is one, fits its text. -/
def FirstFits (trees : TreeSource) (s : FileStore) (path : Path) : Prop :=
  ∀ source text bom root, ModuleFile.resolve s path = .ok source →
    ModuleFile.read s source = .ok (text, bom) → trees 0 text = some root → root.Fits text

/-- The causes that are told of when a path is looked at. All others mean that it leads nowhere. -/
inductive Cause.IsTold : Cause → Prop
  | nameTooLong : IsTold (.layout .nameTooLong)
  | trouble (t : Trouble) : IsTold (.trouble t)

/-- The errors besides the documented ones that a split ends with before anything is changed. -/
inductive Unforeseen (trees : TreeSource) (config : Config) (s : FileStore) (path : Path) :
    Error → Prop
  /-- The module cannot be looked at. -/
  | module {cause : Cause} (h : s.stat path.toString = .error cause) (htold : cause.IsTold) :
      Unforeseen trees config s path (.file ⟨cause, path.toString⟩)
  /-- There is no tree for a text, or none that can be walked through. -/
  | tree {k : Nat} {text : String} (h : trees k text = none) :
      Unforeseen trees config s path .outOfTrees
  /-- The name of the module and the suffix make no name. -/
  | suffix {source : Path} {suffix : String} {e : Path.NameError}
      (hsource : ModuleFile.resolve s path = .ok source)
      (hsuffix : config.backupSuffix = .ok suffix)
      (h : source.withName (source.name ++ suffix) = .error e) :
      Unforeseen trees config s path (.invalid (.name e))
  /-- The path of the backup has no encoding. -/
  | unencodable (h : .backup ∈ config.halted) : Unforeseen trees config s path .unencodable
  /-- The place of the backup cannot be looked at. -/
  | backup {source target : Path} {cause : Cause}
      (hsource : ModuleFile.resolve s path = .ok source)
      (htarget : Split.backupFor source config = .ok target)
      (h : s.stat target.toString = .error cause) (htold : cause.IsTold) :
      Unforeseen trees config s path (.file ⟨cause, target.toString⟩)

/-- The errors besides the documented ones that a split ends with after its backup. -/
inductive Belated (trees : TreeSource) (config : Config) (s : FileStore) (path : Path) :
    Error → Prop
  /-- More directories are missing above the file of a callable than can be made. -/
  | tooDeep {source directory : Path} {text : String} {bom : Bool} {root : Node} {c : Callable}
      (hsource : ModuleFile.resolve s path = .ok source)
      (htext : ModuleFile.read s source = .ok (text, bom)) (hroot : trees 0 text = some root)
      (hc : c ∈ Callable.locate (Utf8.encode text) root)
      (hdirectory : Split.targetDirectory source config = .ok directory)
      (h : s.conditions.maxMissing <
        (c.target directory config.extension).parent.parts.length) :
      Belated trees config s path .tooDeep
  /-- The path of a file or the text of the module has no encoding. -/
  | unencodable {step : Step} (hstep : step ∈ [Step.directories, .file, .module])
      (h : step ∈ config.halted) : Belated trees config s path .unencodable

/-- What a store is like after a split that was abandoned when its backup was made: the module and
its backup hold the bytes of the module, and nothing else that the backup left is changed. -/
def Abandoned (config : Config) (s : FileStore) (path : Path) (t : FileStore) : Prop :=
  ∃ source backup raw, ModuleFile.resolve s path = .ok source ∧
    Split.backupFor source config = .ok backup ∧ s.read source.toString = .ok raw ∧
    t.read source.toString = .ok raw ∧ t.read backup.toString = .ok raw ∧
    FileStore.Extends (Backup.createAt source backup s).store t

/-- A split that fails ends as it is documented, or in one of the other ways. -/
def SplitEnds (trees : TreeSource) (config : Config) (s : FileStore) (path : Path) (t : FileStore)
    (e : Error) : Prop :=
  e.IsDocumented ∨ Unforeseen trees config s path e ∧ t = s ∨
    Belated trees config s path e ∧ Abandoned config s path t

/-! ## Modules that cannot be used -/

namespace FileStore

variable {s : FileStore} {path : Path}

/-- Looking at a path fails only for a cause that is told of. -/
theorem probe_error {fault : Fault} (h : s.probe path = .error fault) :
    ∃ cause, s.stat path.toString = .error cause ∧ cause.IsTold ∧
      fault = ⟨cause, path.toString⟩ := by
  unfold probe at h
  split at h
  next => exact nomatch h
  next =>
    split at h
    next => exact nomatch h
    next cause hstat =>
      split at h
      next hkind =>
        cases h
        refine ⟨cause, hstat, ?_, rfl⟩
        cases cause with
        | trouble t => exact .trouble t
        | layout kind =>
          obtain rfl : kind = .nameTooLong := hkind
          exact .nameTooLong
      next => exact nomatch h

end FileStore

namespace ModuleFile

variable {s : FileStore} {path : Path}

theorem resolve_error {e : Error} (h : resolve s path = .error e) :
    (∃ cause, e = .input cause) ∨
      ∃ cause, s.stat path.toString = .error cause ∧ cause.IsTold ∧
        e = .file ⟨cause, path.toString⟩ := by
  unfold resolve at h
  split at h
  next fault hprobe =>
    cases h
    obtain ⟨cause, hstat, htold, rfl⟩ := FileStore.probe_error hprobe
    exact Or.inr ⟨cause, hstat, htold, rfl⟩
  next =>
    cases h
    exact Or.inl ⟨_, rfl⟩
  next content hprobe =>
    split at h
    next =>
      cases h
      exact Or.inl ⟨_, rfl⟩
    next =>
      -- the path was just seen to lead to a file
      obtain ⟨l, hstat⟩ := FileStore.probe_some hprobe
      rw [hstat] at h
      exact nomatch h
  next =>
    cases h
    exact Or.inl ⟨_, rfl⟩

theorem read_error {e : Error} (hpath : acceptable path.toString = true)
    (h : read s path = .error e) : ∃ cause, e = .input cause := by
  unfold read at h
  split at h
  next e' hread =>
    cases h
    rcases readBytes_error hread with ⟨hbad, -⟩ | ⟨fault, rfl⟩
    · exact nomatch hpath.symm.trans hbad
    · exact ⟨_, rfl⟩
  next =>
    obtain ⟨flaw, -, rfl⟩ := mapError_eq_error.mp h
    exact ⟨_, rfl⟩

/-- The path of a module is made of names in the store. -/
theorem acceptable_resolve {source : Path} (hstore : s.NulFree)
    (h : resolve s path = .ok source) : acceptable source.toString = true := by
  obtain ⟨-, l, content, hstat, rfl⟩ := resolve_found h
  exact Path.acceptable_toString_iff.mpr (hstore l _ (FileStore.get?_of_stat hstat))

theorem resolve_ends (trees : TreeSource) (config : Config) {e : Error}
    (h : resolve s path = .error e) : e.IsDocumented ∨ Unforeseen trees config s path e := by
  rcases resolve_error h with ⟨cause, rfl⟩ | ⟨cause, hstat, htold, rfl⟩
  · exact Or.inl trivial
  · exact Or.inr (.module hstat htold)

theorem read_ends {source : Path} {e : Error} (hstore : s.NulFree)
    (hsource : resolve s path = .ok source) (h : read s source = .error e) : e.IsDocumented := by
  obtain ⟨cause, rfl⟩ := read_error (acceptable_resolve hstore hsource) h
  trivial

end ModuleFile

/-! ## How preparing ends -/

/-- Why a callable is skipped is known. -/
def Outcome.Explained (o : Outcome) : Prop := o.isSkip = true → ∃ reason, o.reason = some reason

theorem Plan.explained {callables : List Callable} {directory : Path} {extension : String}
    {present : Path → Bool} {o : Outcome}
    (ho : o ∈ (make callables directory extension present).outcomes) : o.Explained := by
  rcases planFrom_cases ho with ⟨reason, path, h⟩ | h
  · rw [h]
    exact fun _ => ⟨reason, rfl⟩
  · rw [h]
    exact fun hskip => nomatch hskip

/-- The report of a decision, as far as it is made up. -/
def Decision.report : Decision → Report
  | .finish report => report
  | .carryOut job => job.report

/-- If the tree of a text fits, its callables can be taken out, and only a tree can be missing. -/
theorem Assembly.apply_of_fits {trees : TreeSource} {text loader : String} {root : Node}
    {plan : Plan} {a : Assembly} (hfits : root.Fits text)
    (hplan : plan.outcomes.map (·.callable) = Callable.locate (Utf8.encode text) root)
    (ha : Assembly.ofPlan plan loader = .ok a) :
    Ends (fun _ => True) (TreeSource.NoTree trees) (a.apply trees text) := by
  obtain ⟨-, -, hperm⟩ := Assembly.ofPlan_ok ha
  obtain ⟨w, hcallables, hwhole, hplace⟩ :=
    Weave.exists_of_sound hfits.sound hfits.inside hfits.aligned
  exact Assembly.apply_ends (Assembly.withoutCallables_inPlace hplace hwhole
    (hcallables ▸ (Callable.locate_ordered hfits.sound).imp And.left)
    (hcallables ▸ hplan ▸ hperm))

theorem Unforeseen.of_noTree {trees : TreeSource} {config : Config} {s : FileStore} {path : Path}
    {e : Error} (h : TreeSource.NoTree trees e) : Unforeseen trees config s path e := by
  obtain ⟨rfl, k, text, hnone⟩ := h
  exact .tree hnone

namespace Split

variable {trees : TreeSource} {config : Config} {s : FileStore} {path : Path}

/-- Once there is a plan without skips, only the suffix or a missing tree can stand in the way of a
job. -/
theorem prepareJob_ends {report : Report} {plan : Plan} {text : String} {bom : Bool} {root : Node}
    (hconfig : config.IsText) (hsource : ModuleFile.resolve s path = .ok report.module)
    (hskip : plan.anySkip = false) (hfits : root.Fits text)
    (hplan : plan.outcomes.map (·.callable) = Callable.locate (Utf8.encode text) root) :
    Ends (fun d => d.report.outcomes = report.outcomes) (Unforeseen trees config s path)
      (prepareJob trees config report plan text bom) := by
  obtain ⟨publicDir, hpublic, -⟩ := hconfig.publicDir
  obtain ⟨privateDir, hprivate⟩ := hconfig.privateDir
  obtain ⟨suffix, hsuffix, -⟩ := hconfig.backupSuffix
  refine .bind (fun e he => ?_) fun loader _ => .bind (fun e he => ?_) fun a ha =>
    .bind (fun e he => ?_) fun result _ => .bind (fun e he => ?_) fun backup _ => ?_
  · -- the loader
    change loaderFor config (newlineOf text) = .error e at he
    rw [loaderFor, hprivate, hpublic] at he
    exact nomatch he
  · obtain ⟨a, ha⟩ := Assembly.exists_ofPlan hskip loader
    exact nomatch he.symm.trans ha
  · exact .of_noTree ((Assembly.apply_of_fits hfits hplan ha).error e he)
  · change backupFor report.module config = .error e at he
    rw [backupFor, hsuffix] at he
    obtain ⟨ne, hname, rfl⟩ := mapError_eq_error.mp he
    exact .suffix hsource hsuffix hname
  · simp only
    split
    next => exact .tellAll (.pure rfl)
    next => exact .pure rfl

/-- **How preparing ends.** -/
theorem prepare_ends (hstore : s.NulFree) (hconfig : config.IsText)
    (hfits : FirstFits trees s path) :
    Ends (fun d => ∀ o ∈ d.report.outcomes, o.Explained)
      (fun e => e.IsDocumented ∨ Unforeseen trees config s path e)
      (prepare trees config s path) := by
  refine .bind (fun e he => ?_) fun source hsource => .bind (fun e he => ?_)
    fun (text, bom) htext => .bind (fun e he => ?_) fun root hroot => ?_
  · exact ModuleFile.resolve_ends trees config he
  · exact Or.inl (ModuleFile.read_ends hstore hsource he)
  · exact Or.inr (.of_noTree (TreeSource.noTree_of_parse he))
  · refine .tellAll (.tellAll (.tellAll ?_))
    simp only
    split
    next => exact .tellAll (.pure fun o ho => absurd ho List.not_mem_nil)
    next =>
      -- there are callables: with skips among them the split is blocked, else there is a job
      obtain ⟨publicDir, hpublic, -⟩ := hconfig.publicDir
      refine .bind (fun e he => ?_) fun directory _ => .tellAll ?_
      · change targetDirectory source config = .error e at he
        rw [targetDirectory, hpublic] at he
        exact nomatch he
      · split
        next => exact .tellAll (.pure fun o ho => Plan.explained ho)
        next hskip =>
          have hshape := hfits source text bom root hsource htext (TreeSource.parse_ok hroot)
          refine Ends.mono (prepareJob_ends hconfig ?_ ?_ hshape ?_) (fun d hd o ho => ?_)
            fun _ => Or.inr
          · exact hsource
          · simpa using hskip
          · exact planFrom_callables ..
          · rw [hd] at ho
            exact Plan.explained ho

/-! ## How carrying out ends -/

/-- After its backup a job ends with an error of writing, or belatedly. -/
theorem Prepared.afterBackup_ends {job : Job} {g : Grounds} {t : FileStore} {e : Error}
    (hg : Prepared trees config s path job g) (hconfig : config.NulFree)
    (hconditions : t.conditions = s.conditions) (h : (afterBackup job t).result = .error e) :
    e.IsDocumented ∨ Belated trees config s path e := by
  unfold afterBackup at h
  cases hwritten : (extract job t).result with
  | error e' =>
    rw [Work.bind_of_error hwritten] at h
    cases h
    rcases extract_stops hg.skipFree hwritten with ⟨rfl, hstep⟩ | ⟨o, ho, hhinders⟩
    · rw [hg.halted] at hstep
      rcases hstep with hstep | hstep
      · exact Or.inr (.unencodable (by decide) hstep)
      · exact Or.inr (.unencodable (by decide) hstep)
    · have htarget := hg.acceptable_target hconfig ho
      cases hhinders with
      | fault fault => exact Or.inl trivial
      | refused hbad => exact nomatch htarget.symm.trans hbad
      | tooDeep hdeep =>
        have hc : o.callable ∈ g.callables :=
          hg.outcomes_callables ▸ List.mem_map_of_mem ho
        rw [hconditions, (hg.eq_write ho).2] at hdeep
        exact Or.inr (.tooDeep hg.resolved hg.read (TreeSource.parse_ok hg.parsed) hc
          hg.directory hdeep)
  | ok written =>
    rw [Work.bind_of_ok hwritten] at h
    have hfinish : Within (fun _ => True) (fun e => e.IsDocumented ∨ Belated trees config s path e)
        (finish job written) := by
      refine .bind (within_enter fun hstep => ?_) fun _ =>
        .bind (.perform trivial (fun hbad => ?_) fun _ => Or.inl trivial) fun _ =>
          .bind (.tell _) fun _ => .pure _
      · rw [hg.halted] at hstep
        exact Or.inr (.unencodable (by decide) hstep)
      · exact nomatch hg.stat_module.1.symm.trans hbad
    exact hfinish.stops _ e h

end Split

/-- Making a backup ends with an error of a backup, or its place cannot be looked at and nothing is
done. -/
theorem Backup.createAt_ends {s : FileStore} {source target : Path} {e : Error}
    (hsource : acceptable source.toString = true) (htarget : acceptable target.toString = true)
    (h : (createAt source target s).result = .error e) :
    e.IsDocumented ∨ ∃ cause, s.stat target.toString = .error cause ∧ cause.IsTold ∧
      e = .file ⟨cause, target.toString⟩ ∧ (createAt source target s).store = s := by
  rcases createAt_run s source target with ⟨fault, hprobe, hrun⟩ | ⟨-, -, hresult⟩
  · obtain ⟨cause, hstat, htold, rfl⟩ := FileStore.probe_error hprobe
    rw [hrun] at h ⊢
    cases h
    exact Or.inr ⟨cause, hstat, htold, rfl, rfl⟩
  · rw [hresult] at h
    cases (copyTested_fails hsource htarget).stops s e h with
    | copy cause => exact Or.inl trivial
    | differs => exact Or.inl trivial

namespace Split

variable {trees : TreeSource} {config : Config} {s : FileStore} {path : Path}

/-- A job whose backup is made and that ends belatedly is abandoned. -/
theorem Prepared.abandoned {job : Job} {g : Grounds} {t : FileStore}
    (hg : Prepared trees config s path job g)
    (hmade : (Backup.createAt job.report.module job.backup s).result = .ok ())
    (hextends : FileStore.Extends (Backup.createAt job.report.module job.backup s).store t) :
    Abandoned config s path t := by
  obtain ⟨-, l, raw, hstat⟩ := hg.stat_module
  obtain ⟨-, m, -, hbackup⟩ := Backup.createAt_secures hstat hmade
  have hmodule := FileStore.stat_extends hextends (Backup.createAt_keeps hstat)
  exact ⟨_, _, raw, hg.resolved, hg.backup, FileStore.read_eq_ok_iff.mpr ⟨l, hstat⟩,
    FileStore.read_eq_ok_iff.mpr ⟨l, hmodule⟩,
    FileStore.read_eq_ok_iff.mpr ⟨m, FileStore.stat_extends hextends hbackup⟩, hextends⟩

theorem Prepared.commit_ends {job : Job} {g : Grounds} {e : Error}
    (hg : Prepared trees config s path job g) (hconfig : config.NulFree)
    (h : (commit job s).result = .error e) :
    SplitEnds trees config s path (commit job s).store e := by
  rcases commit_run job s with ⟨-, hrun⟩ | ⟨hstep, hrun⟩
  · rw [hrun] at h ⊢
    have hleft := begun_error h
    unfold begun at h hleft ⊢
    cases hmade : (Backup.createAt job.report.module job.backup s).result with
    | error e' =>
      rw [Work.bind_of_error hmade] at h ⊢
      cases h
      rcases Backup.createAt_ends hg.stat_module.1 (hg.acceptable_backup hconfig) hmade with
        hdocumented | ⟨cause, hstat, htold, rfl, hstore⟩
      · exact Or.inl hdocumented
      · exact Or.inr (Or.inl ⟨.backup hg.resolved hg.backup hstat htold, hstore⟩)
    | ok u =>
      rw [Work.bind_of_ok hmade] at h hleft ⊢
      have hconditions := (Backup.createAt_grows hmade).conditions
      rcases hg.afterBackup_ends hconfig hconditions h with hdocumented | hbelated
      · exact Or.inl hdocumented
      · rcases hleft with hextends | ⟨-, u', trouble, -, rfl, -⟩
        · exact Or.inr (Or.inr ⟨hbelated, hg.abandoned hmade hextends⟩)
        · exact Or.inl trivial
  · rw [hrun] at h ⊢
    cases h
    rw [hg.halted] at hstep
    exact Or.inr (Or.inl ⟨.unencodable hstep, rfl⟩)

/-- **How a split ends.** -/
theorem split_ends (hstore : s.NulFree) (hconfig : config.IsText)
    (hfits : FirstFits trees s path) :
    (∀ report, (split trees config path s).result = .ok report →
      ∀ o ∈ report.outcomes, o.Explained) ∧
    ∀ e, (split trees config path s).result = .error e →
      SplitEnds trees config s path (split trees config path s).store e := by
  have hprepare := prepare_ends hstore hconfig hfits
  rcases split_cases trees config path s with
    ⟨-, hkept, ⟨e, herror, hresult⟩ | ⟨report, hfinish, hresult⟩⟩ |
      ⟨job, hjob, -, hcommit, hresult⟩
  · -- preparing failed, and the store has not been touched
    refine ⟨fun report h => (nomatch h.symm.trans hresult), fun e' h => ?_⟩
    obtain rfl := Except.error.inj (h.symm.trans hresult)
    exact (hprepare.error e' herror).imp_right fun hunforeseen => Or.inl ⟨hunforeseen, hkept⟩
  · refine ⟨fun report' h => ?_, fun e h => nomatch h.symm.trans hresult⟩
    obtain rfl := Except.ok.inj (h.symm.trans hresult)
    exact hprepare.value _ hfinish
  · -- a job is carried out: its report has the outcomes that were prepared
    obtain ⟨g, hg⟩ := prepare_carryOut hjob
    rw [hresult, hcommit]
    refine ⟨fun report h => ?_, fun e h => hg.commit_ends hconfig.nulFree h⟩
    obtain ⟨written, -, -, -, rfl⟩ := commit_ok h
    exact hprepare.value _ hjob

end Split

/-! ## Rendering a report -/

namespace Report

variable {r : Report} {width : Int}

theorem action_ok {o : Outcome} (h : o.Explained) : ∃ words, r.action o = .ok words := by
  unfold action
  split
  next hskip =>
    obtain ⟨reason, hreason⟩ := h hskip
    rw [hreason]
    exact ⟨_, rfl⟩
  next =>
    split
    next => exact ⟨_, rfl⟩
    next =>
      split
      next => exact ⟨_, rfl⟩
      next => split <;> exact ⟨_, rfl⟩

theorem outcomeRow_ok (hwidth : 0 < width) (number : Nat) {o : Outcome} (h : o.Explained) :
    ∃ row, r.outcomeRow width number o = .ok row := by
  obtain ⟨words, hwords⟩ := action_ok (r := r) h
  unfold outcomeRow
  simp only [hwords, Text.shorten?, if_pos hwidth]
  exact ⟨_, rfl⟩

theorem outcomeRows_ok (hwidth : 0 < width) :
    ∀ (number : Nat) {outcomes : List Outcome}, (∀ o ∈ outcomes, o.Explained) →
      ∃ rows, r.outcomeRows width number outcomes = .ok rows
  | _, [], _ => ⟨[], rfl⟩
  | number, o :: rest, h => by
    obtain ⟨row, hrow⟩ := outcomeRow_ok (r := r) hwidth number (h o (List.mem_cons_self ..))
    obtain ⟨rows, hrows⟩ := outcomeRows_ok hwidth (number + 1) fun o' ho' =>
      h o' (List.mem_cons_of_mem _ ho')
    refine ⟨row :: rows, ?_⟩
    simp only [outcomeRows, hrow, hrows, bind, Except.bind]
    rfl

theorem table_ok (hwidth : 0 < width) (h : ∀ o ∈ r.outcomes, o.Explained) :
    ∃ lines, r.table width = .ok lines := by
  obtain ⟨rows, hrows⟩ := outcomeRows_ok (r := r) hwidth 1 h
  unfold table
  simp only [hrows]
  split
  next => exact ⟨_, rfl⟩
  next => exact ⟨_, rfl⟩

/-- A report whose skips are explained can be rendered in every width. -/
theorem render_ok (hwidth : 0 < width) (h : ∀ o ∈ r.outcomes, o.Explained) :
    ∃ text, r.render width = .ok text := by
  obtain ⟨lines, hlines⟩ := table_ok hwidth h
  unfold render
  simp only [hlines]
  exact ⟨_, rfl⟩

end Report

/-! ## Calls -/

namespace CommandLine

variable {trees : TreeSource} {config : Config} {s : FileStore} {path : Path}

/-- The report of a split is not printed: it holds a setting that has no encoding. -/
def Unprinted (trees : TreeSource) (config : Config) (s : FileStore) (path : Path)
    (t : FileStore) (e : Error) : Prop :=
  e = .unencodable ∧ .report ∈ config.halted ∧ t = (split trees config path s).store ∧
    ∃ report, (split trees config path s).result = .ok report

/-- How the work of a call may end: with one of the exit codes, as a split may end that fails, or
with a report that is not printed. -/
structure WorkEnds (trees : TreeSource) (config : Config) (s : FileStore) (path : Path)
    (worked : Worked (String × Nat)) : Prop where
  code : ∀ text code, worked.result = .ok (text, code) → code ≤ exitFatal
  error : ∀ e, worked.result = .error e →
    SplitEnds trees config s path worked.store e ∨
      Unprinted trees config s path worked.store e

/-- Of a split with a report the report is printed, unless it has no encoding. -/
theorem splitting_of_report {report : Report}
    (hresult : (split trees config path s).result = .ok report)
    (hexplained : ∀ o ∈ report.outcomes, o.Explained) :
    (splitting trees config path s).store = (split trees config path s).store ∧
      (splitting trees config path s).journal = (split trees config path s).journal ∧
      ((.report ∈ config.halted ∧
          (splitting trees config path s).result = .error .unencodable) ∨
        ∃ text, (splitting trees config path s).result =
          .ok (text, if report.blocked then exitBlocked else exitDone)) := by
  obtain ⟨text, htext⟩ := Report.render_ok (show 0 < Report.defaultWidth by decide) hexplained
  unfold splitting
  rw [Work.bind_of_ok hresult]
  by_cases hhalted : config.halted.contains .report && text.toList.contains Utf8.replacement
  · have hrefused : (report.render Report.defaultWidth >>= printed config) =
        .error .unencodable := by
      rw [htext, except_ok_bind, printed, if_pos hhalted]
    rw [Work.check_bind_error hrefused]
    simp only [Bool.and_eq_true, List.contains_iff_mem] at hhalted
    exact ⟨rfl, List.append_nil _, Or.inl ⟨hhalted.1, rfl⟩⟩
  · have hprinted : (report.render Report.defaultWidth >>= printed config) = .ok text := by
      rw [htext, except_ok_bind, printed, if_neg hhalted]
    rw [Work.check_bind hprinted]
    refine ⟨rfl, List.append_nil _, Or.inr ⟨text, ?_⟩⟩
    show Except.ok (text, if !report.blocked then exitDone else exitBlocked) = _
    cases report.blocked <;> rfl

theorem splitting_ends (hstore : s.NulFree) (hconfig : config.IsText)
    (hfits : FirstFits trees s path) :
    WorkEnds trees config s path (splitting trees config path s) := by
  obtain ⟨hreport, herror⟩ := Split.split_ends hstore hconfig hfits
  cases hresult : (split trees config path s).result with
  | error e =>
    unfold splitting
    rw [Work.bind_of_error hresult]
    refine ⟨fun _ _ h => (nomatch h), fun e' h => ?_⟩
    cases h
    exact Or.inl (herror e hresult)
  | ok report =>
    obtain ⟨hkept, -, ⟨hhalted, hrefused⟩ | ⟨text, hprinted⟩⟩ :=
      splitting_of_report hresult (hreport report hresult)
    · refine ⟨fun _ _ h => (nomatch hrefused.symm.trans h), fun e h => Or.inr ?_⟩
      obtain rfl := Except.error.inj (hrefused.symm.trans h)
      exact ⟨rfl, hhalted, hkept, report, hresult⟩
    · refine ⟨fun text' code h => ?_, fun _ h => nomatch hprinted.symm.trans h⟩
      obtain ⟨-, rfl⟩ := Prod.mk.inj (Except.ok.inj (hprinted.symm.trans h))
      split <;> decide

theorem listing_ends (trees : TreeSource) (config : Config) (path : Path)
    (hstore : s.NulFree) :
    Ends (fun _ => True) (fun e => e.IsDocumented ∨ Unforeseen trees config s path e)
      (listing trees s path) := by
  refine .bind (fun e he => ?_) fun source hsource => .bind (fun e he => ?_)
    fun (text, bom) htext => .bind (fun e he => ?_) fun root hroot => .tellAll (.pure trivial)
  · exact ModuleFile.resolve_ends trees config he
  · exact Or.inl (ModuleFile.read_ends hstore hsource he)
  · exact Or.inr (.of_noTree (TreeSource.noTree_of_parse he))

theorem work_ends {options : Options} {settings : Settings} (hstore : s.NulFree)
    (hconfig : settings.toConfig.IsText) (hfits : FirstFits trees s (.ofString options.path)) :
    WorkEnds trees settings.toConfig s (.ofString options.path)
      (options.work trees settings s) := by
  unfold Options.work
  split
  next =>
    have hends := listing_ends trees settings.toConfig (.ofString options.path) hstore
    cases hresult : (listing trees s (.ofString options.path)).result with
    | error e =>
      rw [Work.bind_of_error (show (Work.look (fun s => listing trees s
        (.ofString options.path)) s).result = _ from hresult)]
      refine ⟨fun _ _ h => (nomatch h), fun e' h => ?_⟩
      cases h
      exact Or.inl ((hends.error e hresult).imp_right fun hunforeseen =>
        Or.inl ⟨hunforeseen, rfl⟩)
    | ok text =>
      rw [Work.bind_of_ok (show (Work.look (fun s => listing trees s
        (.ofString options.path)) s).result = _ from hresult)]
      refine ⟨fun text' code h => ?_, fun _ h => nomatch h⟩
      obtain ⟨-, rfl⟩ := Prod.mk.inj (Except.ok.inj h)
      decide
  next => exact splitting_ends hstore hconfig hfits

/-- Documented errors are the ones that a call handles. -/
theorem exists_closingNotice {e : Error} (h : e.IsDocumented) :
    ∃ notice, closingNotice? e = some notice := by
  cases e with
  | input cause => exact ⟨_, rfl⟩
  | backup source target cause => exact ⟨_, rfl⟩
  | backupDiffers source target => exact ⟨_, rfl⟩
  | write path fault => exact ⟨_, rfl⟩
  | _ => exact absurd h id

/-- How a call ends that has no exit code, once its configuration was accepted: with an error that
is not handled. -/
inductive Unhandled (trees : TreeSource) (settings : Settings) (s : FileStore) (path : Path)
    (t : FileStore) (e : Error) : Prop
  /-- The log level is the name of something else. -/
  | level {level : String} (hlevel : settings .logLevel = .text level)
      (h : Threshold.ofName level = .error e) (hstore : t = s)
  | unforeseen (h : Unforeseen trees settings.toConfig s path e) (hstore : t = s)
  | belated (h : Belated trees settings.toConfig s path e)
      (hleft : Abandoned settings.toConfig s path t)
  | unprinted (h : Unprinted trees settings.toConfig s path t e)

/-- After work that ends as it may, a call ends with an exit code or with an error that is not
handled. -/
theorem conclude_ends {settings : Settings} {threshold : Nat} {early : String}
    {worked : Worked (String × Nat)} (h : WorkEnds trees settings.toConfig s path worked) :
    (∃ code, code ≤ exitFatal ∧ (conclude threshold early worked).code = .ok code) ∨
      ∃ e, (conclude threshold early worked).code = .error e ∧
        Unhandled trees settings s path (conclude threshold early worked).store e := by
  cases hresult : worked.result with
  | ok printed =>
    obtain ⟨text, code⟩ := printed
    unfold conclude
    rw [hresult]
    exact Or.inl ⟨code, h.code text code hresult, rfl⟩
  | error e =>
    cases hnotice : closingNotice? e with
    | some notice =>
      unfold conclude
      simp only [hresult, hnotice]
      exact Or.inl ⟨exitFatal, Nat.le_refl _, rfl⟩
    | none =>
      have hends : Unhandled trees settings s path worked.store e := by
        rcases h.error e hresult with
          (hdocumented | ⟨hunforeseen, hstore⟩ | ⟨hbelated, hleft⟩) | hunprinted
        · obtain ⟨notice, hsome⟩ := exists_closingNotice hdocumented
          exact nomatch hnotice.symm.trans hsome
        · exact .unforeseen hunforeseen hstore
        · exact .belated hbelated hleft
        · exact .unprinted hunprinted
      unfold conclude
      simp only [hresult, hnotice]
      exact Or.inr ⟨e, rfl, hends⟩

/-- **How a call ends** once its configuration was accepted. -/
theorem carryOut_ends {readers : Readers} {env env' : Environment} {options : Options}
    {settings : Settings} (hstore : s.NulFree)
    (hdefined : (readers.definitions s env).result = .ok env')
    (haccepted : (options.settings readers.settings s env').result = .ok settings)
    (hconfig : settings.toConfig.IsText) (hlevel : (settings .logLevel).letters?.isSome = true)
    (hfits : FirstFits trees s (.ofString options.path)) :
    (∃ code, code ≤ exitFatal ∧ (carryOut readers trees env options s).code = .ok code) ∨
      ∃ e, (carryOut readers trees env options s).code = .error e ∧
        Unhandled trees settings s (.ofString options.path)
          (carryOut readers trees env options s).store e := by
  unfold carryOut
  simp only [hdefined, haccepted]
  cases hthreshold : Threshold.ofValue (settings .logLevel) with
  | error e =>
    -- the log level is looked up before the work begins
    refine Or.inr ⟨e, rfl, ?_⟩
    cases hvalue : settings .logLevel with
    | text level =>
      rw [hvalue, Threshold.ofValue] at hthreshold
      split at hthreshold
      next => exact nomatch hthreshold
      next => exact .level hvalue hthreshold rfl
    | unpaired letters =>
      rw [hvalue] at hthreshold
      exact nomatch hthreshold
    | _ =>
      rw [hvalue] at hlevel
      exact nomatch hlevel
  | ok threshold => exact conclude_ends (work_ends hstore hconfig hfits)

end CommandLine

namespace Beside

def store : FileStore :=
  { entries := [(["M.psm1"], .file Sample.raw), (["Public"], .file [])] }

def options : CommandLine.Options := { path := "/M.psm1" }

/-- The suffix is not empty, and it does not make a name. -/
def config : Config := { backupSuffix := .ok "/x" }

/-- The name of the directory has no encoding. -/
def stray : Config := { publicDir := .ok "\uFFFD", halted := [.directories, .module, .report] }

theorem nulFree : store.NulFree := by
  intro l e hget name hname
  have hnames : ∀ x ∈ store.entries, ∀ name ∈ x.1, acceptable name = true := by decide
  by_cases hl : l = []
  · rw [hl] at hname
    exact absurd hname List.not_mem_nil
  · exact hnames (l, e) (FileStore.mem_entries_of_get? hl hget) name hname

theorem fits : FirstFits Sample.trees store Sample.path := by
  intro source text bom root hsource htext hroot
  have hresolved : ModuleFile.resolve store Sample.path = .ok Sample.path := by decide +kernel
  have hread : ModuleFile.read store Sample.path = .ok (Sample.text, true) := by decide +kernel
  obtain rfl := Except.ok.inj (hresolved.symm.trans hsource)
  obtain ⟨rfl, -⟩ := Prod.mk.inj (Except.ok.inj (hread.symm.trans htext))
  have htree : Sample.trees 0 Sample.text = some Sample.root := congrArg some (if_pos rfl)
  obtain rfl := Option.some.inj (htree.symm.trans hroot)
  exact ⟨sound_sample, by decide +kernel, aligned_sample⟩

end Beside

end Unbundle
