import Unbundle.Proofs.Commit

/-!
# Backups that fail

A copy onto a path that does not lead to a directory reads back as the module once it is carried out
and both can be read (`Backup.copyTested_done`). So a backup whose copy was begun fails for one of
three reasons (`Backup.Reason`): the copy went into a directory, a mishap broke it off, or it could
not be read back. What the copy went to is then lost if it was there before (`Backup.LeftBehind`).
Every other backup that fails has changed nothing, and the split goes no further
(`failed_backup_leaves`).
-/

namespace Unbundle

namespace Backup

variable {s t : FileStore} {source target : Path} {inside : String} {content : Bytes}

/-! ## Copies that read back -/

/-- A copy that was carried out ends well. -/
theorem copy_done (hcopy : prepareCopy s source target = .ok (inside, content))
    (hdone : ((Operation.overwrite inside content).carryOut s).2 = none) :
    (copy source target s).result = .ok () := by
  have hpath : FileStore.acceptable (Operation.overwrite inside content).path = true :=
    (prepareCopy_ok hcopy).2.1
  have hattempt : (Work.attempt (.overwrite inside content) s).result = .ok none := by
    rw [Work.attempt_run hpath, hdone]
    rfl
  have hrun : copy source target s = _ := Work.check_bind hcopy
  rw [hrun]
  exact congrArg Worked.result (Work.bind_of_ok hattempt)

/-- A backup that nothing keeps from being read back. -/
def Comparable (source target : Path) (s : FileStore) : Prop :=
  ∀ path, path = source ∨ path = target →
    s.conditions.unreadable.lookup (.compare, path.toString) = none

/-- A backup with the content of its module passes the test. -/
theorem verify_of_read (hsource : FileStore.acceptable source.toString = true)
    (htarget : FileStore.acceptable target.toString = true)
    (hreadable : Comparable source target s)
    (hread : s.read source.toString = .ok content)
    (hback : s.read target.toString = .ok content) : verify s source target = .ok () := by
  have hcopied := fun wrap =>
    ModuleFile.readBytes_of_read wrap htarget (hreadable target (Or.inr rfl)) hback
  have hkept := fun wrap =>
    ModuleFile.readBytes_of_read wrap hsource (hreadable source (Or.inl rfl)) hread
  simp only [verify, hcopied, hkept, bind, Except.bind, beq_self_eq_true, if_true]
  rfl

/-- A copy onto a path that leads to no directory makes the backup once it is carried out. -/
theorem copyTested_done (hcopy : prepareCopy s source target = .ok (inside, content))
    (hplace : s.leadsToDirectory target.toString = false)
    (hreadable : Comparable source target s)
    (hdone : ((Operation.overwrite inside content).carryOut s).2 = none) :
    (copyTested source target s).result = .ok () := by
  obtain ⟨hinside, hpath, -, hsource, hread⟩ := prepareCopy_ok hcopy
  rw [destination_eq hplace] at hinside
  subst hinside
  obtain ⟨l, hstat⟩ := FileStore.read_eq_ok_iff.mp hread
  have happly := Operation.attempt_done hdone
  have hgrows := Operation.apply_grows happly
  have hstore := (copy_run hcopy).2
  rw [← hstore] at happly hgrows
  -- in the store after the copy both files have the content
  have hback : (copy source target s).store.read target.toString = .ok content := by
    obtain ⟨m, -, htarget, -⟩ := Operation.overwrite_ok happly
    exact FileStore.read_eq_ok_iff.mpr ⟨m, htarget⟩
  have hkept : (copy source target s).store.read source.toString = .ok content := by
    have hget := Operation.get?_apply happly (FileStore.get?_of_stat hstat)
      (not_replaces_of_prepareCopy hcopy hstat)
    exact FileStore.read_eq_ok_iff.mpr ⟨l, FileStore.stat_of_grows hgrows hstat hget⟩
  have hcomparable : Comparable source target (copy source target s).store := by
    intro path hpath
    rw [hgrows.conditions]
    exact hreadable path hpath
  have hverify := verify_of_read hsource hpath hcomparable hkept hback
  rw [copyTested, Work.bind_of_ok (copy_done hcopy hdone)]
  exact congrArg Worked.result (Work.check_bind hverify)

/-! ## What a backup that fails leaves -/

/-- Why a backup fails whose copy was begun, and what the copy holds then if the module holds
`raw`. -/
inductive Reason (source target : Path) (s : FileStore) (raw : Bytes) : Bytes → Prop
  /-- The path of the backup leads to a directory, and the copy went into it. -/
  | directory (h : s.leadsToDirectory target.toString = true) : Reason source target s raw raw
  /-- A mishap broke the copy off. -/
  | brokenOff {mishap : Mishap} {n : Nat}
      (h : s.conditions.mishaps.lookup (destination s source target).1 = some mishap)
      (harrived : mishap.arrived = some n) : Reason source target s raw (raw.take n)
  /-- The module or its copy cannot be read back. -/
  | unreadable (h : ¬ Comparable source target s) : Reason source target s raw raw

/-- What a backup leaves behind that fails after its copy was begun: the file that the copy goes to,
old or new, has other content, and nothing else is changed. The module is another file. -/
structure LeftBehind (source target : Path) (s t : FileStore) : Prop where
  copied : ∃ l raw part, s.read source.toString = .ok raw ∧ Reason source target s raw part ∧
    t = s.set l (.file part) ∧ t.stat (destination s source target).1 = .ok (l, .file part) ∧
    (s.get? l = none ∨ ∃ old, s.stat (destination s source target).1 = .ok (l, .file old))
  module : t.read source.toString = s.read source.toString

/-- A copy that overwrites its destination with some part of the module. -/
theorem LeftBehind.of_overwrite {part : Bytes}
    (hcopy : prepareCopy s source target = .ok (inside, content))
    (hreason : Reason source target s content part)
    (happly : (Operation.overwrite inside part).apply s = .ok t) :
    LeftBehind source target s t := by
  obtain ⟨hinside, -, -, -, hread⟩ := prepareCopy_ok hcopy
  obtain ⟨m, hstat⟩ := FileStore.read_eq_ok_iff.mp hread
  have hspared : ¬ ((Operation.overwrite inside content).cutShort part).Replaces s m :=
    fun hreplaces => not_replaces_of_prepareCopy hcopy hstat hreplaces.of_cutShort
  have hkept := Operation.get?_apply happly (FileStore.get?_of_stat hstat) hspared
  have hmodule : t.read source.toString = .ok content := FileStore.read_eq_ok_iff.mpr
    ⟨m, FileStore.stat_of_grows (Operation.apply_grows happly) hstat hkept⟩
  obtain ⟨l, hset, htarget, hplace⟩ := Operation.overwrite_ok happly
  rw [hinside] at htarget hplace
  exact ⟨⟨l, content, part, hread, hreason, hset, htarget, hplace⟩, hmodule.trans hread.symm⟩

/-- A backup that fails has changed nothing, or left something behind. -/
theorem createAt_error {e : Error} (h : (createAt source target s).result = .error e) :
    (createAt source target s).store = s ∨
      LeftBehind source target s (createAt source target s).store := by
  rcases createAt_journal s source target with ⟨-, hstore⟩ | ⟨inside, content, hcopy, -, hstore⟩
  · exact Or.inl hstore
  · rw [hstore]
    cases hcause : ((Operation.overwrite inside content).carryOut s).2 with
    | some cause =>
      rcases Operation.attempt_failed hcause with hundone | ⟨trouble, hbroken⟩
      · exact Or.inl hundone
      · obtain ⟨mishap, op, hmishap, -, hop, happly⟩ := hbroken
        obtain ⟨n, harrived, rfl⟩ := Option.map_eq_some_iff.mp hop
        obtain ⟨hinside, -⟩ := prepareCopy_ok hcopy
        have hreason : Reason source target s content (content.take n) :=
          .brokenOff (hinside ▸ hmishap) harrived
        exact Or.inr (.of_overwrite hcopy hreason happly)
    | none =>
      have happly := Operation.attempt_done hcause
      cases hdir : s.leadsToDirectory target.toString with
      | true =>
        -- the copy is in the directory, whatever the test of the backup says after that
        exact Or.inr (.of_overwrite hcopy (.directory hdir) happly)
      | false =>
        by_cases hreadable : Comparable source target s
        · -- the copy would have been found to be good
          rcases createAt_run s source target with ⟨fault, -, hrun⟩ | ⟨-, -, hresult⟩
          · rw [hrun] at hstore
            exact Or.inl hstore.symm
          · have hdone := copyTested_done hcopy hdir hreadable hcause
            exact nomatch h.symm.trans (hresult.trans hdone)
        · exact Or.inr (.of_overwrite hcopy (.unreadable hreadable) happly)

theorem create_error {suffix : String} {e : Error}
    (hpath : pathFor source suffix = .ok target)
    (h : (create source suffix s).result = .error e) :
    (createAt source target s).result = .error e ∧
      (create source suffix s).store = (createAt source target s).store := by
  have hrun : create source suffix s = (do createAt source target; return target : Work Path) s :=
    Work.check_bind hpath
  rw [hrun] at h ⊢
  cases hmade : (createAt source target s).result with
  | error e' =>
    rw [Work.bind_of_error hmade] at h ⊢
    cases h
    exact ⟨rfl, rfl⟩
  | ok u =>
    rw [Work.bind_of_ok hmade] at h
    exact nomatch h

/-- Making a backup adds nothing but by its copy. -/
theorem not_isAddition_createAt {op : Operation} (h : op ∈ (createAt source target s).journal) :
    ¬ op.IsAddition := by
  rcases createAt_journal s source target with ⟨hjournal, -⟩ | ⟨inside, content, -, hjournal, -⟩
  · rw [hjournal] at h
    exact absurd h List.not_mem_nil
  · rw [hjournal] at h
    rw [List.mem_singleton.mp h]
    exact id

end Backup

/-- An error of a backup. -/
def Error.IsBackup : Error → Prop
  | .backup _ _ _ | .backupDiffers _ _ => True
  | _ => False

namespace Split

variable {job : Job} {s : FileStore} {e : Error}

/-- After its backup a job ends with no error of a backup. -/
theorem not_isBackup_afterBackup (h : (afterBackup job s).result = .error e) : ¬ e.IsBackup := by
  have hwrite : Work.Within Operation.IsAddition (fun e => ¬ e.IsBackup)
      (Extraction.write job.plan job.bom) :=
    Extraction.within_write (fun _ => id) id fun _ _ => ⟨fun _ => id, fun _ => id⟩
  have hfiles : Work.Within Operation.IsAddition (fun e => ¬ e.IsBackup) (extract job) :=
    within_extract hwrite (fun _ => id) fun _ _ =>
      ModuleFile.makeParents_adds (fun _ => id) (fun _ => id) id
  have hwithin : Work.Within (fun _ => True) (fun e => ¬ e.IsBackup) (afterBackup job) :=
    .bind (hfiles.mono (fun _ _ => trivial) fun _ => id) fun _ =>
      .bind (within_enter fun _ => id) fun _ =>
        .bind (.perform trivial (fun _ => id) fun _ => id) fun _ => .bind (.tell _) fun _ => .pure _
  exact hwithin.stops s e h

/-- A job that ends with an error of its backup has done nothing else. -/
theorem commit_backup_error (hbackup : e.IsBackup) (h : (commit job s).result = .error e) :
    (Backup.createAt job.report.module job.backup s).result = .error e ∧
      (commit job s).journal = (Backup.createAt job.report.module job.backup s).journal ∧
      (commit job s).store = (Backup.createAt job.report.module job.backup s).store := by
  rcases commit_run job s with ⟨-, hrun⟩ | ⟨-, hrun⟩
  · rw [hrun] at h ⊢
    unfold begun at h ⊢
    cases hmade : (Backup.createAt job.report.module job.backup s).result with
    | error e' =>
      rw [Work.bind_of_error hmade] at h ⊢
      cases h
      exact ⟨rfl, rfl, rfl⟩
    | ok u =>
      -- the backup was made, and no later step blames it
      rw [Work.bind_of_ok hmade] at h
      exact absurd hbackup (not_isBackup_afterBackup h)
  · rw [hrun] at h
    cases h
    exact hbackup.elim

end Split

/-- **A backup that fails.** Made on its own or in a split, it leaves the store as it is, unless its
copy was begun and went into a directory, was broken off or cannot be read back; then nothing but
the file that the copy went to is changed. No file of a callable is created. -/
theorem failed_backup_leaves (s : FileStore) :
    (∀ source suffix e, (Backup.create source suffix s).result = .error e →
      (Backup.create source suffix s).store = s ∨
        ∃ target, Backup.pathFor source suffix = .ok target ∧
          Backup.LeftBehind source target s (Backup.create source suffix s).store) ∧
    ∀ trees config path e, e.IsBackup → (split trees config path s).result = .error e →
      (∀ op ∈ (split trees config path s).journal, ¬ op.IsAddition) ∧
        ((split trees config path s).store = s ∨
          ∃ source target, ModuleFile.resolve s path = .ok source ∧
            Split.backupFor source config = .ok target ∧
            Backup.LeftBehind source target s (split trees config path s).store) := by
  refine ⟨fun source suffix e h => ?_, fun trees config path e hbackup h => ?_⟩
  · cases hpath : Backup.pathFor source suffix with
    | error e' =>
      have hrun : Backup.create source suffix s = _ := Work.check_bind_error hpath
      rw [hrun]
      exact Or.inl rfl
    | ok target =>
      obtain ⟨hmade, hstore⟩ := Backup.create_error hpath h
      rw [hstore]
      exact (Backup.createAt_error hmade).imp_right fun hleft => ⟨target, rfl, hleft⟩
  · rcases Split.split_cases trees config path s with
      ⟨hjournal, hstore, -⟩ | ⟨job, hprepare, hjournal, hstore, hresult⟩
    · -- without a job nothing was tried
      rw [hjournal]
      exact ⟨fun op hop => absurd hop List.not_mem_nil, Or.inl hstore⟩
    · obtain ⟨g, hg⟩ := Split.prepare_carryOut hprepare
      obtain ⟨hmade, hjournal', hstore'⟩ :=
        Split.commit_backup_error hbackup (hresult.symm.trans h)
      rw [hjournal, hstore, hjournal', hstore']
      refine ⟨fun op hop => Backup.not_isAddition_createAt hop, ?_⟩
      exact (Backup.createAt_error hmade).imp_right fun hleft =>
        ⟨_, _, hg.resolved, hg.backup, hleft⟩

/-! ## Two stores in which a backup fails -/

namespace Blocked

/-- The path of the backup. -/
def backup : Path := ⟨.slash, ["M.psm1.bak"]⟩

/-- The backup is a link to the module itself. -/
def byLink : FileStore :=
  { entries := [(["M.psm1"], .file Sample.raw), (["M.psm1.bak"], .link "M.psm1")] }

/-- There is a directory in the place of the backup, and a file in it has the name of the module. -/
def byDirectory : FileStore :=
  { entries := [(["M.psm1"], .file Sample.raw), (["M.psm1.bak"], .directory),
      (["M.psm1.bak", "M.psm1"], .file [35])] }

/-- The link leads to the module. -/
def linkFault : Error :=
  .backup Sample.path backup (.sameFile Sample.path.shown backup.shown)

/-- The directory cannot be read as a file. -/
def directoryFault : Error :=
  .backup Sample.path backup (.fault ⟨.layout .isADirectory, backup.toString⟩)

end Blocked

theorem failed_backup_leaves_link :
    (Backup.create Sample.path ".bak" Blocked.byLink).result = .error Blocked.linkFault ∧
      (Backup.create Sample.path ".bak" Blocked.byLink).store = Blocked.byLink ∧
      (split Sample.trees {} Sample.path Blocked.byLink).result = .error Blocked.linkFault ∧
      (∀ op ∈ (split Sample.trees {} Sample.path Blocked.byLink).journal, ¬ op.IsAddition) ∧
      (split Sample.trees {} Sample.path Blocked.byLink).store = Blocked.byLink := by
  have hcreate : (Backup.create Sample.path ".bak" Blocked.byLink).result =
      .error Blocked.linkFault := by decide +kernel
  have hsplit : (split Sample.trees {} Sample.path Blocked.byLink).result =
      .error Blocked.linkFault := by decide +kernel
  -- the backup does not lead to a directory, and there are no troubles
  have hpath : Backup.pathFor Sample.path ".bak" = .ok Blocked.backup := by decide +kernel
  have hresolved : ModuleFile.resolve Blocked.byLink Sample.path = .ok Sample.path := by
    decide +kernel
  have hnot : ∀ t, ¬ Backup.LeftBehind Sample.path Blocked.backup Blocked.byLink t := by
    rintro t ⟨⟨l, raw, part, -, hreason, -⟩, -⟩
    cases hreason with
    | directory h => exact absurd h (by decide +kernel)
    | brokenOff h => exact nomatch h
    | unreadable h => exact h fun _ _ => rfl
  obtain ⟨halone, hinside⟩ := failed_backup_leaves Blocked.byLink
  obtain ⟨hadded, hstore⟩ := hinside Sample.trees {} Sample.path Blocked.linkFault trivial hsplit
  refine ⟨hcreate, (halone _ _ _ hcreate).resolve_right ?_, hsplit, hadded,
    hstore.resolve_right ?_⟩
  · rintro ⟨target, htarget, hleft⟩
    obtain rfl := Except.ok.inj (hpath.symm.trans htarget)
    exact hnot _ hleft
  · rintro ⟨source, target, hsource, htarget, hleft⟩
    obtain rfl := Except.ok.inj (hresolved.symm.trans hsource)
    obtain rfl := Except.ok.inj (hpath.symm.trans htarget)
    exact hnot _ hleft

/-- With a directory in the place of the backup, a file in it is lost although the backup fails. -/
theorem failed_backup_replaces_file :
    (Blocked.byDirectory.read "/M.psm1.bak/M.psm1") = .ok [35] ∧
      (Backup.create Sample.path ".bak" Blocked.byDirectory).result =
        .error Blocked.directoryFault ∧
      (Backup.create Sample.path ".bak" Blocked.byDirectory).store.read "/M.psm1.bak/M.psm1" =
        .ok Sample.raw ∧
      (split Sample.trees {} Sample.path Blocked.byDirectory).result =
        .error Blocked.directoryFault ∧
      (split Sample.trees {} Sample.path Blocked.byDirectory).store.read "/M.psm1.bak/M.psm1" =
        .ok Sample.raw := by
  decide +kernel

end Unbundle
