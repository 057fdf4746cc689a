import Unbundle.Proofs.Commit

/-!
# A split can be broken off at any time

Until the module is overwritten it holds its bytes, since the copy to the backup does not go to
the module and everything else is an addition. When it is overwritten the backup has been made,
and it is another file. So the bytes of the module are never lost (`split_survives_interruption`).
A split that fails leaves the module as it was, unless a mishap befell its overwriting
(`Split.module_kept`).
-/

namespace Unbundle

open Operation (Interrupted Spares replay)

namespace Split

variable {s t : FileStore} {source backup : Path} {content raw : Bytes} {l : Location}

/-- The copy to the backup and additions spare the module. -/
theorem spares_module {inside : String} {copied : Bytes} {additions : List Operation}
    (hsource : s.stat source.toString = .ok (l, .file raw))
    (hcopy : Backup.prepareCopy s source backup = .ok (inside, copied))
    (hadd : ∀ op ∈ additions, op.IsAddition) :
    Spares s (.overwrite inside copied :: additions) l :=
  ⟨Backup.not_replaces_of_prepareCopy hcopy hsource, Operation.spares_of_additions hadd⟩

/-- Once everything but the module is written, the backup holds its bytes, and it still does when
the module is overwritten, completely or in part. -/
theorem backup_survives {inside : String} {copied : Bytes} {additions : List Operation}
    (hsource : s.stat source.toString = .ok (l, .file raw))
    (hcopy : Backup.prepareCopy s source backup = .ok (inside, copied))
    (hmade : (Backup.createAt source backup s).result = .ok ())
    (hadd : ∀ op ∈ additions, op.IsAddition)
    (h : Interrupted (replay s (.overwrite inside copied :: additions))
      [.overwrite source.toString content] t) :
    t.read backup.toString = .ok raw := by
  obtain ⟨-, m, hml, hbackup⟩ := Backup.createAt_secures hsource hmade
  rw [Backup.createAt_store hcopy hmade] at hbackup
  have hbackup' := FileStore.stat_extends (Operation.replay_extends hadd _) hbackup
  obtain ⟨e, hsource', -⟩ := FileStore.stat_grows
    (Operation.replay_grows (.overwrite inside copied :: additions) s) hsource
  exact h.read (Operation.spares_overwrite hsource' hml) hbackup'

/-- However far a job gets, the module or its backup holds the bytes of the module. -/
theorem Course.interrupted {ops : List Operation} (hcourse : Course s source backup content ops)
    (hsource : s.stat source.toString = .ok (l, .file raw)) (h : Interrupted s ops t) :
    t.read source.toString = .ok raw ∨ t.read backup.toString = .ok raw := by
  cases hcourse with
  | idle => exact Or.inl (h.read trivial hsource)
  | copied hcopy =>
    exact Or.inl (h.read (spares_module hsource hcopy fun _ hop => nomatch hop) hsource)
  | extracted hcopy hmade hadd => exact Or.inl (h.read (spares_module hsource hcopy hadd) hsource)
  | replaced hcopy hmade hadd =>
    rcases h.of_append with h | h
    · exact Or.inl (h.read (spares_module hsource hcopy hadd) hsource)
    · exact Or.inr (backup_survives hsource hcopy hmade hadd h)

/-- The copy to the backup is not an operation on the path of the module. -/
theorem copy_ne_overwrite {inside : String} {copied : Bytes}
    (hsource : s.stat source.toString = .ok (l, .file raw))
    (hcopy : Backup.prepareCopy s source backup = .ok (inside, copied)) :
    Operation.overwrite source.toString content ≠ .overwrite inside copied := by
  intro heq
  refine Backup.not_replaces_of_prepareCopy hcopy hsource ?_
  rw [← heq]
  exact ⟨_, _, raw, rfl, hsource⟩

/-- Once the module is overwritten, the backup holds the bytes that it had. -/
theorem Course.backup_of_overwritten {ops : List Operation} {content' : Bytes}
    (hcourse : Course s source backup content' ops)
    (hsource : s.stat source.toString = .ok (l, .file raw))
    (h : .overwrite source.toString content ∈ ops) :
    (replay s ops).read backup.toString = .ok raw := by
  cases hcourse with
  | idle => exact nomatch h
  | copied hcopy => exact absurd (List.mem_singleton.mp h) (copy_ne_overwrite hsource hcopy)
  | extracted hcopy hmade hadd =>
    rcases List.mem_cons.mp h with h | h
    · exact absurd h (copy_ne_overwrite hsource hcopy)
    · exact absurd (hadd _ h) id
  | replaced hcopy hmade hadd =>
    rw [Operation.replay_append]
    exact backup_survives hsource hcopy hmade hadd (.after (.between _ _))

end Split

/-- The backup that a configuration asks for holds the given bytes. -/
def BackedUp (config : Config) (source : Path) (raw : Bytes) (s : FileStore) : Prop :=
  ∃ backup, Split.backupFor source config = .ok backup ∧ s.read backup.toString = .ok raw

/-! ## Splits that fail -/

/-- A mishap at the path of a module broke its overwriting off, as the error tells. The backup holds
the bytes of the module. -/
structure TornModule (config : Config) (source : Path) (raw : Bytes) (s t : FileStore)
    (e : Error) : Prop where
  mishap : ∃ mishap n, s.conditions.mishaps.lookup source.toString = some mishap ∧
    mishap.arrived = some n ∧ e = .write source ⟨.trouble mishap.trouble, source.toString⟩
  backedUp : BackedUp config source raw t

/-- When the last step of a job is broken off, its backup holds the bytes of the module. -/
theorem Split.LastStepBroken.torn {trees : TreeSource} {config : Config} {path : Path} {job : Job}
    {g : Grounds} {s t : FileStore} {l : Location} {raw : Bytes} {e : Error}
    (hg : Prepared trees config s path job g)
    (hstat : s.stat job.report.module.toString = .ok (l, .file raw))
    (h : LastStepBroken job s t e) : TornModule config job.report.module raw s t e := by
  obtain ⟨hmade, u, trouble, hextends, rfl, mishap, op, hmishap, rfl, hop, happly⟩ := h
  obtain ⟨n, harrived, rfl⟩ := Option.map_eq_some_iff.mp hop
  have hgrows := (Backup.createAt_grows hmade).trans hextends.grows
  rw [hgrows.conditions] at hmishap
  refine ⟨⟨mishap, n, hmishap, harrived, rfl⟩, job.backup, hg.backup, ?_⟩
  -- the backup is another file than the module
  obtain ⟨hkept, m, hml, hbackup⟩ := Backup.createAt_secures hstat hmade
  have hmodule := FileStore.stat_of_grows hgrows hstat (hextends.kept l _ hkept)
  obtain ⟨-, hothers⟩ := Operation.overwrite_found happly hmodule
  exact FileStore.read_eq_ok_iff.mpr
    ⟨m, hothers hml (FileStore.stat_extends hextends hbackup)⟩

/-- **A split that fails** leaves the module as it was, or torn. -/
theorem Split.module_kept {trees : TreeSource} {config : Config} {path source : Path}
    {s : FileStore} {raw : Bytes} {e : Error} (hsource : ModuleFile.resolve s path = .ok source)
    (hraw : s.read source.toString = .ok raw)
    (h : (split trees config path s).result = .error e) :
    (split trees config path s).store.read source.toString = .ok raw ∨
      TornModule config source raw s (split trees config path s).store e := by
  rcases split_cases trees config path s with ⟨-, hstore, -⟩ | ⟨job, hprepare, -, hstore, hresult⟩
  · rw [hstore]
    exact Or.inl hraw
  · obtain ⟨g, hg⟩ := prepare_carryOut hprepare
    obtain rfl := Except.ok.inj (hg.resolved.symm.trans hsource)
    obtain ⟨l, hstat⟩ := FileStore.read_eq_ok_iff.mp hraw
    rw [hstore]
    rcases commit_error (hresult.symm.trans h) with hidle | hextends | hbroken
    · rw [hidle]
      exact Or.inl hraw
    · -- the backup keeps the module, and what follows it only adds
      exact Or.inl (FileStore.read_eq_ok_iff.mpr
        ⟨l, FileStore.stat_extends hextends (Backup.createAt_keeps hstat)⟩)
    · exact Or.inr (hbroken.torn hg hstat)

/-- **A split can be broken off at any time.** Between any two of its operations, after one that
failed, and in the middle of one, the module or its backup holds the bytes that the module had;
once the module is overwritten, the backup does. -/
theorem split_survives_interruption (trees : TreeSource) (config : Config) {path source : Path}
    {s : FileStore} {raw : Bytes} (hsource : ModuleFile.resolve s path = .ok source)
    (hraw : s.read source.toString = .ok raw) :
    (split trees config path s).store = replay s (split trees config path s).journal ∧
      (∀ t, Interrupted s (split trees config path s).journal t →
        t.read source.toString = .ok raw ∨ BackedUp config source raw t) ∧
      ∀ content, .overwrite source.toString content ∈ (split trees config path s).journal →
        BackedUp config source raw (split trees config path s).store := by
  obtain ⟨l, hstat⟩ := FileStore.read_eq_ok_iff.mp hraw
  have hlogged := Split.split_logged trees config path s
  refine ⟨hlogged, ?_⟩
  rcases Split.split_course trees config path s with hidle | ⟨job, g, hg, hcourse⟩
  · rw [hidle]
    exact ⟨fun t h => Or.inl (h.read trivial hstat), fun _ h => nomatch h⟩
  · obtain rfl := Except.ok.inj (hg.resolved.symm.trans hsource)
    refine ⟨fun t h => ?_, fun content h => ?_⟩
    · exact (hcourse.interrupted hstat h).imp id fun hread => ⟨job.backup, hg.backup, hread⟩
    · rw [hlogged]
      exact ⟨job.backup, hg.backup, hcourse.backup_of_overwritten hstat h⟩

theorem split_survives_interruption_sample :
    ModuleFile.resolve Sample.store Sample.path = .ok Sample.path ∧
      Sample.store.read Sample.path.toString = .ok Sample.raw ∧
      (∀ t, Interrupted Sample.store (split Sample.trees {} Sample.path Sample.store).journal t →
        t.read Sample.path.toString = .ok Sample.raw ∨ BackedUp {} Sample.path Sample.raw t) ∧
      BackedUp {} Sample.path Sample.raw
        (split Sample.trees {} Sample.path Sample.store).store := by
  have hsource : ModuleFile.resolve Sample.store Sample.path = .ok Sample.path :=
    eq_ok_of_toOption (by decide +kernel)
  have hraw : Sample.store.read Sample.path.toString = .ok Sample.raw :=
    eq_ok_of_toOption (by decide +kernel)
  obtain ⟨-, hfound, hend⟩ := split_survives_interruption Sample.trees {} hsource hraw
  -- the split gets to its last operation
  have hany : (split Sample.trees {} Sample.path Sample.store).journal.any (fun
      | .overwrite p _ => p == Sample.path.toString
      | _ => false) = true := by decide +kernel
  obtain ⟨op, hop, hpath⟩ := List.any_eq_true.mp hany
  cases op with
  | makeDirectory p => exact nomatch hpath
  | create p c => exact nomatch hpath
  | overwrite p c =>
    obtain rfl : p = Sample.path.toString := eq_of_beq hpath
    exact ⟨hsource, hraw, hfound, hend c hop⟩

end Unbundle
