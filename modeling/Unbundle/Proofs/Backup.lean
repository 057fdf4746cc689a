import Unbundle.Backup
import Unbundle.Proofs.Paths
import Unbundle.Proofs.Work

/-!
# What a backup does

Making a backup carries out at most one operation: it overwrites the file that the copy goes to
(`createAt_journal`), and that file is not the module. If the backup is made, it reads back as the
module, which has kept its content, and the two are different files (`createAt_secures`). This is
what makes it safe to overwrite the module afterwards.
-/

namespace Unbundle

theorem FileStore.probe_some {s : FileStore} {path : Path} {e : Entry}
    (h : s.probe path = .ok (some e)) : ∃ l, s.stat path.toString = .ok (l, e) := by
  unfold probe at h
  split at h
  next => cases h
  next =>
    split at h
    next l e' hstat =>
      cases h
      exact ⟨l, hstat⟩
    next =>
      split at h
      next => cases h
      next => cases h

namespace ModuleFile

variable {s : FileStore}

/-- A module that was found is the file that its path leads to, and the path has the suffix of
modules. -/
theorem resolve_found {path source : Path} (h : resolve s path = .ok source) :
    Text.lower path.suffix = moduleSuffix ∧
      ∃ l content, s.stat path.toString = .ok (l, .file content) ∧ source = ⟨.slash, l⟩ := by
  unfold resolve at h
  split at h
  next => cases h
  next => cases h
  next content hprobe =>
    split at h
    next => cases h
    next hsuffix =>
      obtain ⟨l, hstat⟩ := FileStore.probe_some hprobe
      rw [hstat] at h
      cases h
      exact ⟨by simpa using hsuffix, l, content, hstat, rfl⟩
  next => cases h

theorem readBytes_ok {purpose : Purpose} {path : Path} {wrap : Fault → Error} {content : Bytes}
    (h : readBytes s purpose path wrap = .ok content) :
    FileStore.acceptable path.toString = true ∧ s.read path.toString = .ok content := by
  unfold readBytes at h
  split at h
  next => exact absurd h (by simp)
  next hpath =>
    exact ⟨by simpa using hpath, (FileStore.fetch_eq_ok_iff.mp (mapError_eq_ok.mp h)).2⟩

theorem readBytes_of_read {purpose : Purpose} {path : Path} {content : Bytes}
    (wrap : Fault → Error) (hpath : FileStore.acceptable path.toString = true)
    (hreadable : s.conditions.unreadable.lookup (purpose, path.toString) = none)
    (h : s.read path.toString = .ok content) : readBytes s purpose path wrap = .ok content := by
  unfold readBytes
  rw [if_neg (by simp [hpath])]
  exact mapError_eq_ok.mpr (FileStore.fetch_eq_ok_iff.mpr ⟨hreadable, h⟩)

theorem readBytes_error {purpose : Purpose} {path : Path} {wrap : Fault → Error} {e : Error}
    (h : readBytes s purpose path wrap = .error e) :
    (FileStore.acceptable path.toString = false ∧ e = .invalid .embeddedNul) ∨
      ∃ fault, e = wrap fault := by
  unfold readBytes at h
  split at h
  next hpath =>
    cases h
    exact Or.inl ⟨by simpa using hpath, rfl⟩
  next =>
    obtain ⟨kind, -, rfl⟩ := mapError_eq_error.mp h
    exact Or.inr ⟨_, rfl⟩

/-- The text of a module was read from bytes at an acceptable path. -/
theorem read_ok {path : Path} {text : String} {bom : Bool} (h : read s path = .ok (text, bom)) :
    ∃ raw, FileStore.acceptable path.toString = true ∧ s.read path.toString = .ok raw ∧
      Utf8.decodeFile raw = .ok (text, bom) := by
  unfold read at h
  split at h
  next => exact nomatch h
  next raw hraw =>
    obtain ⟨hpath, hread⟩ := readBytes_ok hraw
    exact ⟨raw, hpath, hread, mapError_eq_ok.mp h⟩

end ModuleFile

namespace Backup

open ModuleFile (readBytes_ok readBytes_error)
open Work (Within)
open FileStore (Grows get?_of_stat)

variable {s : FileStore} {source target : Path}

/-- A backup that passes its test reads back as its module. -/
theorem verify_ok {u : Unit} (h : verify s source target = .ok u) :
    ∃ content, s.read target.toString = .ok content ∧ s.read source.toString = .ok content := by
  obtain ⟨copied, htarget, h⟩ := except_bind_ok h
  obtain ⟨content, hsource, h⟩ := except_bind_ok h
  split at h
  next heq =>
    obtain rfl : copied = content := eq_of_beq heq
    exact ⟨copied, (readBytes_ok htarget).2, (readBytes_ok hsource).2⟩
  next => exact nomatch h

/-! ## The copy -/

/-- What is copied is the content of the module, to the destination, which is another file. -/
theorem prepareCopy_ok {inside : String} {content : Bytes}
    (h : prepareCopy s source target = .ok (inside, content)) :
    inside = (destination s source target).1 ∧ FileStore.acceptable inside = true ∧
      sameFile s source.toString inside = false ∧
      FileStore.acceptable source.toString = true ∧ s.read source.toString = .ok content := by
  simp only [prepareCopy] at h
  split at h
  next => exact absurd h (by simp)
  next hnul =>
    split at h
    next => exact absurd h (by simp)
    next hsame =>
      cases hread : ModuleFile.readBytes s .copy source
          ((fun cause => Error.backup source target cause) ∘ .fault) with
      | error e => rw [hread] at h; exact absurd h (by simp [Except.map])
      | ok c =>
        rw [hread] at h
        cases h
        exact ⟨rfl, by simpa using hnul, by simpa using hsame, readBytes_ok hread⟩

/-- The copy goes to the path of the backup itself, unless that leads to a directory. -/
theorem destination_eq (h : s.leadsToDirectory target.toString = false) :
    (destination s source target).1 = target.toString := by
  unfold destination
  rw [if_neg (by simp [h])]

/-- Two files that are not one have different locations. -/
theorem ne_of_sameFile {a b : String} {l m : Location} {e e' : Entry}
    (h : sameFile s a b = false) (ha : s.stat a = .ok (l, e)) (hb : s.stat b = .ok (m, e')) :
    m ≠ l := by
  simp only [sameFile, ha, hb] at h
  exact fun hml => absurd h (by simp [hml])

/-- Copying overwrites the destination once, if it gets that far. -/
theorem copy_run {inside : String} {content : Bytes}
    (h : prepareCopy s source target = .ok (inside, content)) :
    (copy source target s).journal = [.overwrite inside content] ∧
      (copy source target s).store = Operation.attempt s (.overwrite inside content) := by
  have hnul : FileStore.acceptable (Operation.overwrite inside content).path = true :=
    (prepareCopy_ok h).2.1
  have hattempt := Work.attempt_run hnul s
  have hrun : copy source target s = _ := Work.check_bind h
  rw [hrun]
  -- after the operation only the fault is reported
  refine (Work.bind_silent (fun fault => ?_) s).imp (·.trans (by rw [hattempt]))
    (·.trans (by rw [hattempt]))
  cases fault with
  | none => exact .pure ()
  | some kind =>
    refine .bind (.check fun _ _ _ => trivial) fun there => ?_
    split
    next => exact .fail trivial
    next => exact .fail trivial

theorem copy_error {e : Error} (h : prepareCopy s source target = .error e) :
    copy source target s = ⟨s, [], [], .error e⟩ :=
  Work.check_bind_error h

theorem copy_ok {u : Unit} (h : (copy source target s).result = .ok u) :
    ∃ inside content, prepareCopy s source target = .ok (inside, content) ∧
      (Operation.overwrite inside content).apply s = .ok (copy source target s).store := by
  cases hcopy : prepareCopy s source target with
  | error e => rw [copy_error hcopy] at h; exact nomatch h
  | ok plan =>
    obtain ⟨inside, content⟩ := plan
    refine ⟨inside, content, rfl, ?_⟩
    have hrun : copy source target s = _ := Work.check_bind hcopy
    rw [hrun] at h ⊢
    obtain ⟨fault, hattempt, hrest, hstore, -⟩ := Work.bind_ok h
    cases fault with
    | none =>
      rw [hstore]
      exact (Work.attempt_ok hattempt).1
    | some kind =>
      obtain ⟨there, -, hrest, -, -⟩ := Work.bind_ok hrest
      split at hrest
      next => exact nomatch hrest
      next => exact nomatch hrest

/-! ## The whole backup -/

/-- The part of making a backup that follows the look at its place. -/
def copyTested (source target : Path) : Work Unit := do
  copy source target
  Work.check fun s => verify s source target
  Work.tell (.backedUp source.name target)

theorem copyTested_run (s : FileStore) (source target : Path) :
    (copyTested source target s).journal = (copy source target s).journal ∧
      (copyTested source target s).store = (copy source target s).store := by
  refine Work.bind_silent (fun _ => ?_) s
  exact .bind (.check fun _ _ _ => trivial) fun _ => .tell _

theorem copyTested_ok {u : Unit} (h : (copyTested source target s).result = .ok u) :
    (copy source target s).result = .ok u ∧
      verify (copy source target s).store source target = .ok u := by
  obtain ⟨_, hcopy, h, -, -⟩ := Work.bind_ok h
  obtain ⟨_, hverify, -, -, -⟩ := Work.bind_ok h
  exact ⟨hcopy, hverify⟩

/-- Making a backup is copying and testing, but for what is told, unless its place is out of
reach. -/
theorem createAt_run (s : FileStore) (source target : Path) :
    (∃ fault, s.probe target = .error fault ∧
      createAt source target s = ⟨s, [], [], .error (.file fault)⟩) ∨
      ((createAt source target s).journal = (copyTested source target s).journal ∧
        (createAt source target s).store = (copyTested source target s).store ∧
        (createAt source target s).result = (copyTested source target s).result) := by
  cases hprobe : s.probe target with
  | error fault =>
    exact Or.inl ⟨fault, rfl, Work.check_bind_error (by rw [hprobe]; rfl)⟩
  | ok entry =>
    have hrun : createAt source target s = _ :=
      Work.check_bind (show (s.probe target).mapError Error.file = .ok entry by rw [hprobe]; rfl)
    rw [hrun]
    refine Or.inr ?_
    cases entry with
    | none => exact And.intro rfl (And.intro rfl rfl)
    | some e => exact Work.tell_bind _ (fun _ => copyTested source target) s

/-- Making a backup carries out nothing, or overwrites the destination of the copy. -/
theorem createAt_journal (s : FileStore) (source target : Path) :
    ((createAt source target s).journal = [] ∧ (createAt source target s).store = s) ∨
      ∃ inside content, prepareCopy s source target = .ok (inside, content) ∧
        (createAt source target s).journal = [.overwrite inside content] ∧
        (createAt source target s).store = Operation.attempt s (.overwrite inside content) := by
  rcases createAt_run s source target with ⟨e, -, hrun⟩ | ⟨hjournal, hstore, -⟩
  · rw [hrun]
    exact Or.inl ⟨rfl, rfl⟩
  · obtain ⟨hjournal', hstore'⟩ := copyTested_run s source target
    rw [hjournal, hstore, hjournal', hstore']
    cases hcopy : prepareCopy s source target with
    | error e =>
      rw [copy_error hcopy]
      exact Or.inl ⟨rfl, rfl⟩
    | ok plan => exact Or.inr ⟨plan.1, plan.2, rfl, copy_run hcopy⟩

/-- A backup that was made: the copy was prepared and carried out, and passed its test. -/
theorem createAt_ok {u : Unit} (h : (createAt source target s).result = .ok u) :
    ∃ inside content, prepareCopy s source target = .ok (inside, content) ∧
      (createAt source target s).journal = [.overwrite inside content] ∧
      (Operation.overwrite inside content).apply s = .ok (createAt source target s).store ∧
      verify (createAt source target s).store source target = .ok u := by
  rcases createAt_run s source target with ⟨e, -, hrun⟩ | ⟨hjournal, hstore, hresult⟩
  · rw [hrun] at h
    exact nomatch h
  · obtain ⟨hjournal', hstore'⟩ := copyTested_run s source target
    rw [hresult] at h
    obtain ⟨hcopy, hverify⟩ := copyTested_ok h
    obtain ⟨inside, content, hprepare, happly⟩ := copy_ok hcopy
    rw [hjournal, hstore, hjournal', hstore']
    exact ⟨inside, content, hprepare, (copy_run hprepare).1, happly, hverify⟩

theorem createAt_grows {u : Unit} (h : (createAt source target s).result = .ok u) :
    FileStore.Grows s (createAt source target s).store := by
  obtain ⟨inside, content, -, -, happly, -⟩ := createAt_ok h
  exact Operation.apply_grows happly

/-- Once a backup is made, the copy is all that was done. -/
theorem createAt_store {u : Unit} {inside : String} {content : Bytes}
    (hcopy : prepareCopy s source target = .ok (inside, content))
    (h : (createAt source target s).result = .ok u) :
    (createAt source target s).store = Operation.attempt s (.overwrite inside content) := by
  obtain ⟨written, copied, -, hjournal, -⟩ := createAt_ok h
  rcases createAt_journal s source target with
    ⟨hidle, -⟩ | ⟨inside', content', hcopy', -, hstore⟩
  · exact nomatch hidle.symm.trans hjournal
  · obtain ⟨rfl, rfl⟩ := Prod.mk.inj (Except.ok.inj (hcopy.symm.trans hcopy'))
    exact hstore

/-- The copy does not replace the module. -/
theorem not_replaces_of_prepareCopy {inside : String} {content : Bytes} {l : Location} {e : Entry}
    (h : prepareCopy s source target = .ok (inside, content))
    (hsource : s.stat source.toString = .ok (l, e)) :
    ¬ (Operation.overwrite inside content).Replaces s l := by
  rintro ⟨path, content', old, hop, hstat⟩
  cases hop
  exact ne_of_sameFile (prepareCopy_ok h).2.2.1 hsource hstat rfl

/-- Whether or not a backup is made, the module is where it was with the content it had. -/
theorem createAt_keeps {l : Location} {raw : Bytes}
    (hsource : s.stat source.toString = .ok (l, .file raw)) :
    (createAt source target s).store.stat source.toString = .ok (l, .file raw) := by
  rcases createAt_journal s source target with ⟨-, h⟩ | ⟨inside, content, hcopy, -, h⟩
  · rw [h, hsource]
  · have hkept := Operation.get?_attempt (get?_of_stat hsource)
      (not_replaces_of_prepareCopy hcopy hsource)
    rw [h]
    exact FileStore.stat_of_grows (Operation.attempt_grows s _) hsource hkept

/-- What a backup that reads back leads to is not the module: either it led to another file before,
or its place was free. -/
theorem backup_ne_source {inside : String} {content raw : Bytes} {t : FileStore}
    {l m : Location} {e : Entry} (h : prepareCopy s source target = .ok (inside, content))
    (happly : (Operation.overwrite inside content).apply s = .ok t)
    (hsource : s.stat source.toString = .ok (l, e))
    (htarget : t.stat target.toString = .ok (m, .file raw)) : m ≠ l := by
  obtain ⟨hinside, -, hsame, -⟩ := prepareCopy_ok h
  cases hstat : s.stat target.toString with
  | ok found =>
    -- the path led to something before the copy, and by its kind this was a file
    obtain ⟨m', e'⟩ := found
    obtain ⟨e'', hstat', hkind⟩ := FileStore.stat_grows (Operation.apply_grows happly) hstat
    rw [htarget] at hstat'
    cases hstat'
    have hnotdir : s.leadsToDirectory target.toString = false := by
      cases e' with
      | file old => simp [FileStore.leadsToDirectory, hstat]
      | directory => exact absurd hkind id
      | link t => exact absurd hkind id
    rw [hinside, destination_eq hnotdir] at hsame
    exact ne_of_sameFile hsame hsource hstat
  | error kind =>
    -- the path led nowhere, so the copy put the file at a free place
    have hnotdir : s.leadsToDirectory target.toString = false := by
      simp [FileStore.leadsToDirectory, hstat]
    rw [hinside, destination_eq hnotdir] at happly
    obtain ⟨m', -, hstat', hfree | ⟨old, hold⟩⟩ := Operation.overwrite_ok happly
    · rw [htarget] at hstat'
      cases hstat'
      rintro rfl
      exact absurd (get?_of_stat hsource) (by simp [hfree])
    · exact absurd hold (by simp [hstat])

/-- **A backup secures its module.** Once it is made, the module is where it was with the content
it had, and the path of the backup leads to another file with the same content. -/
theorem createAt_secures {u : Unit} {raw : Bytes} {l : Location}
    (hsource : s.stat source.toString = .ok (l, .file raw))
    (h : (createAt source target s).result = .ok u) :
    (createAt source target s).store.get? l = some (.file raw) ∧
      ∃ m, m ≠ l ∧ (createAt source target s).store.stat target.toString = .ok (m, .file raw) := by
  obtain ⟨inside, content, hprepare, -, happly, hverify⟩ := createAt_ok h
  have hkept := Operation.get?_apply happly (get?_of_stat hsource)
    (not_replaces_of_prepareCopy hprepare hsource)
  have hsource' := FileStore.stat_of_grows (Operation.apply_grows happly) hsource hkept
  -- the test read both files in the store after the copy
  obtain ⟨copied, htarget, hback⟩ := verify_ok hverify
  obtain ⟨m, hm⟩ := FileStore.read_eq_ok_iff.mp htarget
  obtain ⟨l', hl'⟩ := FileStore.read_eq_ok_iff.mp hback
  rw [hsource'] at hl'
  cases hl'
  exact ⟨hkept, m, backup_ne_source hprepare happly hsource hm, hm⟩

/-! ## How a backup fails -/

theorem within_copy {errors : Error → Prop}
    (hprepare : ∀ s e, prepareCopy s source target = .error e → errors e)
    (hcause : ∀ cause, errors (.backup source target cause)) :
    Within (fun _ => True) errors (copy source target) := by
  refine .check_bind hprepare fun s plan hplan => ?_
  obtain ⟨inside, content⟩ := plan
  have hnul : FileStore.acceptable inside = true := (prepareCopy_ok hplan).2.1
  refine .bind (.attempt trivial fun hbad => nomatch hnul.symm.trans hbad) fun fault => ?_
  cases fault with
  | none => exact .pure ()
  | some kind =>
    refine .bind (.check fun _ _ he => nomatch he) fun there => ?_
    split
    next => exact .fail (hcause _)
    next => exact .fail (hcause _)

theorem within_copyTested {errors : Error → Prop}
    (hprepare : ∀ s e, prepareCopy s source target = .error e → errors e)
    (hcause : ∀ cause, errors (.backup source target cause))
    (hverify : ∀ s e, verify s source target = .error e → errors e) :
    Within (fun _ => True) errors (copyTested source target) :=
  .bind (within_copy hprepare hcause) fun _ => .bind (.check hverify) fun _ => .tell _

theorem within_createAt {errors : Error → Prop} (hfile : ∀ fault, errors (.file fault))
    (htested : Within (fun _ => True) errors (copyTested source target)) :
    Within (fun _ => True) errors (createAt source target) := by
  refine .bind (.check fun s e he => ?_) fun entry => ?_
  · obtain ⟨fault, -, rfl⟩ := mapError_eq_error.mp he
    exact hfile fault
  · cases entry with
    | none => exact htested
    | some e => exact .bind (.tell _) fun _ => htested

/-- The errors that copying a module and testing the copy end with. -/
inductive CopyFailure (source target : Path) : Error → Prop
  | copy (cause : CopyFault) : CopyFailure source target (.backup source target cause)
  | differs : CopyFailure source target (.backupDiffers source target)

/-- The errors that making a backup ends with. -/
inductive Failure (source target : Path) : Error → Prop
  | outOfReach (fault : Fault) : Failure source target (.file fault)
  | copy (cause : CopyFault) : Failure source target (.backup source target cause)
  | differs : Failure source target (.backupDiffers source target)

theorem CopyFailure.failure {e : Error} (h : CopyFailure source target e) :
    Failure source target e := by
  cases h with
  | copy cause => exact .copy cause
  | differs => exact .differs

theorem acceptable_destination (hsource : FileStore.acceptable source.toString = true)
    (htarget : FileStore.acceptable target.toString = true) (s : FileStore) :
    FileStore.acceptable (destination s source target).1 = true := by
  unfold destination
  split
  next =>
    rw [FileStore.acceptable_append, FileStore.acceptable_append]
    exact ⟨⟨htarget, by split <;> decide⟩, Path.acceptable_name hsource⟩
  next => exact htarget

/-- Reading an acceptable path for a backup ends with a fault of the copy. -/
theorem copyFailure_of_readBytes {purpose : Purpose} {path : Path}
    (hpath : FileStore.acceptable path.toString = true) {e : Error}
    (h : ModuleFile.readBytes s purpose path
      (fun fault => .backup source target (.fault fault)) = .error e) :
    CopyFailure source target e := by
  rcases readBytes_error h with ⟨hbad, -⟩ | ⟨fault, rfl⟩
  · exact absurd hpath (by simp [hbad])
  · exact .copy _

theorem copyFailure_of_prepareCopy (hsource : FileStore.acceptable source.toString = true)
    (htarget : FileStore.acceptable target.toString = true) {e : Error}
    (h : prepareCopy s source target = .error e) : CopyFailure source target e := by
  simp only [prepareCopy] at h
  split at h
  next hbad => exact absurd (acceptable_destination hsource htarget s) (by simpa using hbad)
  next =>
    split at h
    next =>
      cases h
      exact .copy _
    next =>
      cases hread : ModuleFile.readBytes s .copy source
          ((fun cause => Error.backup source target cause) ∘ .fault) with
      | ok c => rw [hread] at h; exact nomatch h
      | error e' =>
        rw [hread] at h
        cases h
        exact copyFailure_of_readBytes hsource hread

theorem copyFailure_of_verify (hsource : FileStore.acceptable source.toString = true)
    (htarget : FileStore.acceptable target.toString = true) {e : Error}
    (h : verify s source target = .error e) : CopyFailure source target e := by
  rcases except_bind_error h with hread | ⟨copied, -, h⟩
  · exact copyFailure_of_readBytes htarget hread
  · rcases except_bind_error h with hread | ⟨content, -, h⟩
    · exact copyFailure_of_readBytes hsource hread
    · split at h
      next => exact nomatch h
      next =>
        cases h
        exact .differs

/-- With acceptable paths, copying and testing end only with the errors of a copy. -/
theorem copyTested_fails (hsource : FileStore.acceptable source.toString = true)
    (htarget : FileStore.acceptable target.toString = true) :
    Within (fun _ => True) (CopyFailure source target) (copyTested source target) :=
  within_copyTested (fun _ _ => copyFailure_of_prepareCopy hsource htarget) .copy
    fun _ _ => copyFailure_of_verify hsource htarget

/-- With acceptable paths, making a backup ends only with the errors of a backup. -/
theorem createAt_fails (hsource : FileStore.acceptable source.toString = true)
    (htarget : FileStore.acceptable target.toString = true) :
    Within (fun _ => True) (Failure source target) (createAt source target) :=
  within_createAt .outOfReach
    ((copyTested_fails hsource htarget).mono (fun _ => id) fun _ => CopyFailure.failure)

end Backup

end Unbundle
