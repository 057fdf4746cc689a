import Unbundle.Proofs.Commit

/-!
# Files over a history of splits

A split gives new content to at most two files that are there before it: its module, and the file
that the copy to its backup goes to (`Call.targets`). A file that is neither of them in any call
of a history keeps its content throughout (`history_keeps`). The files that a split extracted are
such files when the same module is split again (`Apart.spared`).
-/

namespace Unbundle

open Operation (Interrupted Spares replay)
open FileStore (Grows)

/-- A job spares every file but its module and the one that the copy to its backup replaces. -/
theorem Split.Course.spares {s : FileStore} {source backup : Path} {content : Bytes}
    {ops : List Operation} {l₀ l : Location} {e : Entry}
    (hcourse : Split.Course s source backup content ops)
    (hsource : s.stat source.toString = .ok (l₀, e)) (hmodule : l ≠ l₀)
    (hcopied : ∀ {inside : String} {raw : Bytes},
      Backup.prepareCopy s source backup = .ok (inside, raw) →
        ¬ (Operation.overwrite inside raw).Replaces s l) : Spares s ops l := by
  cases hcourse with
  | idle => trivial
  | copied hcopy => exact ⟨hcopied hcopy, trivial⟩
  | extracted hcopy hmade hadd => exact ⟨hcopied hcopy, Operation.spares_of_additions hadd⟩
  | @replaced inside raw additions hcopy hmade hadd =>
    -- the path of the module leads to the same place when its turn comes
    obtain ⟨e', hsource', -⟩ := FileStore.stat_grows
      (Operation.replay_grows (.overwrite inside raw :: additions) s) hsource
    exact Operation.spares_append.mpr
      ⟨⟨hcopied hcopy, Operation.spares_of_additions hadd⟩,
        Operation.spares_overwrite hsource' hmodule⟩

/-- A call of `split`, with all that it is given. -/
structure Call where
  trees : TreeSource
  config : Config
  path : Path

/-- The place that a path leads to, if it leads to something. -/
def FileStore.places (s : FileStore) (path : String) : List Location :=
  match s.stat path with
  | .ok (l, _) => [l]
  | .error _ => []

theorem FileStore.places_eq {s : FileStore} {path : String} {l : Location} {e : Entry}
    (h : s.stat path = .ok (l, e)) : s.places path = [l] := by
  rw [places, h]

namespace Call

/-- What comes of a call. -/
def run (c : Call) (s : FileStore) : Worked Report := split c.trees c.config c.path s

/-- The places of the files that a call may give new content: its module, and the file that the
copy to its backup goes to. -/
def targets (c : Call) (s : FileStore) : List Location :=
  match ModuleFile.resolve s c.path with
  | .error _ => []
  | .ok source =>
    s.places source.toString ++
      match Split.backupFor source c.config with
      | .error _ => []
      | .ok backup => s.places (Backup.destination s source backup).1

theorem targets_eq {c : Call} {s : FileStore} {source backup : Path}
    (hsource : ModuleFile.resolve s c.path = .ok source)
    (hbackup : Split.backupFor source c.config = .ok backup) :
    c.targets s =
      s.places source.toString ++ s.places (Backup.destination s source backup).1 := by
  simp only [targets, hsource, hbackup]

theorem run_logged (c : Call) (s : FileStore) : (c.run s).store = replay s (c.run s).journal :=
  Split.split_logged ..

theorem run_grows (c : Call) (s : FileStore) : Grows s (c.run s).store := by
  rw [run_logged]
  exact Operation.replay_grows _ s

/-- **One call.** A call spares every file that it does not target. -/
theorem spares {c : Call} {s : FileStore} {l : Location} (h : l ∉ c.targets s) :
    Spares s (c.run s).journal l := by
  rcases Split.split_course c.trees c.config c.path s with hidle | ⟨job, g, hg, hcourse⟩
  · have hjournal : (c.run s).journal = [] := hidle
    rw [hjournal]
    trivial
  · obtain ⟨-, l₀, raw, hstat⟩ := hg.stat_module
    rw [targets_eq hg.resolved hg.backup, List.mem_append, not_or] at h
    -- a job replaces at most two files, and both are targets
    refine hcourse.spares hstat ?_ ?_
    · rintro rfl
      exact h.1 (FileStore.places_eq hstat ▸ List.mem_singleton_self l)
    · rintro inside raw' hcopy ⟨path, content, old, hop, hstat'⟩
      cases hop
      rw [(Backup.prepareCopy_ok hcopy).1] at hstat'
      exact h.2 (FileStore.places_eq hstat' ▸ List.mem_singleton_self l)

end Call

/-! ## Histories -/

/-- The store after calls one after the other, whatever each of them came to. -/
def storeAfter (s : FileStore) : List Call → FileStore
  | [] => s
  | c :: calls => storeAfter (c.run s).store calls

/-- The operations of calls one after the other. -/
def history (s : FileStore) : List Call → List Operation
  | [] => []
  | c :: calls => (c.run s).journal ++ history (c.run s).store calls

/-- No call targets the file at a location when its turn comes. -/
def Spared (s : FileStore) : List Call → Location → Prop
  | [], _ => True
  | c :: calls, l => l ∉ c.targets s ∧ Spared (c.run s).store calls l

instance Spared.decide : ∀ (s : FileStore) (calls : List Call) (l : Location),
    Decidable (Spared s calls l)
  | _, [], _ => isTrue trivial
  | s, c :: calls, l =>
    have := Spared.decide (c.run s).store calls l
    inferInstanceAs (Decidable (l ∉ c.targets s ∧ Spared (c.run s).store calls l))

theorem storeAfter_eq_replay : ∀ (s : FileStore) (calls : List Call),
    storeAfter s calls = replay s (history s calls)
  | _, [] => rfl
  | s, c :: calls => by
    rw [storeAfter, history, Operation.replay_append, ← c.run_logged]
    exact storeAfter_eq_replay _ calls

/-- **Many calls.** The operations of a history spare every file that no call targets. -/
theorem spares_history {l : Location} : ∀ {s : FileStore} {calls : List Call},
    Spared s calls l → Spares s (history s calls) l
  | _, [], _ => trivial
  | s, c :: calls, h => by
    rw [history, Operation.spares_append, ← c.run_logged]
    exact ⟨Call.spares h.1, spares_history h.2⟩

/-! ## Splitting a module again -/

/-- A path that leads to a module leads to the same one later. -/
theorem ModuleFile.resolve_grows {s t : FileStore} {path source source' : Path} (hg : Grows s t)
    (h : resolve s path = .ok source) (h' : resolve t path = .ok source') : source' = source := by
  obtain ⟨-, l, content, hstat, rfl⟩ := resolve_found h
  obtain ⟨-, l', content', hstat', rfl⟩ := resolve_found h'
  obtain ⟨e, hlater, -⟩ := FileStore.stat_grows hg hstat
  rw [hstat'] at hlater
  cases hlater
  rfl

/-- A location is neither that of a module nor that of its backup. -/
structure Apart (source backup : Path) (s : FileStore) (k : Location) : Prop where
  module : ∃ l e, s.stat source.toString = .ok (l, e) ∧ k ≠ l
  backup : ∃ m content, s.stat backup.toString = .ok (m, .file content) ∧ k ≠ m

namespace Apart

variable {s t : FileStore} {source backup : Path} {k : Location}

theorem grows (h : Apart source backup s k) (hg : Grows s t) : Apart source backup t k := by
  obtain ⟨l, e, hmodule, hl⟩ := h.module
  obtain ⟨m, content, hbackup, hm⟩ := h.backup
  obtain ⟨e', hmodule', -⟩ := FileStore.stat_grows hg hmodule
  obtain ⟨e'', hbackup', hkind⟩ := FileStore.stat_grows hg hbackup
  cases e'' with
  | file content' => exact ⟨⟨l, e', hmodule', hl⟩, ⟨m, content', hbackup', hm⟩⟩
  | directory => exact absurd hkind id
  | link target => exact absurd hkind id

/-- What is apart from a module and its backup is no target of a call that splits this module. -/
theorem not_mem_targets (h : Apart source backup t k) {c : Call} (hg : Grows s t)
    (hsource : ModuleFile.resolve s c.path = .ok source)
    (hbackup : Split.backupFor source c.config = .ok backup) : k ∉ c.targets t := by
  cases hsource' : ModuleFile.resolve t c.path with
  | error e => simp [Call.targets, hsource']
  | ok source' =>
    obtain rfl := ModuleFile.resolve_grows hg hsource hsource'
    obtain ⟨l, e, hmodule, hl⟩ := h.module
    obtain ⟨m, content, hfile, hm⟩ := h.backup
    -- the backup is a file, so the copy goes to it and not into it
    have hnotdir : t.leadsToDirectory backup.toString = false := by
      simp [FileStore.leadsToDirectory, hfile]
    rw [Call.targets_eq hsource' hbackup, Backup.destination_eq hnotdir,
      FileStore.places_eq hmodule, FileStore.places_eq hfile]
    simp [hl, hm]

/-- What is apart from a module and its backup is spared however often this module is split. -/
theorem spared : ∀ {t : FileStore} {calls : List Call}, Apart source backup t k → Grows s t →
    (∀ c ∈ calls, ModuleFile.resolve s c.path = .ok source ∧
      Split.backupFor source c.config = .ok backup) → Spared t calls k
  | _, [], _, _, _ => trivial
  | t, c :: calls, h, hg, hcalls => by
    obtain ⟨hsource, hbackup⟩ := hcalls c (List.mem_cons_self ..)
    have hrun := c.run_grows t
    exact ⟨h.not_mem_targets hg hsource hbackup,
      (h.grows hrun).spared (hg.trans hrun) fun c' hc' => hcalls c' (List.mem_cons_of_mem _ hc')⟩

end Apart

/-- A file that a call has written is there, apart from the module and the backup of the call. -/
theorem Call.apart_of_written {c : Call} {s : FileStore} {report : Report} {target : Path}
    (h : (c.run s).result = .ok report) (hmem : target ∈ report.written) :
    ∃ source backup k content, ModuleFile.resolve s c.path = .ok source ∧
      Split.backupFor source c.config = .ok backup ∧
      Apart source backup (c.run s).store k ∧
      (c.run s).store.stat target.toString = .ok (k, .file content) := by
  rcases Split.split_ok h with ⟨-, hnone⟩ | ⟨job, g, hg, hcommit, hstore⟩
  · rw [hnone] at hmem
    exact nomatch hmem
  · obtain ⟨-, l, raw, hstat⟩ := hg.stat_module
    obtain ⟨hmodule, ⟨m, -, hbackup, hfiles⟩, rfl⟩ :=
      Split.commit_places hstat hg.skipFree hcommit
    obtain ⟨o, ho, rfl⟩ := List.mem_map.mp hmem
    obtain ⟨k, hkl, hkm, hfile⟩ := hfiles o ho
    rw [← hstore] at hmodule hbackup hfile
    exact ⟨_, _, k, _, hg.resolved, hg.backup,
      ⟨⟨l, _, hmodule, hkl⟩, ⟨m, _, hbackup, hkm⟩⟩, hfile⟩

/-! ## Files are kept -/

/-- **Files over whole histories.** Whatever the calls of a history come to, a file keeps its
content throughout unless some call targets it. In particular a file that was extracted is kept
when the same module is split again, however often and with whatever trees and settings, the
backup path apart. -/
theorem history_keeps (s : FileStore) (calls : List Call) :
    storeAfter s calls = replay s (history s calls) ∧
      (∀ l content, s.get? l = some (.file content) → Spared s calls l →
        ∀ t, Interrupted s (history s calls) t → t.get? l = some (.file content)) ∧
      ∀ (first : Call) (report : Report) (target : Path), (first.run s).result = .ok report →
        target ∈ report.written →
        (∀ c ∈ calls, c.path = first.path ∧
          c.config.backupSuffix = first.config.backupSuffix) →
        ∃ content, (first.run s).store.read target.toString = .ok content ∧
          ∀ t, Interrupted (first.run s).store (history (first.run s).store calls) t →
            t.read target.toString = .ok content := by
  refine ⟨storeAfter_eq_replay s calls, fun l content hget hspared t h => ?_, ?_⟩
  · exact h.keeps (spares_history hspared) hget
  · intro first report target hrun hmem hcalls
    obtain ⟨source, backup, k, content, hsource, hbackup, hapart, hfile⟩ :=
      Call.apart_of_written hrun hmem
    have hspared : Spared (first.run s).store calls k := by
      refine hapart.spared (first.run_grows s) fun c hc => ?_
      obtain ⟨hpath, hsuffix⟩ := hcalls c hc
      rw [hpath, Split.backupFor, hsuffix]
      exact ⟨hsource, hbackup⟩
    exact ⟨content, FileStore.read_eq_ok_iff.mpr ⟨k, hfile⟩,
      fun t h => h.read (spares_history hspared) hfile⟩

/-- The small module is split twice beside another file. -/
theorem history_keeps_sample :
    let s : FileStore := { entries := (["N.txt"], .file [1, 2]) :: Sample.store.entries }
    let call : Call := ⟨Sample.trees, {}, Sample.path⟩
    (∀ t, Interrupted s (history s [call, call]) t → t.get? ["N.txt"] = some (.file [1, 2])) ∧
      ∃ report, (call.run s).result = .ok report ∧ ∀ target ∈ report.written,
        ∃ content, (call.run s).store.read target.toString = .ok content ∧
          ∀ t, Interrupted (call.run s).store (history (call.run s).store [call, call]) t →
            t.read target.toString = .ok content := by
  intro s call
  obtain ⟨-, hkeeps, hagain⟩ := history_keeps s [call, call]
  have hany : (call.run s).result.toOption.any (·.replaced) = true := by decide +kernel
  obtain ⟨report, hrun, -⟩ := exists_ok_of_any hany
  refine ⟨hkeeps ["N.txt"] [1, 2] (by decide) (by decide +kernel), report, hrun, ?_⟩
  intro target htarget
  refine hagain call report target hrun htarget fun c hc => ?_
  obtain rfl : c = call := by simpa using hc
  exact ⟨rfl, rfl⟩

end Unbundle
