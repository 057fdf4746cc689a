import Unbundle.Proofs.Commit

/-!
# Nothing is lost and nothing is duplicated

After a module was split, its text is still there in parts (`split_conserves`): each callable in a
file of its own, and the words of the gaps between the callables, without an old loader, in front
of the new loader in the module. The backup holds the bytes of the module as they were.
-/

namespace Unbundle

open Utf8 (IsBoundary)

/-- The content of a file that starts with a byte order mark if `raw` does. -/
def markedLike (raw content : Bytes) : Bytes :=
  if Utf8.byteOrderMark <+: raw then Utf8.byteOrderMark ++ content else content

theorem encodeFile_eq_markedLike {raw : Bytes} {text : String} {bom : Bool}
    (h : Utf8.decodeFile raw = .ok (text, bom)) (t : String) :
    Utf8.encodeFile t bom = markedLike raw (Utf8.encode t) := by
  have hmark := Utf8.mark_of_decodeFile h
  cases bom with
  | true => rw [markedLike, if_pos (hmark.mp rfl)]; rfl
  | false => rw [markedLike, if_neg fun hp => nomatch hmark.mpr hp]; rfl

theorem appendLoader_eq (leftover newline loader : String) :
    Assembly.appendLoader leftover newline loader =
      if leftover = "" then loader else leftover ++ newline ++ newline ++ loader := by
  simp only [Assembly.appendLoader, String.isEmpty_iff]

namespace Split

variable {trees : TreeSource} {config : Config} {s : FileStore} {path : Path} {job : Job}

/-! ## What a job rests on, in the words of the module -/

/-- The module, text and tree that a job rests on are the ones that can be read from the store. -/
theorem Prepared.names {g : Grounds} {source : Path} {raw : Bytes} {text : String} {bom : Bool}
    {root : Node} (hg : Prepared trees config s path job g)
    (hsource : ModuleFile.resolve s path = .ok source) (hraw : s.read source.toString = .ok raw)
    (htext : Utf8.decodeFile raw = .ok (text, bom)) (hroot : trees 0 text = some root) :
    job.report.module = source ∧ job.bom = bom ∧ g.text = text ∧ g.root = root := by
  obtain rfl := Except.ok.inj (hg.resolved.symm.trans hsource)
  obtain ⟨raw', -, hraw', htext'⟩ := ModuleFile.read_ok hg.read
  obtain rfl := Except.ok.inj (hraw'.symm.trans hraw)
  obtain ⟨rfl, rfl⟩ := Prod.mk.inj (Except.ok.inj (htext'.symm.trans htext))
  have hparsed := hg.parsed
  rw [TreeSource.parse, hroot] at hparsed
  exact ⟨rfl, rfl, rfl, (Except.ok.inj hparsed).symm⟩

/-- The new text of a module: the loader follows what keeps the words of the gaps, without an old
loader. -/
theorem Prepared.weave {g : Grounds} (hg : Prepared trees config s path job g)
    (haligned : ∀ c ∈ g.callables, IsBoundary g.text.toList c.start ∧
      IsBoundary g.text.toList c.stop) :
    ∃ (w : Weave) (leftover : String),
      w.callables.Perm g.callables ∧ w.callables.Pairwise (fun c d => c.start ≤ d.start) ∧
      w.whole = g.text.toList ∧ w.InPlace ∧
      Text.words leftover.toList = Text.words (Loader.strip (String.ofList w.gaps)).1.toList ∧
      job.text = Assembly.appendLoader leftover (newlineOf g.text) g.loader := by
  obtain ⟨hloader, hordered, hperm⟩ := Assembly.ofPlan_ok hg.assembly
  rw [hg.outcomes_callables] at hperm
  obtain ⟨remaining, leftover, hremaining, hresult, hwords⟩ := Assembly.apply_ok hg.applied
  have hlies : ∀ c ∈ g.assembly.removed, c.LiesIn g.text.toList := fun c hc =>
    have hmem := hperm.mem_iff.mp hc
    ⟨(haligned c hmem).1, (haligned c hmem).2, Callable.text_of_mem_locate hmem⟩
  obtain ⟨w, hcallables, hwhole, hplace, rfl⟩ :=
    Assembly.withoutCallables_ok hordered hlies hremaining
  refine ⟨w, leftover, ?_, ?_, hwhole, hplace, hwords, ?_⟩
  · rw [hcallables]
    exact (List.reverse_perm _).trans hperm
  · rw [hcallables]
    exact List.pairwise_reverse.mpr hordered
  · rw [hg.text, hresult, hloader]

end Split

/-! ## Conservation -/

/-- The callables that a tree locates in a text lie on character boundaries. -/
def Aligned (text : String) (root : Node) : Prop :=
  ∀ c ∈ Callable.locate (Utf8.encode text) root,
    IsBoundary text.toList c.start ∧ IsBoundary text.toList c.stop

/-- Where the parts of a module with the bytes `raw` and the given text and tree are after a
split: in extracted files, in the new module and in the backup. -/
structure Conserved (config : Config) (source : Path) (raw : Bytes) (text : String) (root : Node)
    (report : Report) (after : FileStore) : Prop where
  /-- There is one outcome for each callable, in document order. -/
  outcomes : report.outcomes.map (·.callable) = Callable.locate (Utf8.encode text) root
  /-- Every callable is in its target. -/
  files : ∃ directory, Split.targetDirectory source config = .ok directory ∧
    ∀ o ∈ report.outcomes, o.path = some (o.callable.target directory config.extension) ∧
      after.read (o.callable.target directory config.extension).toString =
        .ok (markedLike raw (Utf8.encode o.callable.text))
  written : report.written.map some = report.outcomes.map (·.path)
  /-- The backup is the module as it was. -/
  backup : ∃ backup, report.backup = some backup ∧ Split.backupFor source config = .ok backup ∧
    after.read backup.toString = .ok raw
  /-- The text consists of the callables, by start, and gaps, whose words are in the new module. -/
  module : ∃ (w : Weave) (leftover loader : String),
    w.callables.Perm (Callable.locate (Utf8.encode text) root) ∧
    w.callables.Pairwise (fun c d => c.start ≤ d.start) ∧
    w.whole = text.toList ∧ w.InPlace ∧
    Text.words leftover.toList = Text.words (Loader.strip (String.ofList w.gaps)).1.toList ∧
    Split.loaderFor config (newlineOf text) = .ok loader ∧
    after.read source.toString = .ok (markedLike raw (Utf8.encode
      (if leftover = "" then loader
        else leftover ++ newlineOf text ++ newlineOf text ++ loader)))

/-- **Nothing is lost and nothing is duplicated.** Whatever trees the later parses give, a split
that replaced its module conserves it. -/
theorem split_conserves {trees : TreeSource} {config : Config} {path source : Path} {s : FileStore}
    {raw : Bytes} {text : String} {bom : Bool} {root : Node} {report : Report}
    (hsource : ModuleFile.resolve s path = .ok source) (hraw : s.read source.toString = .ok raw)
    (htext : Utf8.decodeFile raw = .ok (text, bom)) (hroot : trees 0 text = some root)
    (haligned : Aligned text root) (hrun : (split trees config path s).result = .ok report)
    (hreplaced : report.replaced = true) :
    Conserved config source raw text root report (split trees config path s).store := by
  rcases Split.split_ok hrun with ⟨hnot, -⟩ | ⟨job, g, hg, hcommit, hstore⟩
  · exact nomatch hreplaced.symm.trans hnot
  · obtain ⟨rfl, rfl, rfl, rfl⟩ := hg.names hsource hraw htext hroot
    obtain ⟨l, hstat⟩ := FileStore.read_eq_ok_iff.mp hraw
    obtain ⟨hmodule, ⟨m, -, hbackup, hfiles⟩, rfl⟩ :=
      Split.commit_places hstat hg.skipFree hcommit
    obtain ⟨w, leftover, hperm, hordered, hwhole, hplace, hwords, hnew⟩ := hg.weave haligned
    have hpath : ∀ o ∈ job.plan.outcomes,
        o.path = some (o.callable.target g.directory config.extension) := fun o ho =>
      congrArg Outcome.path (hg.eq_write ho).2
    -- what each field says is now read off the places where the job left its files
    rw [hstore]
    refine ⟨?_, ⟨g.directory, hg.directory, ?_⟩, ?_, ⟨job.backup, hg.reportBackup, hg.backup, ?_⟩,
      ⟨w, leftover, g.loader, hperm, hordered, hwhole, hplace, hwords, hg.loader, ?_⟩⟩
    · rw [hg.reportOutcomes]
      exact hg.outcomes_callables
    · intro o ho
      rw [hg.reportOutcomes] at ho
      obtain ⟨k, -, -, hfile⟩ := hfiles o ho
      rw [hpath o ho, encodeFile_eq_markedLike htext] at hfile
      exact ⟨hpath o ho, FileStore.read_eq_ok_iff.mpr ⟨k, hfile⟩⟩
    · rw [hg.reportOutcomes, List.map_map]
      refine List.map_congr_left fun o ho => ?_
      rw [Function.comp_apply, hpath o ho]
      rfl
    · exact FileStore.read_eq_ok_iff.mpr ⟨m, hbackup⟩
    · rw [hnew, encodeFile_eq_markedLike htext, appendLoader_eq] at hmodule
      exact FileStore.read_eq_ok_iff.mpr ⟨l, hmodule⟩

theorem aligned_sample : Aligned Sample.text Sample.root := by
  intro c hc
  have hlocate : (Callable.locate (Utf8.encode Sample.text) Sample.root).map
      (fun c => (c.start, c.stop)) = [(5, 18)] := by decide +kernel
  have hmem : (c.start, c.stop) ∈ [((5 : Int), (18 : Int))] := by
    rw [← hlocate]
    exact List.mem_map_of_mem hc
  obtain ⟨hstart, hstop⟩ := Prod.mk.inj (List.mem_singleton.mp hmem)
  rw [hstart, hstop]
  exact ⟨⟨"#é\r\n".toList, "function A \x7b\x7d\r\n".toList, by decide +kernel, by decide +kernel⟩,
    ⟨"#é\r\nfunction A \x7b\x7d".toList, "\r\n".toList, by decide +kernel, by decide +kernel⟩⟩

theorem split_conserves_sample :
    ∃ report, (split Sample.trees {} Sample.path Sample.store).result = .ok report ∧
      Conserved {} Sample.path Sample.raw Sample.text Sample.root report
        (split Sample.trees {} Sample.path Sample.store).store := by
  have hany : (split Sample.trees {} Sample.path Sample.store).result.toOption.any (·.replaced) =
      true := by decide +kernel
  obtain ⟨report, hrun, hreplaced⟩ := exists_ok_of_any hany
  refine ⟨report, hrun, ?_⟩
  have hbom : (Utf8.decodeFile Sample.raw).toOption = some (Sample.text, true) := by
    decide +kernel
  exact split_conserves (eq_ok_of_toOption (by decide +kernel))
    (eq_ok_of_toOption (by decide +kernel)) (eq_ok_of_toOption hbom)
    (congrArg some (if_pos rfl)) aligned_sample hrun hreplaced

end Unbundle
