import Unbundle.Proofs.Arguments
import Unbundle.Proofs.PartialExtraction
import Unbundle.Proofs.Reports
import Unbundle.Proofs.SpanRemoval

/-!
# Exit codes tell the truth

A call reads its arguments, its settings and then splits a module or lists its tree, so its exit
code goes back to the report of a split (`splitting_code`) or to an error. With code 1 nothing was
done (`carryOut_blocked`), with code 0 everything was (`carryOut_done`), and with code 2 the module
is as it was, unless a mishap broke its overwriting off; then the backup is what the module was
(`carryOut_fatal`). A dry run that is asked for comes over all other layers of settings
(`Settings.loadWith_dryRun`), so nothing is done then, however the call ends (`run_untouched`).

Nothing is assumed of the readers of the files that configure a call: what they make of these files
decides which settings are in effect (`Effective`), and the results are about those.
-/

namespace Unbundle

/-! ## Splits that were carried out -/

/-- What a store is like after a module was split: every callable is in a new file, the module is
what was left and the loader after it, and the backup has the bytes of the module as it was. -/
structure Survey.Extracted (config : Config) (v : Survey) (before after : FileStore) : Prop where
  files : ∃ directory, Split.targetDirectory v.source config = .ok directory ∧
    ∀ c ∈ v.callables, FileStore.Created before after (c.target directory config.extension)
      (markedLike v.raw (Utf8.encode c.text))
  module : ∃ remaining guarded loader,
    Utf8.decode (Span.outside (Utf8.encode v.text) (v.callables.map fun c => ⟨c.start, c.stop⟩)) =
      .ok remaining ∧
    Split.loaderFor config (newlineOf v.text) = .ok loader ∧
    after.read v.source.toString = .ok (markedLike v.raw (Utf8.encode
      (Assembly.appendLoader (BlankRows.collapse (Loader.strip remaining).1 guarded)
        (newlineOf v.text) loader)))
  backup : ∃ backup, Split.backupFor v.source config = .ok backup ∧
    after.read backup.toString = .ok v.raw

namespace Split

variable {trees : TreeSource} {config : Config} {s : FileStore} {path : Path} {job : Job}
  {g : Grounds} {v : Survey} {report : Report}

/-- **A job that was carried out** has extracted the module that was found. -/
theorem Prepared.extracted (hg : Prepared trees config s path job g) (hv : v.Found trees s path)
    (h : (commit job s).result = .ok report) : v.Extracted config s (commit job s).store := by
  obtain ⟨hmodule, hbom, htext, hroot⟩ := hg.names hv.resolved hv.read hv.decoded hv.parsed
  have hcallables : g.callables = v.callables := by
    rw [Grounds.callables, htext, hroot]
    rfl
  obtain ⟨l, hstat⟩ := FileStore.read_eq_ok_iff.mp hv.read
  rw [← hmodule] at hstat
  obtain ⟨hnew, ⟨m, -, hbackup, -⟩, -⟩ := commit_places hstat hg.skipFree h
  refine ⟨⟨g.directory, hmodule ▸ hg.directory, fun c hc => ?_⟩, ?_,
    ⟨job.backup, hmodule ▸ hg.backup, FileStore.read_eq_ok_iff.mpr ⟨m, hbackup⟩⟩⟩
  · -- a callable has an outcome, and the file of an outcome was created
    rw [← hcallables, ← hg.outcomes_callables] at hc
    obtain ⟨o, ho, rfl⟩ := List.mem_map.mp hc
    have hreported : o ∈ report.outcomes := by
      obtain ⟨written, -, -, -, rfl⟩ := commit_ok h
      exact hg.reportOutcomes ▸ ho
    exact (hg.creates hv h hreported).2
  · obtain ⟨hloader, -, hperm⟩ := Assembly.ofPlan_ok hg.assembly
    obtain ⟨remaining, guarded, hremaining, hresult⟩ := Assembly.apply_leftover hg.applied
    have hspans : g.assembly.spans.Perm (v.callables.map fun c => ⟨c.start, c.stop⟩) := by
      rw [← hcallables, ← hg.outcomes_callables]
      exact hperm.map _
    refine ⟨remaining, guarded, g.loader, ?_, htext ▸ hg.loader, ?_⟩
    · rw [← Span.outside_perm hspans, ← htext]
      exact Assembly.withoutCallables_outside hremaining
    · rw [hg.text, hresult, hloader, hbom, encodeFile_eq_markedLike hv.decoded, hmodule,
        htext] at hnew
      exact FileStore.read_eq_ok_iff.mpr ⟨l, hnew⟩

/-- Without a job nothing is done. -/
theorem split_of_unprepared (h : ∀ job g, ¬ Prepared trees config s path job g) :
    (split trees config path s).store = s ∧ (split trees config path s).journal = [] := by
  rcases split_cases trees config path s with ⟨hjournal, hstore, -⟩ | ⟨job, hprepare, -⟩
  · exact ⟨hstore, hjournal⟩
  · obtain ⟨g, hg⟩ := prepare_carryOut hprepare
    exact absurd hg (h job g)

theorem split_of_dryRun (h : config.dryRun = true) :
    (split trees config path s).store = s ∧ (split trees config path s).journal = [] :=
  split_of_unprepared fun _ _ hg => nomatch h.symm.trans hg.carriedOut

theorem split_of_unresolved (h : ∀ source, ModuleFile.resolve s path ≠ .ok source) :
    (split trees config path s).store = s ∧ (split trees config path s).journal = [] :=
  split_of_unprepared fun _ _ hg => h _ hg.resolved

/-- A split that is blocked does nothing, and one of the callables is skipped. -/
theorem split_of_blocked (h : (split trees config path s).result = .ok report)
    (hblocked : report.blocked = true) :
    ((split trees config path s).store = s ∧ (split trees config path s).journal = []) ∧
      ∃ v : Survey, v.Found trees s path ∧ v.Planned config s report.outcomes ∧
        ∃ o ∈ report.outcomes, o.isSkip = true := by
  obtain ⟨v, hv, hreported, ⟨hstore, hjournal, -⟩ | ⟨job, g, hg, hcommit, -⟩⟩ := split_reported h
  · have hskip := List.any_eq_true.mp (hreported.blocked.symm.trans hblocked)
    refine ⟨⟨hstore, hjournal⟩, v, hv, ?_, hskip⟩
    refine hreported.outcomes.resolve_left ?_
    rintro ⟨-, hnone⟩
    obtain ⟨o, ho, -⟩ := hskip
    rw [hnone] at ho
    exact absurd ho List.not_mem_nil
  · exact nomatch hblocked.symm.trans (hg.commit_report hcommit).2.1

/-- A split that is neither blocked nor a dry run finds no callable or extracts them all. -/
theorem split_of_free (h : (split trees config path s).result = .ok report)
    (hfree : report.blocked = false) (hreal : config.dryRun = false) :
    ∃ v : Survey, v.Found trees s path ∧
      ((v.callables = [] ∧ (split trees config path s).store = s ∧
          (split trees config path s).journal = []) ∨
        v.callables ≠ [] ∧ v.Extracted config s (split trees config path s).store) := by
  obtain ⟨v, hv, hreported, ⟨hstore, hjournal, hfinished⟩ | ⟨job, g, hg, hcommit, hstore⟩⟩ :=
    split_reported h
  · refine ⟨v, hv, Or.inl ⟨?_, hstore, hjournal⟩⟩
    rcases hfinished.reason with hdry | hblocked | hnone
    · exact nomatch hreal.symm.trans hdry
    · exact nomatch hfree.symm.trans hblocked
    · rw [← hreported.callables, hnone]
      rfl
  · refine ⟨v, hv, Or.inr ⟨fun hnone => ?_, ?_⟩⟩
    · obtain ⟨houtcomes, -⟩ := hg.commit_report hcommit
      rw [← hreported.callables, List.map_eq_nil_iff] at hnone
      exact houtcomes hnone
    · rw [hstore]
      exact hg.extracted hv hcommit

end Split

/-! ## Dry runs that are asked for -/

namespace Settings

variable {settings : Settings}

theorem validate_dryRun {final : Settings} (h : validate settings = .ok final) :
    final .dryRun = settings .dryRun := by
  obtain ⟨extension, -, h⟩ := except_bind_ok h
  simp only at h
  split at h
  next => exact nomatch h
  next =>
    obtain rfl := Except.ok.inj h
    rfl

/-- **What is given explicitly** comes over all other layers. -/
theorem combine_ok {entries : Entries} {env : Environment} {given : List (String × Value)}
    (h : (combine entries env given).result = .ok settings) :
    ∃ (explicitly : Layer) (configured : Settings), layerOf (explicit given) = .ok explicitly ∧
      validate (configured.withLayer explicitly) = .ok settings := by
  unfold combine at h
  simp only at h
  split at h
  next =>
    obtain ⟨text, -, h⟩ := Attempt.bind_ok h
    obtain ⟨inFile, -, h⟩ := Attempt.bind_ok h
    obtain ⟨inEnvironment, -, h⟩ := Attempt.bind_ok h
    obtain ⟨explicitly, hlayer, h⟩ := Attempt.bind_ok h
    exact ⟨explicitly, _, hlayer, h⟩
  next =>
    obtain ⟨inFile, -, h⟩ := Attempt.bind_ok h
    obtain ⟨inEnvironment, -, h⟩ := Attempt.bind_ok h
    obtain ⟨explicitly, hlayer, h⟩ := Attempt.bind_ok h
    exact ⟨explicitly, _, hlayer, h⟩

theorem loadWith_ok {reader : Reader} {s : FileStore} {path : Option String} {env : Environment}
    {given : List (String × Value)}
    (h : (loadWith reader s path env given).result = .ok settings) :
    ∃ entries, (combine entries env given).result = .ok settings := by
  unfold loadWith at h
  simp only at h
  split at h
  next =>
    obtain ⟨entries, -, h⟩ := Attempt.bind_ok h
    exact ⟨entries, h⟩
  next =>
    obtain ⟨entries, -, h⟩ := Attempt.bind_ok h
    exact ⟨entries, h⟩

theorem loadWith_dryRun {reader : Reader} {s : FileStore} {path : Option String}
    {env : Environment} {given : List (String × Value)} {value : Value}
    (hgiven : (explicit given).lookup Setting.dryRun.key = some value)
    (h : (loadWith reader s path env given).result = .ok settings) :
    settings .dryRun = value := by
  obtain ⟨entries, h⟩ := loadWith_ok h
  obtain ⟨explicitly, configured, hlayer, h⟩ := combine_ok h
  unfold layerOf at hlayer
  split at hlayer
  next =>
    obtain rfl := Except.ok.inj hlayer
    rw [validate_dryRun h, withLayer, hgiven]
    rfl
  next => exact nomatch hlayer

end Settings

namespace CommandLine

variable {readers : Readers} {trees : TreeSource} {env : Environment} {options : Options}
  {settings : Settings} {s : FileStore}

/-- A dry run that is asked for is one. -/
theorem Options.settings_dryRun {reader : Settings.Reader} (hdry : options.dryRun = true)
    (h : (options.settings reader s env).result = .ok settings) :
    settings.toConfig.dryRun = true := by
  have hgiven : (Settings.explicit options.given).lookup Setting.dryRun.key =
      some (.bool true) := by
    unfold Options.given Settings.explicit
    rw [if_pos hdry]
    rfl
  show (!(settings .dryRun).isFalsy) = true
  rw [Settings.loadWith_dryRun hgiven h]
  rfl

/-- The settings that are in effect, by what the readers make of the files. -/
def Effective (readers : Readers) (s : FileStore) (env : Environment) (options : Options)
    (settings : Settings) : Prop :=
  ∃ env', (readers.definitions s env).result = .ok env' ∧
    (options.settings readers.settings s env').result = .ok settings

/-! ## How a call ends -/

theorem splitting_run (trees : TreeSource) (config : Config) (path : Path) (s : FileStore) :
    (splitting trees config path s).store = (split trees config path s).store ∧
      (splitting trees config path s).journal = (split trees config path s).journal ∧
      ((∃ e, (split trees config path s).result = .error e ∧
          (splitting trees config path s).result = .error e) ∨
        ∃ report, (split trees config path s).result = .ok report ∧
          ((splitting trees config path s).result = .error .unencodable ∨
            ∃ text, (splitting trees config path s).result =
              .ok (text, if report.blocked then exitBlocked else exitDone))) := by
  cases hresult : (split trees config path s).result with
  | error e =>
    unfold splitting
    rw [Work.bind_of_error hresult]
    exact ⟨rfl, rfl, Or.inl ⟨e, rfl, rfl⟩⟩
  | ok report =>
    obtain ⟨hstore, hjournal, hends⟩ :=
      splitting_of_report hresult (Split.settled_of_split hresult).explained
    exact ⟨hstore, hjournal, Or.inr ⟨report, rfl, hends.imp_left And.right⟩⟩

theorem work_of_dumpTree (trees : TreeSource) (settings : Settings) (s : FileStore)
    (h : options.dumpTree = true) :
    (options.work trees settings s).store = s ∧ (options.work trees settings s).journal = [] ∧
      ∀ text code, (options.work trees settings s).result = .ok (text, code) →
        code = exitDone := by
  unfold Options.work
  rw [if_pos h]
  cases hlisting : (listing trees s (.ofString options.path)).result with
  | error e =>
    rw [Work.bind_of_error (show (Work.look (fun s => listing trees s (.ofString options.path))
      s).result = _ from hlisting)]
    exact ⟨rfl, rfl, fun _ _ hresult => nomatch hresult⟩
  | ok text =>
    rw [Work.bind_of_ok (show (Work.look (fun s => listing trees s (.ofString options.path))
      s).result = _ from hlisting)]
    exact ⟨rfl, rfl, fun _ _ hresult => (Prod.mk.inj (Except.ok.inj hresult)).2.symm⟩

theorem work_of_not_dumpTree (h : options.dumpTree = false) :
    options.work trees settings = splitting trees settings.toConfig (.ofString options.path) := by
  unfold Options.work
  rw [if_neg (by simp [h])]

theorem conclude_run (threshold : Nat) (early : String) (worked : Worked (String × Nat)) :
    (conclude threshold early worked).store = worked.store ∧
      (conclude threshold early worked).journal = worked.journal ∧
      ∀ code, (conclude threshold early worked).code = .ok code →
        (∃ text, worked.result = .ok (text, code)) ∨
          code = exitFatal ∧ ∃ e, worked.result = .error e ∧ closingNotice? e ≠ none := by
  unfold conclude
  cases hresult : worked.result with
  | ok printed =>
    obtain ⟨text, code⟩ := printed
    refine ⟨rfl, rfl, fun code' h => ?_⟩
    obtain rfl := Except.ok.inj h
    exact Or.inl ⟨text, rfl⟩
  | error e =>
    cases hnotice : closingNotice? e with
    | none =>
      simp only [hnotice]
      exact ⟨trivial, trivial, fun code' h => nomatch h⟩
    | some notice =>
      simp only [hnotice]
      refine ⟨trivial, trivial, fun code' h => ?_⟩
      exact Or.inr ⟨(Except.ok.inj h).symm, e, rfl, fun hnone => nomatch hnotice.symm.trans hnone⟩

/-- A call does nothing and ends without the other exit codes, or it gets to its work. -/
theorem carryOut_cases (readers : Readers) (trees : TreeSource) (env : Environment)
    (options : Options) (s : FileStore) :
    ((carryOut readers trees env options s).store = s ∧
        (carryOut readers trees env options s).journal = [] ∧
        ∀ code, (carryOut readers trees env options s).code = .ok code → code = exitFatal) ∨
      ∃ settings threshold early, Effective readers s env options settings ∧
        carryOut readers trees env options s =
          conclude threshold early (options.work trees settings s) := by
  unfold carryOut
  cases hdefined : (readers.definitions s env).result with
  | error e =>
    simp only [hdefined]
    exact Or.inl ⟨trivial, trivial, fun code h => nomatch h⟩
  | ok env' =>
    cases hloaded : (options.settings readers.settings s env').result with
    | error e =>
      simp only [hdefined, hloaded]
      by_cases hrefusal : isRefusal e = true
      · rw [if_pos hrefusal]
        exact Or.inl ⟨rfl, rfl, fun code h => (Except.ok.inj h).symm⟩
      · rw [if_neg hrefusal]
        exact Or.inl ⟨rfl, rfl, fun code h => nomatch h⟩
    | ok settings =>
      cases hthreshold : Threshold.ofValue (settings .logLevel) with
      | error e =>
        simp only [hdefined, hloaded, hthreshold]
        exact Or.inl ⟨trivial, trivial, fun code h => nomatch h⟩
      | ok threshold =>
        simp only [hdefined, hloaded, hthreshold]
        exact Or.inr ⟨settings, threshold, _, ⟨env', hdefined, hloaded⟩, rfl⟩

/-! ## What the exit codes say -/

/-- **A call that is not to change anything** does nothing: it lists a tree, it is a dry run by what
is asked for or by the settings, or there is no module. -/
theorem carryOut_untouched
    (h : options.dumpTree = true ∨ options.dryRun = true ∨
      (∀ settings, Effective readers s env options settings → settings.toConfig.dryRun = true) ∨
      ∀ source, ModuleFile.resolve s (.ofString options.path) ≠ .ok source) :
    (carryOut readers trees env options s).store = s ∧
      (carryOut readers trees env options s).journal = [] := by
  rcases carryOut_cases readers trees env options s with
    ⟨hstore, hjournal, -⟩ | ⟨settings, threshold, early, hsettings, hrun⟩
  · exact ⟨hstore, hjournal⟩
  · obtain ⟨hstore, hjournal, -⟩ := conclude_run threshold early (options.work trees settings s)
    rw [hrun, hstore, hjournal]
    cases hdump : options.dumpTree with
    | true =>
      obtain ⟨hstore, hjournal, -⟩ := work_of_dumpTree trees settings s hdump
      exact ⟨hstore, hjournal⟩
    | false =>
      rw [work_of_not_dumpTree hdump]
      obtain ⟨hstore, hjournal, -⟩ :=
        splitting_run trees settings.toConfig (.ofString options.path) s
      rw [hstore, hjournal]
      rcases h with hlists | hasked | hdry | hnone
      · exact nomatch hdump.symm.trans hlists
      · obtain ⟨env', -, hloaded⟩ := hsettings
        exact Split.split_of_dryRun (Options.settings_dryRun hasked hloaded)
      · exact Split.split_of_dryRun (hdry settings hsettings)
      · exact Split.split_of_unresolved hnone

/-- A call that ends with another code than the one for failures has come to the end of its work. -/
theorem carryOut_code {code : Nat} (hcode : code ≠ exitFatal)
    (h : (carryOut readers trees env options s).code = .ok code) :
    ∃ settings, Effective readers s env options settings ∧
      (carryOut readers trees env options s).store = (options.work trees settings s).store ∧
      (carryOut readers trees env options s).journal =
        (options.work trees settings s).journal ∧
      ∃ text, (options.work trees settings s).result = .ok (text, code) := by
  rcases carryOut_cases readers trees env options s with
    ⟨-, -, hfatal⟩ | ⟨settings, threshold, early, hsettings, hrun⟩
  · exact absurd (hfatal code h) hcode
  · obtain ⟨hstore, hjournal, hends⟩ :=
      conclude_run threshold early (options.work trees settings s)
    rw [hrun] at h ⊢
    rcases hends code h with hresult | ⟨hfatal, -⟩
    · exact ⟨settings, hsettings, hstore, hjournal, hresult⟩
    · exact absurd hfatal hcode

/-- The exit code of a split is the mark of its report. -/
theorem splitting_code {config : Config} {path : Path} {text : String} {code : Nat}
    (h : (splitting trees config path s).result = .ok (text, code)) :
    ∃ report, (split trees config path s).result = .ok report ∧
      code = if report.blocked then exitBlocked else exitDone := by
  obtain ⟨-, -, ⟨e, -, hresult⟩ | ⟨report, hreport, hresult | ⟨text', hresult⟩⟩⟩ :=
    splitting_run trees config path s
  · exact nomatch h.symm.trans hresult
  · exact nomatch h.symm.trans hresult
  · exact ⟨report, hreport, (Prod.mk.inj (Except.ok.inj (h.symm.trans hresult))).2⟩

/-- **Code 1.** Nothing was done, because a callable that was located is skipped. -/
theorem carryOut_blocked (h : (carryOut readers trees env options s).code = .ok exitBlocked) :
    ((carryOut readers trees env options s).store = s ∧
        (carryOut readers trees env options s).journal = []) ∧
      ∃ (settings : Settings) (v : Survey) (outcomes : List Outcome),
        Effective readers s env options settings ∧ v.Found trees s (.ofString options.path) ∧
        v.Planned settings.toConfig s outcomes ∧ ∃ o ∈ outcomes, o.isSkip = true := by
  obtain ⟨settings, hsettings, hstore, hjournal, text, hresult⟩ := carryOut_code (by decide) h
  rw [hstore, hjournal]
  cases hdump : options.dumpTree with
  | true =>
    obtain ⟨-, -, hcode⟩ := work_of_dumpTree trees settings s hdump
    exact absurd (hcode text exitBlocked hresult) (by decide)
  | false =>
    rw [work_of_not_dumpTree hdump] at hresult ⊢
    obtain ⟨hstore, hjournal, -⟩ :=
      splitting_run trees settings.toConfig (.ofString options.path) s
    obtain ⟨report, hreport, hcode⟩ := splitting_code hresult
    rw [hstore, hjournal]
    cases hblocked : report.blocked with
    | false =>
      rw [hblocked] at hcode
      exact absurd hcode (by decide)
    | true =>
      obtain ⟨huntouched, v, hv, hplanned, hskip⟩ := Split.split_of_blocked hreport hblocked
      exact ⟨huntouched, settings, v, report.outcomes, hsettings, hv, hplanned, hskip⟩

/-- **Code 0** of a split that is no dry run. No callable was located and nothing was done, or all
of them were extracted. -/
theorem carryOut_done (hdump : options.dumpTree = false)
    (h : (carryOut readers trees env options s).code = .ok exitDone) :
    ∃ settings, Effective readers s env options settings ∧ (settings.toConfig.dryRun = false →
      ∃ v : Survey, v.Found trees s (.ofString options.path) ∧
        ((v.callables = [] ∧ (carryOut readers trees env options s).store = s ∧
            (carryOut readers trees env options s).journal = []) ∨
          v.callables ≠ [] ∧ v.Extracted settings.toConfig s
            (carryOut readers trees env options s).store)) := by
  obtain ⟨settings, hsettings, hstore, hjournal, text, hresult⟩ := carryOut_code (by decide) h
  refine ⟨settings, hsettings, fun hreal => ?_⟩
  rw [hstore, hjournal]
  rw [work_of_not_dumpTree hdump] at hresult ⊢
  obtain ⟨hstore, hjournal, -⟩ := splitting_run trees settings.toConfig (.ofString options.path) s
  obtain ⟨report, hreport, hcode⟩ := splitting_code hresult
  rw [hstore, hjournal]
  cases hblocked : report.blocked with
  | true =>
    rw [hblocked] at hcode
    exact absurd hcode (by decide)
  | false => exact Split.split_of_free hreport hblocked hreal

/-- **Code 2.** The module is as it was, or it is torn and its backup holds its bytes. -/
theorem carryOut_fatal {source : Path} {raw : Bytes}
    (hsource : ModuleFile.resolve s (.ofString options.path) = .ok source)
    (hraw : s.read source.toString = .ok raw)
    (h : (carryOut readers trees env options s).code = .ok exitFatal) :
    (carryOut readers trees env options s).store.read source.toString = .ok raw ∨
      ∃ settings e, Effective readers s env options settings ∧
        TornModule settings.toConfig source raw s
          (carryOut readers trees env options s).store e := by
  rcases carryOut_cases readers trees env options s with
    ⟨hstore, -, -⟩ | ⟨settings, threshold, early, hsettings, hrun⟩
  · rw [hstore]
    exact Or.inl hraw
  · obtain ⟨hstore, -, hends⟩ := conclude_run threshold early (options.work trees settings s)
    rw [hrun] at h ⊢
    rw [hstore]
    cases hdump : options.dumpTree with
    | true =>
      obtain ⟨hkept, -, -⟩ := work_of_dumpTree trees settings s hdump
      rw [hkept]
      exact Or.inl hraw
    | false =>
      rw [work_of_not_dumpTree hdump] at hends h ⊢
      obtain ⟨hkept, -, ⟨e, hfailed, -⟩ | ⟨report, -, hresult | ⟨text, hresult⟩⟩⟩ :=
        splitting_run trees settings.toConfig (.ofString options.path) s
      · rw [hkept]
        exact (Split.module_kept hsource hraw hfailed).imp_right fun htorn =>
          ⟨settings, e, hsettings, htorn⟩
      · -- a report that is not printed ends the call without a code
        rcases hends exitFatal h with ⟨text', hended⟩ | ⟨-, e, hended, hhandled⟩
        · exact nomatch hended.symm.trans hresult
        · obtain rfl := Except.error.inj (hended.symm.trans hresult)
          exact absurd rfl hhandled
      · -- a split with a report has one of the other codes
        rcases hends exitFatal h with ⟨text', hended⟩ | ⟨-, e, hended, -⟩
        · have hcode := (Prod.mk.inj (Except.ok.inj (hended.symm.trans hresult))).2
          cases hblocked : report.blocked <;> rw [hblocked] at hcode <;>
            exact absurd hcode (by decide)
        · exact nomatch hended.symm.trans hresult

theorem run_of_run {arguments : List String} (h : Request.ofArguments arguments = .run options) :
    runWith readers trees env arguments s = carryOut readers trees env options s := by
  rw [runWith, h]

/-- A call is carried out, or it does nothing and ends at once. -/
theorem run_cases (readers : Readers) (trees : TreeSource) (env : Environment)
    (arguments : List String) (s : FileStore) :
    (∃ options, Request.ofArguments arguments = .run options ∧
        runWith readers trees env arguments s = carryOut readers trees env options s) ∨
      ((runWith readers trees env arguments s).store = s ∧
          (runWith readers trees env arguments s).journal = []) ∧
        ((runWith readers trees env arguments s).code = .ok exitDone ∨
          (runWith readers trees env arguments s).code = .ok exitFatal) := by
  cases hrequest : Request.ofArguments arguments with
  | run options => exact Or.inl ⟨options, rfl, run_of_run hrequest⟩
  | help =>
    rw [runWith, hrequest]
    exact Or.inr ⟨⟨rfl, rfl⟩, Or.inl rfl⟩
  | misuse mistake =>
    rw [runWith, hrequest]
    exact Or.inr ⟨⟨rfl, rfl⟩, Or.inr rfl⟩

/-- A call with one of the options that change nothing among its arguments does nothing. -/
theorem run_untouched {arguments : List String}
    (h : "--dry-run" ∈ arguments ∨ "--dump-ast" ∈ arguments) :
    (runWith readers trees env arguments s).store = s ∧
      (runWith readers trees env arguments s).journal = [] := by
  rcases run_cases readers trees env arguments s with ⟨options, hrequest, hrun⟩ | ⟨huntouched, -⟩
  · rw [hrun]
    apply carryOut_untouched
    -- the spelling of an option does not name a module
    have hnone : ∀ spelling, Text.lower (Path.ofString spelling).suffix ≠ ModuleFile.moduleSuffix →
        options.path = spelling →
        ∀ source, ModuleFile.resolve s (.ofString options.path) ≠ .ok source := by
      rintro spelling hsuffix rfl source hsource
      exact hsuffix ((ModuleFile.resolve_found hsource).1)
    rcases h with hmem | hmem
    · have hgiven : options.asks .dryRun = true ∨ options.path = "--dry-run" :=
        asks_or_path rfl (by decide) rfl (by decide) hrequest hmem
      rcases hgiven with hdry | hpath
      · exact Or.inr (Or.inl hdry)
      · exact Or.inr (Or.inr (Or.inr (hnone _ (by decide +kernel) hpath)))
    · have hgiven : options.asks .dumpTree = true ∨ options.path = "--dump-ast" :=
        asks_or_path rfl (by decide) rfl (by decide) hrequest hmem
      rcases hgiven with hdump | hpath
      · exact Or.inl hdump
      · exact Or.inr (Or.inr (Or.inr (hnone _ (by decide +kernel) hpath)))
  · exact huntouched

/-- **A call that tells the truth** by its exit code and by its options. -/
structure Truthful (readers : Readers) (trees : TreeSource) (env : Environment)
    (arguments : List String) (s : FileStore) (ended : Ended) : Prop where
  /-- A call with a dry run or a listing among its arguments changes nothing, however it ends. -/
  spelled : "--dry-run" ∈ arguments ∨ "--dump-ast" ∈ arguments →
    ended.store = s ∧ ended.journal = []
  /-- So does one that asks for them in another spelling, one that is a dry run by its settings, and
  one that is not carried out at all. -/
  asked : (∀ options, Request.ofArguments arguments = .run options →
      options.dumpTree = true ∨ options.dryRun = true ∨
        ∀ settings, Effective readers s env options settings → settings.toConfig.dryRun = true) →
    ended.store = s ∧ ended.journal = []
  /-- Code 1: nothing is changed, and a callable that was located is skipped. -/
  blocked : ended.code = .ok 1 → (ended.store = s ∧ ended.journal = []) ∧
    ∃ (options : Options) (settings : Settings) (v : Survey) (outcomes : List Outcome),
      Request.ofArguments arguments = .run options ∧ Effective readers s env options settings ∧
      v.Found trees s (.ofString options.path) ∧ v.Planned settings.toConfig s outcomes ∧
      ∃ o ∈ outcomes, o.isSkip = true
  /-- Code 0 without a listing or a dry run: there was nothing to do, or everything is done. -/
  done : ended.code = .ok 0 → ∀ options, Request.ofArguments arguments = .run options →
    options.dumpTree = false → ∃ settings, Effective readers s env options settings ∧
      (settings.toConfig.dryRun = false →
        ∃ v : Survey, v.Found trees s (.ofString options.path) ∧
          ((v.callables = [] ∧ ended.store = s ∧ ended.journal = []) ∨
            v.callables ≠ [] ∧ v.Extracted settings.toConfig s ended.store))
  /-- Code 2: the module is as it was. The one exception is a mishap that broke its overwriting off;
  then the backup holds what the module held. -/
  fatal : ended.code = .ok 2 → ∀ options source raw,
    Request.ofArguments arguments = .run options →
    ModuleFile.resolve s (.ofString options.path) = .ok source →
    s.read source.toString = .ok raw → ended.store.read source.toString = .ok raw ∨
      ∃ settings e, Effective readers s env options settings ∧
        TornModule settings.toConfig source raw s ended.store e

end CommandLine

/-- The small module; no space is left when it is overwritten. -/
def Sample.full : FileStore :=
  { Sample.store with conditions :=
    { mishaps := [("/M.psm1", { trouble := Race.noSpace, arrived := some 2 })] } }

/-- Without files that configure it, a call that splits the small module is no dry run. -/
theorem Sample.dryRun_effective {settings : Settings}
    (h : CommandLine.Effective .standard Sample.store [] { path := "/M.psm1" } settings) :
    settings.toConfig.dryRun = false := by
  obtain ⟨env, hdefined, hloaded⟩ := h
  have hnone : (CommandLine.Readers.standard.definitions Sample.store []).result = .ok [] := by
    decide +kernel
  obtain rfl := Except.ok.inj (hnone.symm.trans hdefined)
  obtain ⟨defaults, haccepted, hdry⟩ : ∃ defaults : Settings,
      (CommandLine.Options.settings { path := "/M.psm1" }
        CommandLine.Readers.standard.settings Sample.store []).result = .ok defaults ∧
        defaults.toConfig.dryRun = false := ⟨_, rfl, rfl⟩
  rw [← Except.ok.inj (haccepted.symm.trans hloaded)]
  exact hdry

end Unbundle
