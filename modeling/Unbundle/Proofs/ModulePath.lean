import Unbundle.Proofs.Histories
import Unbundle.Proofs.Ways

/-!
# Which file a split overwrites

A way through a store ends at a place that is *plain*: directories lead down to it, no links, and
none of its names is a dot or has a slash in it (`Leads.plain`). So the path of a plain place leads
there and nowhere else (`Plain.leads`).

The module that a path names is the file at the end of the way, told by its plain path. The suffix
is read off the path as it was given. The two agree unless the path names a link, for then the name
of the link is tested and the file that it leads to is overwritten (`resolve_follows`,
`linked_notes_overwritten`).
-/

namespace Unbundle

namespace FileStore

variable {s : FileStore} {follow : Bool} {links : Nat} {here l m : Location}
  {names : List String} {name : String} {e e' : Entry}

/-! ## Plain places -/

/-- A place that its names lead to from the root without a link on the way. -/
structure Plain (s : FileStore) (l : Location) : Prop where
  directories : ∀ above, above <+: l → above ≠ l → s.get? above = some .directory
  names : ∀ name ∈ l, Proper name ∧ '/' ∉ name.toList

theorem plain_nil (s : FileStore) : s.Plain [] where
  directories := by
    intro above hstarts hne
    exact absurd (List.prefix_nil.mp hstarts) hne
  names := by
    intro name hname
    exact absurd hname List.not_mem_nil

/-- The place above a plain place is plain. -/
theorem Plain.up (h : s.Plain l) : s.Plain l.dropLast where
  directories := by
    intro above hstarts hne
    refine h.directories above (hstarts.trans (List.dropLast_prefix l)) ?_
    intro heq
    rw [heq] at hstarts hne
    exact hne (hstarts.eq_of_length_le (List.dropLast_prefix l).length_le)
  names := by
    intro name hname
    exact h.names name (List.dropLast_subset l hname)

/-- A place in a plain directory is plain, if its name is. -/
theorem Plain.down (h : s.Plain here) (hhere : s.get? here = some .directory)
    (hname : Proper name) (hslash : '/' ∉ name.toList) : s.Plain (here ++ [name]) where
  directories := by
    intro above hstarts hne
    rcases List.prefix_concat_iff.mp hstarts with heq | hstarts
    · exact absurd heq hne
    · by_cases heq : above = here
      · rw [heq]
        exact hhere
      · exact h.directories above hstarts heq
  names := by
    intro n hn
    rcases List.mem_append.mp hn with hn | hn
    · exact h.names n hn
    · rw [List.mem_singleton.mp hn]
      exact ⟨hname, hslash⟩

/-- The names in a path are what stands between its slashes. -/
theorem slash_not_mem_of_namesIn {cs : List Char} (h : name ∈ namesIn cs) :
    '/' ∉ name.toList := by
  have hfield : name ∈ ((Text.fields (· == '/') cs).filter (!·.isEmpty)).map String.ofList ∨
      name = "" := by
    unfold namesIn at h
    simp only at h
    split at h
    next =>
      rcases List.mem_append.mp h with h | h
      · exact Or.inl h
      · exact Or.inr (List.mem_singleton.mp h)
    next => exact Or.inl h
  rcases hfield with hfield | rfl
  · obtain ⟨w, hw, rfl⟩ := List.mem_map.mp hfield
    rw [String.toList_ofList]
    intro hslash
    exact (Text.mem_of_mem_fields (List.mem_filter.mp hw).1 _ hslash).2 rfl
  · decide

theorem linkStart_plain (h : s.Plain here) (target : String) :
    s.Plain (linkStart here target) := by
  unfold linkStart
  split
  next => exact plain_nil s
  next => exact h

/-- **A way ends at a plain place**, if it starts at one, however many links it follows. -/
theorem Leads.plain (h : Leads s follow links here names (.found l e)) (hhere : s.Plain here)
    (hnames : ∀ name ∈ names, '/' ∉ name.toList) : s.Plain l := by
  generalize hspot : Spot.found l e = spot at h
  induction h with
  | done =>
    cases hspot
    exact hhere
  | stay _ _ _ ih => exact ih hhere (fun n hn => hnames n (List.mem_cons_of_mem _ hn)) hspot
  | up _ _ ih => exact ih hhere.up (fun n hn => hnames n (List.mem_cons_of_mem _ hn)) hspot
  | vacant => cases hspot
  | link hdir hname _ _ =>
    cases hspot
    exact hhere.down hdir hname (hnames _ (List.mem_cons_self ..))
  | jump _ _ _ _ _ ih =>
    -- the way goes on along the names in the link
    refine ih (linkStart_plain hhere _) ?_ hspot
    intro n hn
    rcases List.mem_append.mp hn with hn | hn
    · exact slash_not_mem_of_namesIn hn
    · exact hnames n (List.mem_cons_of_mem _ hn)
  | down hdir hname _ _ _ ih =>
    exact ih (hhere.down hdir hname (hnames _ (List.mem_cons_self ..)))
      (fun n hn => hnames n (List.mem_cons_of_mem _ hn)) hspot

/-- A plain place is reached by going down from any place above it. -/
theorem Plain.leads_from {below : List String} (h : s.Plain (here ++ below))
    (hget : s.get? (here ++ below) = some e) (he : ∀ target, e ≠ .link target) :
    Leads s follow links here below (.found (here ++ below) e) := by
  induction below generalizing here with
  | nil =>
    rw [List.append_nil] at hget ⊢
    exact .done hget
  | cons name below ih =>
    have hsnoc : here ++ name :: below = (here ++ [name]) ++ below := List.append_cons ..
    have hhere : s.get? here = some .directory := by
      refine h.directories here (List.prefix_append ..) ?_
      intro heq
      have hlength := congrArg List.length heq
      simp at hlength
    have hname := (h.names name (by simp)).1
    rw [hsnoc] at h hget ⊢
    have hrest := ih h hget
    cases below with
    | nil =>
      rw [List.append_nil] at hget
      exact .down hhere hname hget he hrest
    | cons next below =>
      have hnext : s.get? (here ++ [name]) = some .directory := by
        refine h.directories _ (List.prefix_append ..) ?_
        intro heq
        have hlength := congrArg List.length heq
        simp at hlength
      exact .down hhere hname hnext (by simp) hrest

/-- Ways are unique. -/
theorem Leads.unique (h : Leads s follow links here names (.found l e))
    (h' : Leads s follow links here names (.found m e')) : m = l := by
  have hsame := (walk_of_leads h').symm.trans (walk_of_leads h)
  exact (Spot.found.inj (Except.ok.inj hsame)).1

/-- The path of a plain place leads there, if it leads anywhere. -/
theorem Plain.eq_of_stat (h : s.Plain l) (hget : s.get? l = some e)
    (he : ∀ target, e ≠ .link target)
    (hstat : s.stat (⟨.slash, l⟩ : Path).toString = .ok (m, e')) : m = l := by
  have hnormal : (⟨.slash, l⟩ : Path).Normal := by
    intro name hname
    obtain ⟨hproper, hslash⟩ := h.names name hname
    exact ⟨hproper.ne_empty, hproper.ne_dot, hslash⟩
  have hstraight : Leads s true maxLinks [] l (.found ([] ++ l) e) := Plain.leads_from h hget he
  exact hstraight.unique (leads_of_stat hnormal hstat)

/-! ## Links at the end of a way -/

/-- A way on which the last link is followed is also a way on which it is not. -/
theorem Leads.unfollowed (h : Leads s true links here names (.found l e)) :
    ∃ m e', Leads s false links here names (.found m e') := by
  generalize hspot : Spot.found l e = spot at h
  induction h with
  | done hhere => exact ⟨_, _, .done hhere⟩
  | stay hhere hname _ ih =>
    obtain ⟨m, e', hrest⟩ := ih hspot
    exact ⟨m, e', .stay hhere hname hrest⟩
  | up hhere _ ih =>
    obtain ⟨m, e', hrest⟩ := ih hspot
    exact ⟨m, e', .up hhere hrest⟩
  | vacant => cases hspot
  | link _ _ _ hfollow => cases hfollow
  | @jump _ here name rest target _ hhere hname hnext _ _ ih =>
    by_cases hlast : rest = []
    · rw [hlast]
      exact ⟨_, _, .link hhere hname hnext rfl⟩
    · obtain ⟨m, e', hrest⟩ := ih hspot
      exact ⟨m, e', .jump hhere hname hnext (fun hboth => hlast hboth.1) hrest⟩
  | down hhere hname hnext hentry _ ih =>
    obtain ⟨m, e', hrest⟩ := ih hspot
    exact ⟨m, e', .down hhere hname hnext hentry hrest⟩

/-- A path names a link, whatever the link leads to. -/
def NamesLink (s : FileStore) (path : Path) : Prop :=
  ∃ l target, s.spot false path.toString = .ok (.found l (.link target))

/-- What a path leads to has the last name of the path, unless the path names a link. -/
theorem getLast?_of_stat {path : Path} (hpath : path.Normal) (hlast : path.name ≠ "")
    (hdots : path.name ≠ "..") (h : s.stat path.toString = .ok (l, e)) :
    l.getLast? = some path.name ∨ s.NamesLink path := by
  obtain ⟨hfollowable, hleads⟩ := spot_eq_ok_iff.mp (stat_eq_ok_iff.mp h)
  obtain ⟨m, e', hunfollowed⟩ := hleads.unfollowed
  have hspot := spot_eq_ok_iff.mpr ⟨hfollowable, hunfollowed⟩
  by_cases hlink : ∃ target, e' = .link target
  · obtain ⟨target, rfl⟩ := hlink
    exact Or.inr ⟨m, target, hspot⟩
  · -- then the two ways end at one place
    have hstat := stat_of_spot (fun target heq => hlink ⟨target, heq⟩) hspot
    obtain ⟨rfl, -⟩ := Prod.mk.inj (Except.ok.inj (h.symm.trans hstat))
    have hparts : path.parts ≠ [] := by
      intro hnil
      rw [Path.name, hnil] at hlast
      exact hlast rfl
    have hsplit : path.parts = path.parts.dropLast ++ [path.name] := by
      rw [Path.name, List.getLast?_eq_some_getLast hparts]
      exact (List.dropLast_concat_getLast hparts).symm
    have hway := leads_of_spot hpath hparts hspot
    have hname := hpath path.name (by rw [hsplit]; simp)
    rw [hsplit] at hway
    obtain ⟨d, -, hend⟩ := hway.of_snoc hname.ne_empty hname.ne_dot hdots
    rcases hend with ⟨e'', hfound⟩ | hvacant
    · rw [(Spot.found.inj hfound).1, List.getLast?_concat]
      exact Or.inl rfl
    · cases hvacant

end FileStore

/-! ## The module of a split -/

namespace Path

/-- The path with a text added to its last name. -/
def beside (p : Path) (suffix : String) : Path :=
  { p with parts := p.parts.dropLast ++ [p.name ++ suffix] }

theorem suffix_congr {p q : Path} (h : p.name = q.name) : p.suffix = q.suffix := by
  unfold suffix
  rw [h]

end Path

namespace ModuleFile

variable {s : FileStore} {path p : Path}

/-- A module has the suffix of modules, unless its path names a link. -/
theorem suffix_of_resolve (hpath : path.Normal) (h : resolve s path = .ok p) :
    Text.lower p.suffix = moduleSuffix ∨ s.NamesLink path := by
  obtain ⟨hsuffix, l, content, hstat, rfl⟩ := resolve_found h
  have hplain : ∀ name, Text.lower (⟨.relative, [name]⟩ : Path).suffix ≠ moduleSuffix →
      path.name ≠ name := by
    intro name hother heq
    have hsame : path.suffix = (⟨.relative, [name]⟩ : Path).suffix := Path.suffix_congr heq
    rw [hsame] at hsuffix
    exact hother hsuffix
  rcases FileStore.getLast?_of_stat hpath (hplain "" (by decide)) (hplain ".." (by decide)) hstat
    with hlast | hlink
  · have hname : (⟨.slash, l⟩ : Path).name = path.name := by
      show l.getLast?.getD "" = path.name
      rw [hlast]
      rfl
    rw [Path.suffix_congr hname]
    exact Or.inl hsuffix
  · exact Or.inr hlink

/-- The module that a path names is told by the path of a plain place. -/
theorem plain_of_resolve (hhere : s.Plain s.workingDir) (hpath : path.Normal)
    (h : resolve s path = .ok p) : s.Plain p.parts := by
  obtain ⟨-, l, content, hstat, rfl⟩ := resolve_found h
  have hstart : s.Plain (s.startAt path.root) := by
    unfold FileStore.startAt
    split
    next => exact hhere
    next => exact FileStore.plain_nil s
  exact (FileStore.leads_of_stat hpath hstat).plain hstart fun name hname =>
    (hpath name hname).no_slash

end ModuleFile

theorem Split.backupFor_ok {p backup : Path} {config : Config}
    (h : Split.backupFor p config = .ok backup) :
    ∃ suffix, config.backupSuffix = .ok suffix ∧ backup = p.beside suffix := by
  obtain ⟨suffix, hsuffix, h⟩ := except_bind_ok h
  exact ⟨suffix, hsuffix, Path.withName_ok (mapError_eq_ok.mp h)⟩

namespace Call

variable {s : FileStore} {c : Call} {p : Path}

/-- The targets of a call are its module and the file that a copy to its backup goes to. -/
theorem mem_targets (hmodule : ModuleFile.resolve s c.path = .ok p) (hplain : s.Plain p.parts)
    {l : Location} (h : l ∈ c.targets s) :
    l = p.parts ∨ ∃ suffix, c.config.backupSuffix = .ok suffix ∧
      l ∈ s.places (Backup.destination s p (p.beside suffix)).1 := by
  obtain ⟨-, m, content, hstat, rfl⟩ := ModuleFile.resolve_found hmodule
  simp only [targets, hmodule] at h
  rcases List.mem_append.mp h with h | h
  · refine Or.inl ?_
    unfold FileStore.places at h
    split at h
    next k e hstat' =>
      rw [List.mem_singleton.mp h]
      exact hplain.eq_of_stat (FileStore.get?_of_stat hstat) (by simp) hstat'
    next => exact absurd h List.not_mem_nil
  · refine Or.inr ?_
    split at h
    next => exact absurd h List.not_mem_nil
    next backup hbackup =>
      obtain ⟨suffix, hsuffix, rfl⟩ := Split.backupFor_ok hbackup
      exact ⟨suffix, hsuffix, h⟩

/-- A file whose content does not stay throughout a call is one of its targets. -/
theorem mem_targets_of_changed {t : FileStore} {l : Location} {content : Bytes}
    (hbroken : Operation.Interrupted s (c.run s).journal t)
    (hget : s.get? l = some (.file content)) (hchanged : t.get? l ≠ some (.file content)) :
    l ∈ c.targets s := by
  by_cases htarget : l ∈ c.targets s
  · exact htarget
  · exact absurd (hbroken.keeps (spares htarget) hget) hchanged

end Call

/-- **Which file a split overwrites.** The module that a path names is an existing file, told by an
absolute path without links. What is tested for the suffix of modules is the path as it was given,
so that the file itself has this suffix unless the path names a link. A split that is carried out or
broken off gives new content to no other file than the module and the one that the copy to its
backup goes to, and the backup has the name of the module and the suffix for backups. -/
theorem resolve_follows {s : FileStore} (hhere : s.Plain s.workingDir) {text : String} {p : Path}
    (h : ModuleFile.resolve s (.ofString text) = .ok p) :
    p.root = .slash ∧ s.Plain p.parts ∧ (∃ content, s.get? p.parts = some (.file content)) ∧
      Text.lower (Path.ofString text).suffix = ModuleFile.moduleSuffix ∧
      (Text.lower p.suffix = ModuleFile.moduleSuffix ∨ s.NamesLink (.ofString text)) ∧
      ∀ trees config,
        (∀ t l content, Operation.Interrupted s (split trees config (.ofString text) s).journal t →
          s.get? l = some (.file content) → t.get? l ≠ some (.file content) →
          l = p.parts ∨ ∃ suffix, config.backupSuffix = .ok suffix ∧
            l ∈ s.places (Backup.destination s p (p.beside suffix)).1) ∧
        ∀ report, (split trees config (.ofString text) s).result = .ok report →
          report.replaced = true →
          report.module = p ∧ ∃ suffix, config.backupSuffix = .ok suffix ∧
            report.backup = some (p.beside suffix) := by
  have hpath := Path.normal_ofString text
  have hplain := ModuleFile.plain_of_resolve hhere hpath h
  obtain ⟨hsuffix, l₀, content₀, hstat, heq⟩ := ModuleFile.resolve_found h
  have hfile : s.get? p.parts = some (.file content₀) := by
    rw [heq]
    exact FileStore.get?_of_stat hstat
  refine ⟨by rw [heq], hplain, ⟨content₀, hfile⟩, hsuffix, ModuleFile.suffix_of_resolve hpath h, ?_⟩
  intro trees config
  refine ⟨?_, ?_⟩
  · intro t l content hbroken hget hchanged
    have hcall : Operation.Interrupted s
        ((⟨trees, config, .ofString text⟩ : Call).run s).journal t :=
      hbroken
    have hmodule : ModuleFile.resolve s (⟨trees, config, .ofString text⟩ : Call).path = .ok p := h
    have htarget := Call.mem_targets_of_changed hcall hget hchanged
    exact Call.mem_targets hmodule hplain htarget
  · intro report hresult hreplaced
    rcases Split.split_ok hresult with ⟨hidle, -⟩ | ⟨job, g, hg, hcommit, -⟩
    · rw [hidle] at hreplaced
      cases hreplaced
    · obtain ⟨written, -, -, -, rfl⟩ := Split.commit_ok hcommit
      obtain rfl := Except.ok.inj (hg.resolved.symm.trans h)
      obtain ⟨suffix, hsuffix, hbackup⟩ := Split.backupFor_ok hg.backup
      exact ⟨rfl, suffix, hsuffix, by rw [← hbackup]; exact hg.reportBackup⟩

/-! A module behind a link to its directory, and a link with the name of a module that leads to a
file with another name. -/

namespace Linked

def store : FileStore where
  workingDir := ["w"]
  entries := [(["w"], .directory), (["w", "d"], .link "../lib"), (["lib"], .directory),
    (["lib", "M.Psm1"], .file Sample.raw), (["w", "N.psm1"], .link "/notes.txt"),
    (["notes.txt"], .file Sample.raw)]

def module : Path := ⟨.slash, ["lib", "M.Psm1"]⟩

def notes : Path := ⟨.slash, ["notes.txt"]⟩

theorem plain_workingDir : store.Plain store.workingDir := by
  have hname : FileStore.Proper "w" := ⟨by decide, by decide, by decide, by decide⟩
  exact (FileStore.plain_nil store).down rfl hname (by decide)

end Linked

/-- The link is on the way and not at its end, so that the file has the suffix. -/
theorem resolve_follows_directory :
    Linked.store.Plain Linked.store.workingDir ∧
      ModuleFile.resolve Linked.store (.ofString "d/M.Psm1") = .ok Linked.module ∧
      Linked.store.Plain Linked.module.parts ∧
      (∃ content, Linked.store.get? Linked.module.parts = some (.file content)) ∧
      Text.lower Linked.module.suffix = ModuleFile.moduleSuffix ∧
      ∀ trees config report,
        (split trees config (.ofString "d/M.Psm1") Linked.store).result = .ok report →
        report.replaced = true →
        report.module = Linked.module ∧ ∃ suffix, config.backupSuffix = .ok suffix ∧
          report.backup = some (Linked.module.beside suffix) := by
  have hmodule : ModuleFile.resolve Linked.store (.ofString "d/M.Psm1") = .ok Linked.module :=
    eq_ok_of_toOption (by decide +kernel)
  obtain ⟨-, hplain, hfile, -, hsuffix, hruns⟩ := resolve_follows Linked.plain_workingDir hmodule
  have hnolink : ¬ Linked.store.NamesLink (.ofString "d/M.Psm1") := by
    intro hlink
    obtain ⟨l, target, hspot⟩ := hlink
    have hfound : Linked.store.spot false (Path.ofString "d/M.Psm1").toString =
        .ok (.found Linked.module.parts (.file Sample.raw)) := eq_ok_of_toOption (by decide +kernel)
    rw [hfound] at hspot
    cases hspot
  exact ⟨Linked.plain_workingDir, hmodule, hplain, hfile, hsuffix.resolve_right hnolink,
    fun trees config => (hruns trees config).2⟩

/-- The link has the suffix of modules and the file that it leads to has not, and the file is
overwritten. -/
theorem linked_notes_overwritten :
    Linked.store.Plain Linked.store.workingDir ∧
      ModuleFile.resolve Linked.store (.ofString "N.psm1") = .ok Linked.notes ∧
      Text.lower Linked.notes.suffix ≠ ModuleFile.moduleSuffix ∧
      ∃ report content,
        (split Sample.trees {} (.ofString "N.psm1") Linked.store).result = .ok report ∧
        report.module = Linked.notes ∧ report.replaced = true ∧
        .overwrite Linked.notes.toString content ∈
          (split Sample.trees {} (.ofString "N.psm1") Linked.store).journal := by
  have hmodule : ModuleFile.resolve Linked.store (.ofString "N.psm1") = .ok Linked.notes :=
    eq_ok_of_toOption (by decide +kernel)
  have hdone : (split Sample.trees {} (.ofString "N.psm1") Linked.store).result.toOption.any
      (fun r => r.module == Linked.notes && r.replaced) = true := by decide +kernel
  obtain ⟨report, hresult, hreport⟩ := exists_ok_of_any hdone
  obtain ⟨hnotes, hreplaced⟩ := Bool.and_eq_true_iff.mp hreport
  have hlast : (split Sample.trees {} (.ofString "N.psm1") Linked.store).journal.any (fun
      | .overwrite path _ => path == Linked.notes.toString
      | _ => false) = true := by decide +kernel
  obtain ⟨op, hop, hpath⟩ := List.any_eq_true.mp hlast
  refine ⟨Linked.plain_workingDir, hmodule, by decide, report, ?_⟩
  cases op with
  | makeDirectory path => cases hpath
  | create path content => cases hpath
  | overwrite path content =>
    obtain rfl : path = Linked.notes.toString := eq_of_beq hpath
    exact ⟨content, hresult, eq_of_beq hnotes, hreplaced, hop⟩

end Unbundle
