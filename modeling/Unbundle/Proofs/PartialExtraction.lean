import Unbundle.Proofs.CrashSafety
import Unbundle.Proofs.PlannedFiles

/-!
# Extractions that stop half-way

The files of a plan without skips have different names in one directory (`Plan.path_of_mem`,
`Plan.names_differ`). Writing them may stop at any of them, since the store need not be the one
that the plan was made for. The files before that one are then written completely, of that one there
may be a beginning, and at the paths after it nothing is new (`Extraction.Added.old`): another file
of the plan has another name, and a directory that was made on the way is above these paths, unless
the way goes up again.
-/

namespace Unbundle

open FileStore (Leads)

/-! ## The files of a plan -/

theorem Path.Normal.child {directory : Path} {name : String} (h : directory.Normal)
    (hname : IsName name) : (directory.child name).Normal := by
  intro part hpart
  rcases List.mem_append.mp hpart with hpart | hpart
  · exact h part hpart
  · rw [List.mem_singleton.mp hpart]
    exact hname

namespace Plan

variable {plan : Plan} {callables : List Callable} {directory : Path} {extension : String}
  {present : Path → Bool}

/-- The paths that a plan is about, in its order. -/
def paths (plan : Plan) : List Path := plan.outcomes.map (·.path.getD {})

/-- The files of a plan without skips have names in its directory. -/
theorem path_of_mem (hplan : plan = make callables directory extension present)
    (hskip : plan.anySkip = false) (hext : '/' ∉ extension.toList) {o : Outcome}
    (ho : o ∈ plan.outcomes) :
    o.path.getD {} = directory.child (o.callable.stem ++ extension) ∧
      Path.IsName (o.callable.stem ++ extension) ∧ o.callable.stem ++ extension ≠ ".." := by
  subst hplan
  obtain ⟨hstem, heq⟩ := eq_write_of_mem hskip ho
  refine ⟨?_, Callable.isName_append hstem hext⟩
  rw [heq]
  exact Callable.target_eq directory hstem hext

/-- Outcomes in different places of a plan without skips are for files with different names. -/
theorem names_differ (hplan : plan = make callables directory extension present)
    (hskip : plan.anySkip = false) {before after : List Outcome}
    (h : plan.outcomes = before ++ after) {o o' : Outcome} (ho : o ∈ before) (ho' : o' ∈ after) :
    o.callable.stem ++ extension ≠ o'.callable.stem ++ extension := by
  subst hplan
  have hapart : (before ++ after).Pairwise fun o o' => o.isSkip = false → o'.isSkip = false →
      o.callable.claim ≠ o'.callable.claim := by
    rw [← h]
    exact planFrom_apart []
  have hwritten : ∀ o ∈ before ++ after, o.isSkip = false := by
    intro o ho
    exact isSkip_of_mem hskip (h ▸ ho)
  intro heq
  refine (List.pairwise_append.mp hapart).2.2 o ho o' ho'
    (hwritten o (List.mem_append_left _ ho)) (hwritten o' (List.mem_append_right _ ho')) ?_
  rw [Callable.claim, Callable.claim, (String.append_left_inj extension).mp heq]

end Plan

/-! ## What is found at a path that was not written -/

/-- The way to a name in a directory goes through the directory. -/
theorem FileStore.leads_of_child {s : FileStore} {directory : Path} {name : String}
    {l : Location} {e : Entry} (hnormal : directory.Normal) (hname : Path.IsName name)
    (hdots : name ≠ "..") (h : s.spot false (directory.child name).toString = .ok (.found l e)) :
    ∃ d, l = d ++ [name] ∧
      Leads s true maxLinks (s.startAt directory.root) directory.parts (.found d .directory) := by
  have hlead := leads_of_spot (hnormal.child hname) (by simp [Path.child]) h
  obtain ⟨d, hd, ⟨e', hend⟩ | hend⟩ := hlead.of_snoc hname.ne_empty hname.ne_dot hdots
  · cases hend
    exact ⟨d, rfl, hd⟩
  · cases hend

namespace Extraction

variable {planned : List Path} {directory : Path} {s t : FileStore} {placed : List Placement}

/-- Below a directory that was made on the way there are no links. -/
theorem Added.no_link (h : Added planned s t placed) (hrooted : s.Rooted) {l : Location}
    (hfree : s.get? l = none) (below : List String) (target : String) :
    t.get? (l ++ below) ≠ some (.link target) := by
  intro hlink
  have hnew := hrooted.get?_below below hfree
  by_cases hplaced : l ++ below ∈ placed.map (·.location)
  · obtain ⟨p, hmem, hp⟩ := List.mem_map.mp hplaced
    obtain ⟨-, hspot⟩ := h.files p hmem
    have hfile := FileStore.get?_of_spot hspot
    rw [show p.location = l ++ below from hp, hlink] at hfile
    exact nomatch hfile
  · exact nomatch (h.others _ _ hlink hnew hplaced).1

/-- A directory that was made on the way is above the one that the way leads to, unless the way
goes up again. -/
theorem Added.above (h : Added planned s t placed) (hrooted : s.Rooted)
    (hnormal : directory.Normal) (hdots : ".." ∉ directory.parts) {q : Path} {l d : Location}
    (hq : q.Leading directory) (hfree : s.get? l = none)
    (hmade : t.stat q.toString = .ok (l, .directory))
    (hd : Leads t true FileStore.maxLinks (t.startAt directory.root) directory.parts
      (.found d .directory)) : l <+: d := by
  obtain ⟨hroot, rest, hrest⟩ := hq
  have hlead := FileStore.leads_of_stat (p := q)
    (fun name hname => hnormal name (hrest ▸ List.mem_append_left _ hname)) hmade
  rw [hroot] at hlead
  rw [← hrest] at hd
  by_cases hne : rest = []
  · -- the directory that was made is the one of the files itself
    rw [hne, List.append_nil] at hd
    cases (FileStore.walk_of_leads hlead).symm.trans (FileStore.walk_of_leads hd)
    exact List.prefix_refl _
  · obtain ⟨fewer, hmore⟩ := hlead.append hne hd
    have hnames : ∀ name ∈ rest, name ≠ "" ∧ name ≠ "." ∧ name ≠ ".." := by
      intro name hname
      have hmem : name ∈ directory.parts := hrest ▸ List.mem_append_right _ hname
      have hpart := hnormal name hmem
      exact ⟨hpart.ne_empty, hpart.ne_dot, fun hup => hdots (hup ▸ hmem)⟩
    exact ⟨rest, (hmore.straight hnames (h.no_link hrooted hfree)).symm⟩

/-- **Nothing new at other paths.** In the directory of the files, what is found under a name that
no file was created for was there before. Only a directory may be new there, and only if the way to
the directory of the files goes up. -/
theorem Added.old (h : Added planned s t placed) (hrooted : s.Rooted)
    (hnormal : directory.Normal) (hplanned : ∀ p ∈ planned, p.parent = directory)
    {name : String} (hname : Path.IsName name) (hdots : name ≠ "..")
    (hplaced : ∀ p ∈ placed, ∃ other, other ≠ name ∧ Path.IsName other ∧
      other ≠ ".." ∧ p.outcome.path.getD {} = directory.child other)
    {l : Location} {e : Entry}
    (hfound : t.spot false (directory.child name).toString = .ok (.found l e)) :
    s.get? l = some e ∨ e = .directory ∧ ".." ∈ directory.parts := by
  obtain ⟨d, rfl, hd⟩ := FileStore.leads_of_child hnormal hname hdots hfound
  have hget := FileStore.get?_of_spot hfound
  cases hbefore : s.get? (d ++ [name]) with
  | some e' => exact Or.inl ((h.kept.kept _ e' hbefore).symm.trans hget)
  | none =>
    refine Or.inr ?_
    by_cases hfile : d ++ [name] ∈ placed.map (·.location)
    · -- a file that was created has another name in the same directory
      obtain ⟨p, hmem, hp⟩ := List.mem_map.mp hfile
      obtain ⟨other, hne, hother, hdots', hpath⟩ := hplaced p hmem
      obtain ⟨-, hspot⟩ := h.files p hmem
      rw [hpath] at hspot
      obtain ⟨d', hd', -⟩ := FileStore.leads_of_child hnormal hother hdots' hspot
      have hlast : d' ++ [other] = d ++ [name] := hd'.symm.trans hp
      exact absurd (List.append_inj_right' hlast rfl) (by simpa using hne)
    · -- a directory that was made has a shorter location than what stands in it
      obtain ⟨rfl, p, hp, q, hq, hmade⟩ := h.others _ e hget hbefore hfile
      rw [hplanned p hp] at hq
      refine ⟨rfl, Classical.byContradiction fun hup => ?_⟩
      have habove := h.above hrooted hnormal hup hq hbefore hmade hd
      exact absurd habove.length_le (by simp)

/-- What a store is like at a path that was planned and not written: what stood there still does,
and nothing that stands there is new but a directory, if the way to it goes up. The latter is said
of stores in which everything stands in a directory, and of extensions that stay in the
directory. -/
structure Unwritten (directory : Path) (extension : String) (s t : FileStore) (path : Path) :
    Prop where
  kept : ∀ l e, s.spot false path.toString = .ok (.found l e) →
    t.spot false path.toString = .ok (.found l e)
  old : directory.Normal → '/' ∉ extension.toList → s.Rooted →
    ∀ l e, t.spot false path.toString = .ok (.found l e) →
      s.get? l = some e ∨ e = .directory ∧ ".." ∈ directory.parts

/-- The paths of a plan for which no files were created are unwritten. -/
theorem Added.unwritten {plan : Plan} {callables : List Callable} {extension : String}
    {present : Path → Bool} (hplan : plan = Plan.make callables directory extension present)
    (hskip : plan.anySkip = false) {before after : List Outcome}
    (hsplit : plan.outcomes = before ++ after) (h : Added plan.paths s t placed)
    (hplaced : ∀ p ∈ placed, p.outcome ∈ before) {o : Outcome} (ho : o ∈ after) :
    Unwritten directory extension s t (o.path.getD {}) := by
  refine ⟨fun l e => FileStore.spot_extends h.kept, fun hnormal hext hrooted l e hfound => ?_⟩
  obtain ⟨hpath, hname, hdots⟩ :=
    Plan.path_of_mem hplan hskip hext (hsplit ▸ List.mem_append_right _ ho)
  rw [hpath] at hfound
  refine h.old hrooted hnormal (fun p hp => ?_) hname hdots (fun p hp => ?_) hfound
  · obtain ⟨o', ho', rfl⟩ := List.mem_map.mp hp
    rw [(Plan.path_of_mem hplan hskip hext ho').1, Path.parent_child]
  · have hbefore := hplaced p hp
    obtain ⟨hpath', hname', hdots'⟩ :=
      Plan.path_of_mem hplan hskip hext (hsplit ▸ List.mem_append_left _ hbefore)
    exact ⟨_, Plan.names_differ hplan hskip hsplit hbefore ho, hname', hdots', hpath'⟩

/-- What a store is like when the writing of a plan stopped with an error at `o`, after the outcomes
in `before`: the files before it are whole, of its own there may be a beginning, and besides them
nothing is new but directories. The other paths are unwritten. -/
structure Stopped (bom : Bool) (plan : Plan) (directory : Path) (extension : String)
    (s t : FileStore) (before : List Outcome) (o : Outcome) (rest : List Outcome) (e : Error) :
    Prop where
  order : plan.outcomes = before ++ o :: rest
  hindered : ModuleFile.Hinders s (o.path.getD {}) e
  files : ∃ whole torn, Added plan.paths s t (whole ++ torn.toList) ∧
    before = whole.map (·.outcome) ∧ (∀ p ∈ whole, p.Whole bom) ∧ (∀ p ∈ torn, p.Torn bom o e) ∧
    (torn = none → Unwritten directory extension s t (o.path.getD {}))
  unwritten : ∀ o' ∈ rest, Unwritten directory extension s t (o'.path.getD {})

end Extraction

/-- **An extraction that fails leaves a beginning of its files.** Whatever the store is by the time
the files of a plan are written, either all of them are created with their full content, and their
paths are given back in the order of the plan, or the writing stops at one of them. The files before
it are then created with their full content, it may be there with a beginning of its own, the paths
after it are unwritten, and besides these files nothing is new but directories. A split that fails
leaves the module as it was, unless a mishap tore it when it was overwritten; then its backup holds
its bytes. -/
theorem extraction_leaves_beginning {plan : Plan} {callables : List Callable} {directory : Path}
    {extension : String} {present : Path → Bool}
    (hplan : plan = Plan.make callables directory extension present)
    (hskip : plan.anySkip = false) (bom : Bool) :
    (∀ s,
      ((Extraction.write plan bom s).result = .ok plan.paths ∧
        ∃ placed, Extraction.Added plan.paths s (Extraction.write plan bom s).store placed ∧
          plan.outcomes = placed.map (·.outcome) ∧ ∀ p ∈ placed, p.Whole bom) ∨
      ∃ before o rest e, (Extraction.write plan bom s).result = .error e ∧
        Extraction.Stopped bom plan directory extension s (Extraction.write plan bom s).store
          before o rest e) ∧
      ∀ trees config path s source raw e, ModuleFile.resolve s path = .ok source →
        s.read source.toString = .ok raw → (split trees config path s).result = .error e →
        (split trees config path s).store.read source.toString = .ok raw ∨
          TornModule config source raw s (split trees config path s).store e := by
  refine ⟨fun s => ?_, fun trees config path s source raw e => Split.module_kept⟩
  rw [Extraction.write_eq bom hskip]
  obtain ⟨whole, torn, hadded, hwhole, ⟨hok, hall, hnone⟩ |
    ⟨e, o, rest, hresult, horder, hhindered, htorn⟩⟩ :=
    Extraction.writeAll_run bom plan.paths s fun o ho => List.mem_map_of_mem ho
  · rw [hnone, Option.toList_none, List.append_nil] at hadded
    exact Or.inl ⟨hok, whole, hadded, hall, hwhole⟩
  · have hbefore : ∀ p ∈ whole, p.outcome ∈ whole.map (·.outcome) :=
      fun p hp => List.mem_map_of_mem hp
    refine Or.inr ⟨_, o, rest, e, hresult, horder, hhindered,
      ⟨whole, torn, hadded, rfl, hwhole, htorn, fun hnone => ?_⟩, fun o' ho' => ?_⟩
    · rw [hnone, Option.toList_none, List.append_nil] at hadded
      exact hadded.unwritten hplan hskip horder hbefore (List.mem_cons_self ..)
    · -- the file that was broken off is for an outcome before the others
      have horder' : plan.outcomes = (whole.map (·.outcome) ++ [o]) ++ rest := by
        rw [horder, List.append_assoc]
        rfl
      refine hadded.unwritten hplan hskip horder' (fun p hp => ?_) ho'
      rcases List.mem_append.mp hp with hp | hp
      · exact List.mem_append_left _ (hbefore p hp)
      · rw [(htorn p (Option.mem_toList.mp hp)).outcome]
        exact List.mem_append_right _ (List.mem_singleton_self o)

/-! ## A file that came in between

Three functions are planned for an empty directory. By the time they are written, the second file is
there, or there is no space left for it. -/

namespace Race

def callables : List Callable :=
  [{ name := "A", text := "function A \x7b\x7d" },
    { name := "B", text := "function B \x7b\x7d" },
    { name := "C", text := "function C \x7b\x7d" }]

def directory : Path := .ofString "Public"

def plan : Plan := Plan.make callables directory ".ps1" fun _ => false

def store : FileStore :=
  { entries := [(["Public"], .directory), (["Public", "B.ps1"], .file [35])] }

/-- No space is left. -/
def noSpace : Trouble where
  code := 28
  words := "No space left on device"
  named := false

/-- Four bytes of the second file find space. -/
def full : FileStore where
  entries := [(["Public"], .directory)]
  conditions := { mishaps := [("Public/B.ps1", { trouble := noSpace, arrived := some 4 })] }

/-- The small module, with a file in the place of the directory. -/
def blocked : FileStore :=
  { entries := [(["Public"], .file []), (["M.psm1"], .file Sample.raw)] }

end Race

theorem extraction_leaves_beginning_race :
    (∀ s ∈ [Race.store, Race.full], ∃ before o rest fault,
      (Extraction.write Race.plan true s).result = .error (.write (o.path.getD {}) fault) ∧
      Extraction.Stopped true Race.plan Race.directory ".ps1" s
        (Extraction.write Race.plan true s).store before o rest (.write (o.path.getD {}) fault) ∧
      ∀ o' ∈ rest, ∀ l e, (Extraction.write Race.plan true s).store.spot false
        (o'.path.getD {}).toString = .ok (.found l e) → s.get? l = some e) ∧
      ((Extraction.write Race.plan true Race.full).store.read "Public/B.ps1").toOption =
        some [0xef, 0xbb, 0xbf, 0x66] ∧
      (∃ e, (split Sample.trees {} Sample.path Race.blocked).result = .error e) ∧
      (split Sample.trees {} Sample.path Race.blocked).store.read Sample.path.toString =
        .ok Sample.raw := by
  have hskip : Race.plan.anySkip = false := by decide +kernel
  obtain ⟨hrun, hmodule⟩ := extraction_leaves_beginning (show Race.plan = _ from rfl) hskip true
  refine ⟨fun s hs => ?_, by decide +kernel, ?_⟩
  · have hfails : ∀ s ∈ [Race.store, Race.full], s.conditions.maxMissing = 990 ∧
        (∀ x ∈ s.entries, s.get? x.1.dropLast = some .directory) ∧
        (Extraction.write Race.plan true s).result.toOption = none := by decide +kernel
    obtain ⟨hmax, hentries, hfails⟩ := hfails s hs
    rcases hrun s with ⟨hok, -⟩ | ⟨before, o, rest, e, hresult, hstopped⟩
    · exact nomatch hfails.symm.trans (congrArg Except.toOption hok)
    · have hpaths : ∀ o ∈ Race.plan.outcomes,
          FileStore.acceptable (o.path.getD {}).toString = true ∧
            (o.path.getD {}).parent.parts.length ≤ 990 := by decide +kernel
      obtain ⟨hpath, hshallow⟩ := hpaths o (hstopped.order ▸ by simp)
      cases hstopped.hindered with
      | fault fault =>
        refine ⟨before, o, rest, fault, hresult, hstopped, fun o' ho' l e hfound => ?_⟩
        refine ((hstopped.unwritten o' ho').old (Path.normal_ofString _) (by decide)
          (FileStore.rooted_of_entries hentries) l e hfound).resolve_right fun hup => ?_
        exact absurd hup.2 (by decide)
      | tooDeep h => exact absurd (hmax ▸ h) (Nat.not_lt.mpr hshallow)
      | refused h => exact nomatch hpath.symm.trans h
  · have hfails : (split Sample.trees {} Sample.path Race.blocked).result.toOption = none := by
      decide +kernel
    cases hresult : (split Sample.trees {} Sample.path Race.blocked).result with
    | ok report => rw [hresult] at hfails; exact nomatch hfails
    | error e =>
      refine ⟨⟨e, rfl⟩, (hmodule Sample.trees {} Sample.path Race.blocked Sample.path Sample.raw e
        (eq_ok_of_toOption (by decide +kernel)) (eq_ok_of_toOption (by decide +kernel))
        hresult).resolve_right fun htorn => ?_⟩
      obtain ⟨mishap, n, hmishap, -⟩ := htorn.mishap
      exact nomatch hmishap

namespace Stray

/-- The way to the directory goes up from another one, which has the name of a file. -/
def upward : Plan := Plan.make [{ name := "A" }] (.ofString "A.ps1/..") ".ps1" fun _ => false

/-- The extension leads all files to one place. -/
def together : Plan :=
  Plan.make [{ name := "A" }, { name := "B" }] (.ofString "Public") "/../x.ps1" fun _ => false

end Stray

/-- The path at which the writing stops may lead to something new after all: to a directory that was
made on the way, or to the file that was written before. -/
theorem stopped_path_is_new :
    (Stray.upward.anySkip = false ∧
      (Extraction.write Stray.upward false {}).result.toOption = none ∧
      ({} : FileStore).get? ["A.ps1"] = none ∧
      Stray.upward.paths.map Path.toString = ["A.ps1/../A.ps1"] ∧
      ((Extraction.write Stray.upward false {}).store.spot false "A.ps1/../A.ps1").toOption =
        some (.found ["A.ps1"] .directory)) ∧
    (Stray.together.anySkip = false ∧
      (Extraction.write Stray.together false {}).result.toOption = none ∧
      ({} : FileStore).get? ["Public", "x.ps1"] = none ∧
      Stray.together.paths.map Path.toString = ["Public/A/../x.ps1", "Public/B/../x.ps1"] ∧
      ((Extraction.write Stray.together false {}).store.spot false "Public/B/../x.ps1").toOption =
        some (.found ["Public", "x.ps1"] (.file []))) := by
  decide +kernel

end Unbundle
