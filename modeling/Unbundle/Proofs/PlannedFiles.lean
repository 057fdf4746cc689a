import Unbundle.Proofs.Guard
import Unbundle.Proofs.Ways

/-!
# The files of a plan

The stem of a callable comes from a text that may hold anything. A stem that is not skipped makes,
with every extension that has no slash in it, a proper name (`Callable.isName_append`), so its file
is right in the directory of the plan (`Callable.target_eq`). Of two callables that are written the
later one has another name, case apart (`planFrom_apart`), and so another file
(`planned_files_contained`).
-/

namespace Unbundle

/-! ## Names in a directory -/

namespace Path

/-- The path of a name in a directory. -/
def child (directory : Path) (name : String) : Path :=
  { directory with parts := directory.parts ++ [name] }

theorem parent_child (directory : Path) (name : String) :
    (directory.child name).parent = directory := by
  simp [child, parent]

theorem IsName.rootOf {name : String} (h : IsName name) : rootOf name.toList = .relative := by
  have hslash := h.no_slash
  cases hname : name.toList with
  | nil => rfl
  | cons c rest =>
    have hc : c ≠ '/' := by
      rintro rfl
      rw [hname] at hslash
      exact hslash (List.mem_cons_self ..)
    simp [Path.rootOf, hc]

theorem IsName.partsOf {name : String} (h : IsName name) : partsOf name.toList = [name] := by
  have hfields : Text.fields (· == '/') name.toList = [name.toList] := by
    refine Text.fields_of_not_sep fun c hc heq => ?_
    rw [eq_of_beq heq] at hc
    exact h.no_slash hc
  unfold Path.partsOf
  rw [hfields, List.map_singleton, String.ofList_toList, List.filter_cons_of_pos, List.filter_nil]
  simp [h.ne_empty, h.ne_dot]

/-- A name read from a directory is the name in it. -/
theorem join_name (directory : Path) {name : String} (h : IsName name) :
    directory.join name = directory.child name := by
  unfold join ofString
  simp only [h.rootOf, h.partsOf]
  rfl

end Path

namespace Callable

/-- A valid stem makes a name with every extension that has no slash in it. -/
theorem isName_append {stem extension : String}
    (hstem : validStem stem = true) (hext : '/' ∉ extension.toList) :
    Path.IsName (stem ++ extension) ∧ stem ++ extension ≠ ".." := by
  simp only [validStem, Bool.and_eq_true, bne_iff_ne, ne_eq, Bool.not_eq_true'] at hstem
  obtain ⟨⟨⟨hempty, hdot⟩, hdots⟩, hbarred⟩ := hstem
  have hslash : '/' ∉ stem.toList := by
    intro hmem
    exact absurd hbarred (by simpa using ⟨'/', hmem, by decide⟩)
  -- the names to be avoided are the beginnings of `..`, and the stem is none of them
  have hshort : ¬ stem.toList <+: "..".toList := by
    intro hprefix
    rcases List.prefix_cons_iff.mp hprefix with h | ⟨rest, h, hrest⟩
    · exact hempty (String.toList_eq_nil_iff.mp h)
    · rcases List.prefix_cons_iff.mp hrest with rfl | ⟨rest', rfl, hrest'⟩
      · exact hdot (String.toList_injective h)
      · rw [List.prefix_nil.mp hrest'] at h
        exact hdots (String.toList_injective h)
  have hne : ∀ text : String, text.toList <+: "..".toList → stem ++ extension ≠ text := by
    rintro text htext rfl
    rw [String.toList_append] at htext
    exact hshort ((List.prefix_append ..).trans htext)
  refine ⟨⟨hne "" (by decide), hne "." (by decide), ?_⟩, hne ".." (by decide)⟩
  rw [String.toList_append, List.mem_append, not_or]
  exact ⟨hslash, hext⟩

/-- The file of a callable is in the directory, unless the extension leads out of it. -/
theorem target_eq {c : Callable} (directory : Path) {extension : String}
    (hstem : validStem c.stem = true) (hext : '/' ∉ extension.toList) :
    c.target directory extension = directory.child (c.stem ++ extension) :=
  Path.join_name directory (isName_append hstem hext).1

end Callable

/-! ## What is written where -/

/-- A path that stands right in a directory, under a name that leads nowhere else. -/
structure Path.IsChild (p directory : Path) (last : String) : Prop where
  parent : p.parent = directory
  name : p.name = last
  isName : IsName last
  ne_dots : last ≠ ".."

theorem Path.isChild_child {directory : Path} {name : String} (hname : IsName name)
    (hdots : name ≠ "..") : (directory.child name).IsChild directory name where
  parent := parent_child directory name
  name := by simp [Path.name, child]
  isName := hname
  ne_dots := hdots

/-- A callable that is written goes to a file right in the directory. -/
theorem Outcome.Written.isChild {directory : Path} {extension : String} {present : Path → Bool}
    {claimed : List String} {o : Outcome} (h : o.Written directory extension present claimed)
    (hext : '/' ∉ extension.toList) :
    o.path = some (directory.child (o.callable.stem ++ extension)) ∧
      (directory.child (o.callable.stem ++ extension)).IsChild directory
        (o.callable.stem ++ extension) := by
  obtain ⟨hname, hdots⟩ := Callable.isName_append h.stem hext
  refine ⟨?_, Path.isChild_child hname hdots⟩
  rw [← Callable.target_eq directory h.stem hext]
  exact congrArg Outcome.path h.eq

/-- **Planned files are contained and never collide.** With an extension that has no slash in it,
whatever the callables are called, each one that is written goes to a path right in the directory,
under its stem and the extension, at which nothing is. No two of them go to one path, and their
stems differ in more than case. -/
theorem planned_files_contained (callables : List Callable) (directory : Path) {extension : String}
    (present : Path → Bool) (hext : '/' ∉ extension.toList) :
    (∀ o ∈ (Plan.make callables directory extension present).writes,
      ∃ path, o.path = some path ∧ path.IsChild directory (o.callable.stem ++ extension) ∧
        present path = false) ∧
    (Plan.make callables directory extension present).writes.Pairwise fun o o' =>
      o.path ≠ o'.path ∧ Text.lower o.callable.stem ≠ Text.lower o'.callable.stem := by
  have hwrites : ∀ o ∈ (Plan.make callables directory extension present).outcomes,
      o.isWrite = true → o.isSkip = false ∧ o.Written directory extension present [] := by
    intro o ho hwrite
    have hskip : o.isSkip = false := by
      rw [Outcome.isWrite_eq_not_isSkip] at hwrite
      simpa using hwrite
    exact ⟨hskip, planFrom_written ho hskip⟩
  constructor
  · intro o ho
    obtain ⟨hmem, hwrite⟩ := List.mem_filter.mp ho
    obtain ⟨-, hwritten⟩ := hwrites o hmem hwrite
    obtain ⟨hpath, hchild⟩ := hwritten.isChild hext
    refine ⟨_, hpath, hchild, ?_⟩
    rw [← Callable.target_eq directory hwritten.stem hext]
    exact hwritten.absent
  · refine List.pairwise_filter.mpr ((planFrom_apart []).imp_of_mem ?_)
    intro o o' ho ho' hclaims hwrite hwrite'
    obtain ⟨hskip, hwritten⟩ := hwrites o ho hwrite
    obtain ⟨hskip', hwritten'⟩ := hwrites o' ho' hwrite'
    have hclaim := hclaims hskip hskip'
    refine ⟨?_, hclaim⟩
    -- one path would be one name in the directory, and so one stem
    intro hpaths
    rw [(hwritten.isChild hext).1, (hwritten'.isChild hext).1] at hpaths
    have hnames := congrArg Path.name (Option.some.inj hpaths)
    rw [(hwritten.isChild hext).2.name, (hwritten'.isChild hext).2.name] at hnames
    exact hclaim (congrArg Text.lower ((String.append_left_inj extension).mp hnames))

namespace Tricky

/-- Names with scopes, dots, slashes, a control character and a Kelvin sign. -/
def callables : List Callable :=
  [{ name := "script:Get-It" }, { name := "..\\up" }, { name := "GLOBAL:a/b" },
    { name := "local:.." }, { name := "get-IT" }, { name := "private:...x" }, { name := "A\x01" },
    { name := "keep" }, { name := "\u212aeep" }, { name := "Old" }]

def directory : Path := .ofString "/m/../Public"

/-- The last of them has a file already. -/
def plan : Plan :=
  Plan.make callables directory ".ps1" fun p => p.toString == "/m/../Public/Old.ps1"

end Tricky

theorem planned_files_contained_tricky :
    '/' ∉ ".ps1".toList ∧
    Tricky.plan.writes.map (·.path.map Path.toString) =
      [some "/m/../Public/Get-It.ps1", some "/m/../Public/...x.ps1",
        some "/m/../Public/keep.ps1"] ∧
    (∀ o ∈ Tricky.plan.writes, ∃ path, o.path = some path ∧
      path.IsChild Tricky.directory (o.callable.stem ++ ".ps1") ∧
        (path.toString == "/m/../Public/Old.ps1") = false) ∧
    Tricky.plan.writes.Pairwise fun o o' =>
      o.path ≠ o'.path ∧ Text.lower o.callable.stem ≠ Text.lower o'.callable.stem := by
  have hext : '/' ∉ ".ps1".toList := by decide
  obtain ⟨hchild, hapart⟩ := planned_files_contained Tricky.callables Tricky.directory
    (fun p => p.toString == "/m/../Public/Old.ps1") hext
  exact ⟨hext, by decide +kernel, hchild, hapart⟩

end Unbundle
