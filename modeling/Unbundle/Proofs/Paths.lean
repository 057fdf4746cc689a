import Unbundle.FileStore.Basic
import Unbundle.Proofs.Words

/-!
# Paths without NUL

A store takes no path with a NUL in it. A path has one exactly when one of its names does
(`acceptable_toString_iff`), so what is built from acceptable parts - a path read from another, its
parent, a path with another last name - is acceptable again.
-/

namespace Unbundle

theorem FileStore.acceptable_iff {text : String} :
    acceptable text = true ↔ '\x00' ∉ text.toList := by
  simp [acceptable]

theorem FileStore.acceptable_append {a b : String} :
    acceptable (a ++ b) = true ↔ acceptable a = true ∧ acceptable b = true := by
  simp [acceptable_iff, not_or]

namespace Path

theorem mem_intercalate_slash {c : Char} (hc : c ≠ '/') (parts : List String) :
    c ∈ ("/".intercalate parts).toList ↔ ∃ name ∈ parts, c ∈ name.toList := by
  induction parts with
  | nil => simp
  | cons name rest ih =>
    cases rest with
    | nil => simp
    | cons next rest =>
      have hslash : c ∉ "/".toList := by simpa using hc
      rw [String.intercalate_cons_cons, String.toList_append, String.toList_append,
        List.mem_append, List.mem_append, ih]
      simp only [List.mem_cons, exists_eq_or_imp, hslash, or_false]

theorem toString_eq_of_parts {p : Path} (h : p.parts ≠ []) :
    p.toString = p.root.text ++ "/".intercalate p.parts := by
  unfold Path.toString
  split
  next hparts => exact absurd hparts h
  next => rfl

/-- A path is acceptable exactly when all its names are. -/
theorem acceptable_toString_iff {p : Path} :
    FileStore.acceptable p.toString = true ↔
      ∀ name ∈ p.parts, FileStore.acceptable name = true := by
  by_cases hparts : p.parts = []
  · have hnames : ∀ name ∈ p.parts, FileStore.acceptable name = true := by simp [hparts]
    refine iff_of_true ?_ hnames
    obtain ⟨root, parts⟩ := p
    obtain rfl : parts = [] := hparts
    cases root <;> decide
  · have hroot : '\x00' ∉ p.root.text.toList := by cases p.root <;> decide
    rw [toString_eq_of_parts hparts, FileStore.acceptable_iff, String.toList_append,
      List.mem_append, mem_intercalate_slash (by decide)]
    simp only [hroot, false_or, not_exists, not_and, FileStore.acceptable_iff]

theorem acceptable_of_mem_partsOf {cs : List Char} (h : '\x00' ∉ cs) {name : String}
    (hname : name ∈ partsOf cs) : FileStore.acceptable name = true := by
  obtain ⟨w, hw, rfl⟩ := List.mem_map.mp (List.mem_filter.mp hname).1
  rw [FileStore.acceptable_iff, String.toList_ofList]
  exact fun hnul => h (Text.mem_of_mem_fields hw _ hnul).1

theorem acceptable_join {p : Path} {text : String}
    (hp : FileStore.acceptable p.toString = true) (htext : FileStore.acceptable text = true) :
    FileStore.acceptable (p.join text).toString = true := by
  rw [acceptable_toString_iff] at hp ⊢
  have hparts : ∀ name ∈ partsOf text.toList, FileStore.acceptable name = true :=
    fun name => acceptable_of_mem_partsOf (FileStore.acceptable_iff.mp htext)
  intro name hname
  unfold join at hname
  simp only [ofString] at hname
  split at hname
  next =>
    rcases List.mem_append.mp hname with h | h
    · exact hp name h
    · exact hparts name h
  next => exact hparts name hname

theorem acceptable_parent {p : Path} (hp : FileStore.acceptable p.toString = true) :
    FileStore.acceptable p.parent.toString = true := by
  rw [acceptable_toString_iff] at hp ⊢
  exact fun name hname => hp name (List.dropLast_subset _ hname)

/-- The last name of an acceptable path is acceptable. -/
theorem acceptable_name {p : Path} (hp : FileStore.acceptable p.toString = true) :
    FileStore.acceptable p.name = true := by
  rw [acceptable_toString_iff] at hp
  unfold Path.name
  cases hlast : p.parts.getLast? with
  | none => decide
  | some name => exact hp name (List.mem_of_getLast? hlast)

theorem withName_ok {p q : Path} {name : String} (h : p.withName name = .ok q) :
    q = { p with parts := p.parts.dropLast ++ [name] } := by
  unfold withName at h
  split at h
  next => exact absurd h (by simp)
  next =>
    split at h
    next => exact absurd h (by simp)
    next =>
      cases h
      rfl

theorem acceptable_withName {p q : Path} {name : String}
    (hp : FileStore.acceptable p.toString = true) (hname : FileStore.acceptable name = true)
    (h : p.withName name = .ok q) : FileStore.acceptable q.toString = true := by
  obtain rfl := withName_ok h
  rw [acceptable_toString_iff] at hp ⊢
  intro part hpart
  rcases List.mem_append.mp hpart with hpart | hpart
  · exact hp part (List.dropLast_subset _ hpart)
  · rw [List.mem_singleton.mp hpart]
    exact hname

end Path

end Unbundle
