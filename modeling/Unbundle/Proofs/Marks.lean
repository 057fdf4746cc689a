import Unbundle.Proofs.Listing
import Unbundle.Proofs.TopLevel

/-!
# Which lines are marked

A listing knows the located callables only by the bytes at which they start. Another node of their
kind can start there as well, and it is marked too. If no two such nodes start at the same byte, the
marked nodes are the located ones (`Node.isMarked_iff`), nested and nameless ones and those in
unreadable text left out. Both are in document order, so if no node is left out, the marks come in
the order of the names at the top (`marks_are_located`).
-/

namespace Unbundle

/-- No two nodes that define a callable start at the same byte. -/
def Node.StartsApart (root : Node) : Prop :=
  ∀ p q m n, root.at? p = some m → root.at? q = some n → m.info.kind = Callable.nodeKind →
    n.info.kind = Callable.nodeKind → m.info.start = n.info.start → p = q

/-- No node of a tree is left out. -/
def ListingOptions.ShowsAll (opts : ListingOptions) (root : Node) : Prop :=
  ∀ p n, root.at? p = some n → (p, n) ∈ root.shown opts

section Marked

variable {source : Bytes} {root n : Node} {p : Position}

/-- The marked bytes are those at which the callables start. -/
theorem markedStarts_eq (source : Bytes) (root : Node) :
    markedStarts source root = (Callable.sites source root).map (·.2.info.start) := by
  have hlocate : markedStarts source root =
      (Callable.locate source root).map (·.start.toNat) := by
    rw [markedStarts, Callable.locate, List.map_filterMap]
    congr 1
    funext node
    rw [Callable.ofNode?_eq]
    split
    · rfl
    · rfl
  rw [hlocate, Callable.locate_eq, List.map_map]
  rfl

/-- A node is marked if it defines a callable and one that is located starts at the same byte. -/
theorem Node.isMarked_markedStarts :
    n.isMarked (markedStarts source root) = true ↔ n.info.kind = Callable.nodeKind ∧
      ∃ q m, root.at? q = some m ∧ Callable.StandsAt source root q m ∧
        m.info.start = n.info.start := by
  have hsites := Callable.inPreorder_sites source root
  rw [isMarked, Bool.and_eq_true, List.contains_iff_mem, beq_iff_eq, markedStarts_eq, List.mem_map,
    and_comm]
  refine and_congr_right fun _ => ?_
  constructor
  · intro h
    obtain ⟨⟨q, m⟩, hmem, hstart⟩ := h
    obtain ⟨hm, hstands⟩ := (hsites.complete q m).mp hmem
    exact ⟨q, m, hm, hstands, hstart⟩
  · intro h
    obtain ⟨q, m, hm, hstands, hstart⟩ := h
    exact ⟨(q, m), (hsites.complete q m).mpr ⟨hm, hstands⟩, hstart⟩

/-- **The marked nodes are the located ones** if the nodes that define callables start apart. -/
theorem Node.isMarked_iff (hstarts : root.StartsApart) (hn : root.at? p = some n) :
    n.isMarked (markedStarts source root) = true ↔ Callable.StandsAt source root p n := by
  rw [isMarked_markedStarts]
  constructor
  · intro h
    obtain ⟨hkind, q, m, hm, hstands, hstart⟩ := h
    obtain rfl := hstarts q p m n hm hn hstands.2.1 hkind hstart
    obtain rfl := Option.some.inj (hm.symm.trans hn)
    exact hstands
  · intro h
    exact ⟨h.2.1, p, n, hn, h, rfl⟩

/-- A line with the mark is longer than the line without it. -/
theorem Node.lineAt_true_ne (opts : ListingOptions) (source : Bytes) (p : Position) (n : Node) :
    n.lineAt opts source true p ≠ n.lineAt opts source false p := by
  intro heq
  have hlength := congrArg String.length heq
  simp [lineAt, lineWith] at hlength

theorem Node.lineAt_eq_true_iff {opts : ListingOptions} {mark : Bool} :
    n.lineAt opts source mark p = n.lineAt opts source true p ↔ mark = true := by
  cases mark with
  | false => exact iff_of_false (lineAt_true_ne opts source p n).symm Bool.false_ne_true
  | true => exact iff_of_true rfl rfl

/-- A listing that leaves nothing out shows all nodes in document order. -/
theorem ListingOptions.ShowsAll.inPreorder {opts : ListingOptions} (h : opts.ShowsAll root) :
    root.InPreorder (fun _ _ => True) (root.shown opts) where
  ascending := (root.ascending_within opts 0).sublist (List.take_sublist _ _)
  complete p n := by
    constructor
    · intro hmem
      exact ⟨((root.inPreorder_within opts).complete p n).mp (List.mem_of_mem_take hmem) |>.1,
        trivial⟩
    · intro hn
      exact h p n hn.1

/-- Without a limit to the depth nothing is left out for which there is room. -/
theorem ListingOptions.showsAll_of_room {opts : ListingOptions} (hdepth : opts.maxDepth = none)
    (hroom : ((root.within opts 0).length : Int) ≤ opts.maxNodes) : opts.ShowsAll root := by
  intro p n hn
  rw [Node.shown, List.take_of_length_le (by omega), (root.inPreorder_within opts).complete]
  refine ⟨hn, Or.inr ?_⟩
  rw [hdepth]
  intro limit hlimit
  cases hlimit

/-- If nothing is left out, it is enough to compare what is shown. -/
theorem ListingOptions.ShowsAll.startsApart {opts : ListingOptions} (h : opts.ShowsAll root)
    (hshown : ∀ s ∈ root.shown opts, ∀ t ∈ root.shown opts, s.2.info.kind = Callable.nodeKind →
      t.2.info.kind = Callable.nodeKind → s.2.info.start = t.2.info.start → s.1 = t.1) :
    root.StartsApart := by
  intro p q m n hm hn
  exact hshown (p, m) (h p m hm) (q, n) (h q n hn)

/-- Both the marked nodes and the located ones are in document order. -/
theorem ListingOptions.ShowsAll.marked_eq {opts : ListingOptions} (h : opts.ShowsAll root)
    (hstarts : root.StartsApart) (source : Bytes) :
    (root.shown opts).filter (fun s => s.2.isMarked (markedStarts source root)) =
      Callable.sites source root := by
  have hplaces : root.InPreorder (Callable.StandsAt source root)
      ((root.shown opts).filter fun s => s.2.isMarked (markedStarts source root)) := by
    refine (h.inPreorder.filter _).congr ?_
    intro p n hn
    rw [Node.isMarked_iff hstarts hn, true_and]
  exact hplaces.unique (Callable.inPreorder_sites source root)

end Marked

/-- **The marks of a listing are the located callables.** If the nodes that define callables start
apart and no node is left out, there is one line for each node, in document order, and it has the
mark exactly if the node stands where a callable is located. The names at the top are those of the
marked nodes, in the same order. -/
theorem marks_are_located (fileName : String) (opts : ListingOptions) (text : String) (root : Node)
    (hstarts : root.StartsApart) (hall : opts.ShowsAll root) :
    ∃ sites, root.InPreorder (fun _ _ => True) sites ∧
      ∃ marked : Position × Node → Bool,
        (∀ s ∈ sites, s.2.lineAt opts (Utf8.encode text) (marked s) s.1 =
            s.2.lineAt opts (Utf8.encode text) true s.1 ↔
          Callable.StandsAt (Utf8.encode text) root s.1 s.2) ∧
        (sites.filter marked).map (fun s => Callable.describe (Utf8.encode text) s.2) =
          Callable.locate (Utf8.encode text) root ∧
        listModule fileName opts text root = "\n".intercalate (
          ["# file=" ++ fileName, "# top-level callables: " ++ callableNames
            ((sites.filter marked).map fun s => Callable.describe (Utf8.encode text) s.2)] ++
          (root.diagnostics (Utf8.encode text)).map ("# diagnostic: " ++ ·.words) ++ [""] ++
          (sites.map (fun s => s.2.lineAt opts (Utf8.encode text) (marked s) s.1) ++
            opts.closing sites.length)) := by
  have hsites := hall.inPreorder
  have hlocate : ((root.shown opts).filter
        (fun s => s.2.isMarked (markedStarts (Utf8.encode text) root))).map
          (fun s => Callable.describe (Utf8.encode text) s.2) =
      Callable.locate (Utf8.encode text) root := by
    rw [hall.marked_eq hstarts, Callable.locate_eq]
  refine ⟨_, hsites, fun s => s.2.isMarked (markedStarts (Utf8.encode text) root), ?_, hlocate, ?_⟩
  · intro s hs
    rw [Node.lineAt_eq_true_iff]
    exact Node.isMarked_iff hstarts ((hsites.complete s.1 s.2).mp hs).1
  · rw [hlocate, ← Node.listing_eq]
    rfl

/-! A callable and one nested in it. -/

namespace NestedCallable

def text : String := "function A \x7b function B \x7b 1 \x7d \x7d"

def inner : Node := .mk { kind := "function_statement", start := 13, stop := 29, named := true }
  [.mk { kind := "function", start := 13, stop := 21 } [],
    .mk { kind := "function_name", start := 22, stop := 23, named := true } [],
    .mk { kind := "\x7b", start := 24, stop := 25 } [],
    .mk { kind := "script_block", start := 26, stop := 27, named := true } [],
    .mk { kind := "\x7d", start := 28, stop := 29 } []]

def outer : Node := .mk { kind := "function_statement", start := 0, stop := 31, named := true }
  [.mk { kind := "function", start := 0, stop := 8 } [],
    .mk { kind := "function_name", start := 9, stop := 10, named := true } [],
    .mk { kind := "\x7b", start := 11, stop := 12 } [],
    .mk { kind := "script_block", start := 13, stop := 29, named := true }
      [.mk { kind := "statement_list", start := 13, stop := 29, named := true } [inner]],
    .mk { kind := "\x7d", start := 30, stop := 31 } []]

def root : Node := .mk { kind := "program", start := 0, stop := 31, named := true }
  [.mk { kind := "statement_list", start := 0, stop := 31, named := true } [outer]]

theorem showsAll_root : ({} : ListingOptions).ShowsAll root :=
  ListingOptions.showsAll_of_room rfl (by decide +kernel)

theorem startsApart_root : root.StartsApart := showsAll_root.startsApart (by decide +kernel)

end NestedCallable

/-- Only the outer callable is marked. -/
theorem marks_are_located_nested :
    NestedCallable.root.StartsApart ∧ ({} : ListingOptions).ShowsAll NestedCallable.root ∧
    ∃ sites, NestedCallable.root.InPreorder (fun _ _ => True) sites ∧
      ∃ marked : Position × Node → Bool,
        (∀ s ∈ sites, s.2.lineAt {} (Utf8.encode NestedCallable.text) (marked s) s.1 =
            s.2.lineAt {} (Utf8.encode NestedCallable.text) true s.1 ↔
          Callable.StandsAt (Utf8.encode NestedCallable.text) NestedCallable.root s.1 s.2) ∧
        (sites.filter marked).map
            (fun s => Callable.describe (Utf8.encode NestedCallable.text) s.2) =
          [Callable.describe (Utf8.encode NestedCallable.text) NestedCallable.outer] := by
  refine ⟨NestedCallable.startsApart_root, NestedCallable.showsAll_root, ?_⟩
  obtain ⟨sites, hsites, marked, hmarked, hlocate, -⟩ :=
    marks_are_located "nested.psm1" {} NestedCallable.text NestedCallable.root
      NestedCallable.startsApart_root NestedCallable.showsAll_root
  refine ⟨sites, hsites, marked, hmarked, hlocate.trans ?_⟩
  decide +kernel

end Unbundle
