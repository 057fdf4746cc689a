import Unbundle.Proofs.Positions

/-!
# Which callables are located

A callable is located where it stands in the outermost statement list: every node between the root
and it is a wrapper of that list (`Callable.StandsAt`). All such callables are located, in document
order, and no others (`locate_top_level`). So nothing but wrappers can stand between, no callable,
no control-flow block and no unreadable text. The root itself is entered whatever it is: if all of a
text is unreadable, what is inside a block that is left open counts as outermost
(`unreadable_root_is_entered`).
-/

namespace Unbundle

namespace Callable

variable {source : Bytes}

/-- What is told about the node of a callable. -/
def describe (source : Bytes) (node : Node) : Callable where
  name := nameOf source node
  keyword := (node.children.head?.map fun first => Text.lower (first.text source)).getD "function"
  start := node.info.start
  stop := node.info.stop
  startLine := (source.take node.info.start).count 0x0a + 1
  endLine := (source.take node.info.stop).count 0x0a + 1
  text := Utf8.decodeLossy ((source.take node.info.stop).drop node.info.start)

/-- The node `n` at `p`, inside the root, defines a callable with a name, and there are only
wrappers between the root and it. -/
def StandsAt (source : Bytes) (root : Node) (p : Position) (n : Node) : Prop :=
  p ≠ [] ∧ n.info.kind = nodeKind ∧ nameOf source n ≠ "" ∧
    ∀ q m, root.Above p q m → q ≠ [] → m.info.kind ∈ wrapperKinds

theorem ofNode?_eq (source : Bytes) (node : Node) :
    ofNode? source node =
      if nameOf source node != "" then some (describe source node) else none := by
  by_cases hname : nameOf source node = ""
  · rw [if_neg (by rw [hname]; decide), ofNode?, hname]
    rfl
  · rw [if_pos (bne_iff_ne.mpr hname), ofNode?, if_neg (mt String.isEmpty_iff.mp hname)]
    cases node with
    | mk info children =>
      cases children with
      | nil => rfl
      | cons first rest => rfl

theorem visit_eq_take_iff {info : NodeInfo} : visit info = .take ↔ info.kind = nodeKind := by
  unfold visit
  by_cases hkind : info.kind = nodeKind
  · simp [hkind]
  · by_cases hwrapper : info.kind ∈ wrapperKinds <;> simp [hkind, hwrapper]

theorem visit_eq_enter_iff {info : NodeInfo} :
    visit info = .enter ↔ info.kind ∈ wrapperKinds := by
  unfold visit
  by_cases hkind : info.kind = nodeKind
  · simp [hkind, show nodeKind ∉ wrapperKinds by decide]
  · by_cases hwrapper : info.kind ∈ wrapperKinds <;> simp [hkind, hwrapper]

/-- The places of the callables of a tree. -/
def sites (source : Bytes) (root : Node) : List (Position × Node) :=
  (takenFrom visit 0 root.children).filter fun s => nameOf source s.2 != ""

theorem locate_eq (source : Bytes) (root : Node) :
    locate source root = (sites source root).map fun s => describe source s.2 := by
  have hnodes : definingNodes root = (takenFrom visit 0 root.children).map (·.2) :=
    (map_takenFrom (fun c _ => c.map_taken visit) 0).symm
  rw [locate, hnodes, List.filterMap_map, sites, ← List.filterMap_eq_map, List.filterMap_filter]
  congr 1
  funext s
  exact ofNode?_eq source s.2

theorem inPreorder_sites (source : Bytes) (root : Node) :
    root.InPreorder (StandsAt source root) (sites source root) := by
  refine ((root.inPreorder_takenFrom visit).filter _).congr fun p n _ => ?_
  simp only [StandsAt, visit_eq_take_iff, visit_eq_enter_iff, bne_iff_ne]
  constructor
  · rintro ⟨⟨hp, hkind, habove⟩, hname⟩
    exact ⟨hp, hkind, hname, habove⟩
  · rintro ⟨hp, hkind, hname, habove⟩
    exact ⟨⟨hp, hkind, habove⟩, hname⟩

/-- Above a callable only the root can be something else than a wrapper. -/
theorem StandsAt.kind_above_iff {root n : Node} {p : Position} (h : StandsAt source root p n)
    {kind : String} (hkind : kind ∉ wrapperKinds) :
    (∃ q m, root.Above p q m ∧ m.info.kind = kind) ↔ root.info.kind = kind := by
  obtain ⟨hp, -, -, habove⟩ := h
  constructor
  · rintro ⟨q, m, hm, rfl⟩
    cases q with
    | nil => rw [Option.some.inj hm.2.2]
    | cons i q => exact absurd (habove _ m hm (List.cons_ne_nil i q)) hkind
  · intro hroot
    exact ⟨[], root, ⟨List.nil_prefix, hp.symm, rfl⟩, hroot⟩

end Callable

/-- **The callables of a tree are those of its outermost statement list.** Located are, in document
order, exactly the nodes inside the root that define a callable with a name and have only wrappers
between the root and them; each is told with its range of bytes, its text and its lines, counted
from one. A node of another kind, such as a callable, a control-flow block or unreadable text,
stands above one of them only if it is the root. -/
theorem locate_top_level (source : Bytes) (root : Node) :
    ∃ sites, root.InPreorder (Callable.StandsAt source root) sites ∧
      Callable.locate source root = sites.map (fun s => Callable.describe source s.2) ∧
      ∀ s ∈ sites, ∀ kind, kind = Callable.nodeKind ∨ kind = errorKind ∨
          kind ∉ Callable.wrapperKinds →
        ((∃ q m, root.Above s.1 q m ∧ m.info.kind = kind) ↔ root.info.kind = kind) := by
  have hsites := Callable.inPreorder_sites source root
  refine ⟨_, hsites, Callable.locate_eq source root, ?_⟩
  intro s hs kind hkind
  have hstands := ((hsites.complete s.1 s.2).mp hs).2
  refine hstands.kind_above_iff ?_
  rcases hkind with rfl | rfl | hkind
  · decide
  · decide
  · exact hkind

/-! A condition that is not closed: the block behind it is not read as one, but as the inside of an
unreadable text. -/

namespace OpenCondition

def text : String := "if ($x \x7b\nfunction Inner \x7b 1 \x7d\n"

def inner : Node := .mk { kind := "function_statement", start := 9, stop := 29, named := true }
  [.mk { kind := "function", start := 9, stop := 17 } [],
    .mk { kind := "function_name", start := 18, stop := 23, named := true } [],
    .mk { kind := "\x7b", start := 24, stop := 25 } [],
    .mk { kind := "script_block", start := 26, stop := 27, named := true }
      [.mk { kind := "script_block_body", start := 26, stop := 27, named := true }
        [.mk { kind := "statement_list", start := 26, stop := 27, named := true }
          [.mk { kind := "decimal_integer_literal", start := 26, stop := 27, named := true } []]]],
    .mk { kind := "\x7d", start := 28, stop := 29 } []]

def block : Node := .mk { kind := "script_block", start := 9, stop := 29, named := true }
  [.mk { kind := "script_block_body", start := 9, stop := 29, named := true }
    [.mk { kind := "statement_list", start := 9, stop := 29, named := true } [inner]]]

def root : Node :=
  .mk { kind := "ERROR", start := 0, stop := 30, named := true, hasError := true }
    [.mk { kind := "if", start := 0, stop := 2 } [], .mk { kind := "(", start := 3, stop := 4 } [],
      .mk { kind := "ERROR", start := 4, stop := 6, named := true, hasError := true }
        [.mk { kind := "variable", start := 4, stop := 6, named := true } []],
      .mk { kind := "\x7b", start := 7, stop := 8 } [], block]

end OpenCondition

/-- A callable is located inside unreadable text, if that is the root. -/
theorem unreadable_root_is_entered :
    Callable.locate (Utf8.encode OpenCondition.text) OpenCondition.root =
      [Callable.describe (Utf8.encode OpenCondition.text) OpenCondition.inner] ∧
    OpenCondition.root.at? [4, 0, 0, 0] = some OpenCondition.inner ∧
    ∃ q m, OpenCondition.root.Above [4, 0, 0, 0] q m ∧ m.info.kind = errorKind := by
  refine ⟨by decide +kernel, rfl, [], OpenCondition.root, ?_, rfl⟩
  exact ⟨List.nil_prefix, by decide, rfl⟩

end Unbundle
