import Unbundle.Proofs.SoundTrees

/-!
# Positions in a tree

Two nodes of a tree may say the same and stand at different places, so a node is named by its
*position*, the steps that lead to it from the root. What is inside a node has a position that goes
on from its own, and positions in their lexical order are in document order, a node before what is
inside it. `Node.InPreorder` says that a list has exactly the places with a property, in this order;
there is only one such list (`InPreorder.unique`). Whether a property holds of all nodes of a tree,
or of some, can be decided if it can be for a node.

A search takes the nodes that it asks for and that it can get to by entering every node above them
(`Node.Takes`), in document order (`Node.inPreorder_taken`). A search that starts inside the root
does not ask the root (`Node.inPreorder_takenFrom`). In a sound tree of two positions either one
goes on from the other, and then the range of one node lies within that of the other
(`Sound.within`), or the range of the first ends before that of the second starts (`Sound.apart`).
-/

namespace Unbundle

/-- The way to a node from the root of its tree: which child to go to, step by step. -/
abbrev Position := List Nat

/-- What holds of a node if it holds of all that is directly inside holds of every node. -/
theorem Node.induction {motive : Node → Prop}
    (step : ∀ info children, (∀ c ∈ children, motive c) → motive (.mk info children)) :
    ∀ node, motive node
  | .mk info children => step info children fun c _ => Node.induction step c

namespace Node

/-- The node at a position. -/
def at? (root : Node) : Position → Option Node
  | [] => some root
  | i :: below => root.children[i]?.bind (·.at? below)

/-- The node `m` at `q` stands above the position `p`. -/
def Above (root : Node) (p q : Position) (m : Node) : Prop :=
  q <+: p ∧ q ≠ p ∧ root.at? q = some m

/-- A list of exactly the places of a tree with a property, each of them once, in document order: a
node comes before what is inside it, and that before what follows the node. -/
structure InPreorder (root : Node) (holds : Position → Node → Prop)
    (sites : List (Position × Node)) : Prop where
  ascending : sites.Pairwise fun s t => s.1 < t.1
  complete : ∀ p n, (p, n) ∈ sites ↔ root.at? p = some n ∧ holds p n

end Node

/-! ## Steps -/

namespace Node

variable {root child : Node} {i : Nat} {p q : Position} {m n : Node}

theorem at?_cons (hchild : root.children[i]? = some child) :
    root.at? (i :: p) = child.at? p := by
  rw [at?, hchild, Option.bind_some]

theorem exists_child_of_at? (h : root.at? (i :: p) = some n) :
    ∃ child, root.children[i]? = some child ∧ child.at? p = some n :=
  Option.bind_eq_some_iff.mp h

theorem at?_append (root : Node) (p q : Position) :
    root.at? (p ++ q) = (root.at? p).bind (·.at? q) := by
  induction p generalizing root with
  | nil => rfl
  | cons i p ih =>
    rw [List.cons_append, at?, at?, Option.bind_assoc]
    congr 1
    funext child
    exact ih child

theorem not_above_nil : ¬ root.Above [] q m := by
  intro h
  exact h.2.1 (List.prefix_nil.mp h.1)

/-- Above a position below a child there are the root and what is above it in the child. -/
theorem above_cons (hchild : root.children[i]? = some child) :
    root.Above (i :: p) q m ↔
      (q = [] ∧ m = root) ∨ ∃ q', q = i :: q' ∧ child.Above p q' m := by
  constructor
  · intro h
    obtain ⟨hstarts, hne, hm⟩ := h
    cases q with
    | nil => exact Or.inl ⟨rfl, (Option.some.inj hm).symm⟩
    | cons j q =>
      obtain ⟨rfl, hbelow⟩ := List.cons_prefix_cons.mp hstarts
      rw [at?_cons hchild] at hm
      exact Or.inr ⟨q, rfl, hbelow, fun heq => hne (by rw [heq]), hm⟩
  · intro h
    rcases h with ⟨rfl, rfl⟩ | ⟨q', rfl, hstarts, hne, hm⟩
    · exact ⟨List.nil_prefix, (List.cons_ne_nil i p).symm, rfl⟩
    · refine ⟨List.cons_prefix_cons.mpr ⟨rfl, hstarts⟩, ?_, by rw [at?_cons hchild]; exact hm⟩
      intro heq
      exact hne (List.cons.inj heq).2

/-- What is at a position is inside everything above it. -/
theorem Above.inside (h : root.Above p q m) (hn : root.at? p = some n) :
    ∃ r, m.at? r = some n := by
  obtain ⟨⟨r, rfl⟩, -, hm⟩ := h
  rw [at?_append, hm, Option.bind_some] at hn
  exact ⟨r, hn⟩

end Node

namespace Node.InPreorder

variable {root : Node} {holds : Position → Node → Prop} {sites : List (Position × Node)}

/-- The places among those of a list that pass a test. -/
theorem filter (h : root.InPreorder holds sites) (test : Position × Node → Bool) :
    root.InPreorder (fun p n => holds p n ∧ test (p, n) = true) (sites.filter test) where
  ascending := h.ascending.filter _
  complete p n := by rw [List.mem_filter, h.complete, and_assoc]

theorem congr (h : root.InPreorder holds sites) {holds' : Position → Node → Prop}
    (heq : ∀ p n, root.at? p = some n → (holds p n ↔ holds' p n)) :
    root.InPreorder holds' sites where
  ascending := h.ascending
  complete p n := by rw [h.complete, and_congr_right (heq p n)]

/-- No place is listed twice. -/
theorem nodup (h : root.InPreorder holds sites) : (sites.map (·.1)).Nodup := by
  refine List.pairwise_map.mpr (h.ascending.imp fun {s t} hlt heq => ?_)
  rw [heq] at hlt
  exact List.lt_irrefl _ hlt

theorem nodup_sites (h : root.InPreorder holds sites) : sites.Nodup :=
  (List.pairwise_map.mp h.nodup).imp fun hne heq => hne (congrArg _ heq)

/-- There is only one such list. -/
theorem unique {sites' : List (Position × Node)} (h : root.InPreorder holds sites)
    (h' : root.InPreorder holds sites') : sites = sites' := by
  have hperm : sites.Perm sites' := by
    refine (List.perm_ext_iff_of_nodup h.nodup_sites h'.nodup_sites).mpr fun s => ?_
    exact (h.complete s.1 s.2).trans (h'.complete s.1 s.2).symm
  refine hperm.eq_of_pairwise ?_ h.ascending h'.ascending
  intro s t _ _ hlt hgt
  exact absurd hgt (List.lt_asymm hlt)

end Node.InPreorder

/-! ## Whole trees -/

namespace Node

/-- Whether something holds of every node of a tree. -/
def Throughout (holds : Node → Prop) (root : Node) : Prop :=
  ∀ p n, root.at? p = some n → holds n

/-- Whether something holds of some node of a tree. -/
def Somewhere (holds : Node → Prop) (root : Node) : Prop :=
  ∃ p n, root.at? p = some n ∧ holds n

variable {holds : Node → Prop}

theorem throughout_mk {info : NodeInfo} {children : List Node} :
    (mk info children).Throughout holds ↔
      holds (.mk info children) ∧ ∀ c ∈ children, c.Throughout holds := by
  constructor
  · intro h
    refine ⟨h [] _ rfl, fun c hc p n hn => ?_⟩
    obtain ⟨i, hi⟩ := List.getElem?_of_mem hc
    exact h (i :: p) n ((at?_cons hi).trans hn)
  · rintro ⟨hroot, heach⟩ p n hn
    cases p with
    | nil => exact Option.some.inj hn ▸ hroot
    | cons i p =>
      obtain ⟨c, hc, hn⟩ := exists_child_of_at? hn
      exact heach c (List.mem_of_getElem? hc) p n hn

theorem somewhere_iff_not_throughout {root : Node} :
    root.Somewhere holds ↔ ¬ root.Throughout fun n => ¬ holds n := by
  simp only [Somewhere, Throughout, Classical.not_forall, Classical.not_not, exists_prop]

end Node

mutual

def Node.decidableThroughout (holds : Node → Prop) [DecidablePred holds] :
    (root : Node) → Decidable (root.Throughout holds)
  | .mk _ children =>
    have := decidableThroughoutAll holds children
    decidable_of_iff' _ Node.throughout_mk

def decidableThroughoutAll (holds : Node → Prop) [DecidablePred holds] :
    (nodes : List Node) → Decidable (∀ c ∈ nodes, c.Throughout holds)
  | [] => isTrue fun _ h => absurd h List.not_mem_nil
  | node :: rest =>
    have := node.decidableThroughout holds
    have := decidableThroughoutAll holds rest
    decidable_of_iff' _ List.forall_mem_cons

end

instance {holds : Node → Prop} [DecidablePred holds] {root : Node} :
    Decidable (root.Throughout holds) := root.decidableThroughout holds

instance {holds : Node → Prop} [DecidablePred holds] {root : Node} :
    Decidable (root.Somewhere holds) := decidable_of_iff' _ Node.somewhere_iff_not_throughout

/-! ## Places below a node -/

/-- What `find` gives for each of some nodes, one after the other, seen from their parent. The first
of them is its child `i`. -/
def sitesBelow (find : Node → List (Position × Node)) (i : Nat) :
    List Node → List (Position × Node)
  | [] => []
  | node :: rest => (find node).map (fun s => (i :: s.1, s.2)) ++ sitesBelow find (i + 1) rest

section Below

variable {find : Node → List (Position × Node)} {nodes : List Node} {i : Nat} {p : Position}
  {n : Node}

theorem mem_sitesBelow :
    (p, n) ∈ sitesBelow find i nodes ↔
      ∃ k child below, p = (i + k) :: below ∧ nodes[k]? = some child ∧
        (below, n) ∈ find child := by
  induction nodes generalizing i with
  | nil => simp [sitesBelow]
  | cons node rest ih =>
    rw [sitesBelow, List.mem_append, ih, List.mem_map]
    constructor
    · rintro (⟨⟨below, m⟩, hmem, heq⟩ | ⟨k, child, below, rfl, hchild, hmem⟩)
      · obtain ⟨rfl, rfl⟩ := Prod.mk.inj heq
        exact ⟨0, node, below, rfl, rfl, hmem⟩
      · exact ⟨k + 1, child, below, by rw [Nat.add_right_comm, Nat.add_assoc], hchild, hmem⟩
    · rintro ⟨k, child, below, rfl, hchild, hmem⟩
      cases k with
      | zero =>
        obtain rfl := Option.some.inj hchild
        exact Or.inl ⟨(below, n), hmem, rfl⟩
      | succ k =>
        exact Or.inr ⟨k, child, below, by rw [Nat.add_right_comm, Nat.add_assoc], hchild, hmem⟩

theorem ascending_sitesBelow (h : ∀ c ∈ nodes, (find c).Pairwise fun s t => s.1 < t.1) (i : Nat) :
    (sitesBelow find i nodes).Pairwise fun s t => s.1 < t.1 := by
  induction nodes generalizing i with
  | nil => exact .nil
  | cons node rest ih =>
    obtain ⟨hnode, hrest⟩ := List.forall_mem_cons.mp h
    rw [sitesBelow, List.pairwise_append]
    refine ⟨?_, ih hrest (i + 1), ?_⟩
    · refine List.pairwise_map.mpr (hnode.imp fun {s t} hlt => ?_)
      exact List.cons_lt_cons_iff.mpr (Or.inr ⟨rfl, hlt⟩)
    · -- the first step leads to an earlier child
      rintro s hs ⟨q, m⟩ ht
      obtain ⟨s', -, rfl⟩ := List.mem_map.mp hs
      obtain ⟨k, child, below, rfl, -, -⟩ := mem_sitesBelow.mp ht
      exact List.cons_lt_cons_iff.mpr (Or.inl (by omega))

end Below

/-! ## Searches -/

mutual

/-- What a search takes in a tree, with its positions, in document order. -/
def Node.taken (visit : NodeInfo → Visit) : Node → List (Position × Node)
  | .mk info children =>
    match visit info with
    | .take => [([], .mk info children)]
    | .enter => takenFrom visit 0 children
    | .leave => []

/-- What a search takes in a list of trees, the first of which is the child `i` of a node. -/
def takenFrom (visit : NodeInfo → Visit) (i : Nat) : List Node → List (Position × Node)
  | [] => []
  | node :: rest =>
    (node.taken visit).map (fun s => (i :: s.1, s.2)) ++ takenFrom visit (i + 1) rest

end

/-- A search takes the node `n` at `p`: it asks for it and enters everything above it. -/
def Node.Takes (visit : NodeInfo → Visit) (root : Node) (p : Position) (n : Node) : Prop :=
  visit n.info = .take ∧ ∀ q m, root.Above p q m → visit m.info = .enter

section Search

variable {visit : NodeInfo → Visit} {nodes : List Node} {i : Nat} {p : Position} {n : Node}

theorem map_takenFrom (h : ∀ c ∈ nodes, (c.taken visit).map (·.2) = c.gather visit) (i : Nat) :
    (takenFrom visit i nodes).map (·.2) = gatherAll visit nodes := by
  induction nodes generalizing i with
  | nil =>
    rw [takenFrom, gatherAll]
    rfl
  | cons node rest ih =>
    obtain ⟨hnode, hrest⟩ := List.forall_mem_cons.mp h
    rw [takenFrom, gatherAll, List.map_append, List.map_map, ih hrest, ← hnode]
    rfl

/-- The nodes that a search takes. -/
theorem Node.map_taken (visit : NodeInfo → Visit) (root : Node) :
    (root.taken visit).map (·.2) = root.gather visit := by
  induction root using Node.induction with
  | step info children ih =>
    rw [taken, gather]
    cases visit info with
    | take => rfl
    | enter => exact map_takenFrom ih 0
    | leave => rfl

theorem takenFrom_eq (i : Nat) :
    takenFrom visit i nodes = sitesBelow (·.taken visit) i nodes := by
  induction nodes generalizing i with
  | nil => rw [takenFrom, sitesBelow]
  | cons node rest ih => rw [takenFrom, sitesBelow, ih]

theorem Node.ascending_taken (visit : NodeInfo → Visit) (root : Node) :
    (root.taken visit).Pairwise fun s t => s.1 < t.1 := by
  induction root using Node.induction with
  | step info children ih =>
    rw [taken]
    cases visit info with
    | take => exact List.pairwise_singleton ..
    | enter =>
      rw [takenFrom_eq]
      exact ascending_sitesBelow ih 0
    | leave => exact .nil

/-- A search that starts inside the root does not ask the root. -/
theorem mem_takenFrom_children (root : Node)
    (h : ∀ c ∈ root.children, ∀ p n,
      (p, n) ∈ c.taken visit ↔ c.at? p = some n ∧ c.Takes visit p n) :
    (p, n) ∈ takenFrom visit 0 root.children ↔ root.at? p = some n ∧ p ≠ [] ∧
      visit n.info = .take ∧ ∀ q m, root.Above p q m → q ≠ [] → visit m.info = .enter := by
  rw [takenFrom_eq, mem_sitesBelow]
  constructor
  · rintro ⟨k, child, below, rfl, hchild, hmem⟩
    rw [Nat.zero_add]
    obtain ⟨hn, htake, henter⟩ := (h child (List.mem_of_getElem? hchild) below n).mp hmem
    refine ⟨by rw [Node.at?_cons hchild]; exact hn, List.cons_ne_nil _ _, htake, ?_⟩
    intro q m habove hq
    rcases (Node.above_cons hchild).mp habove with ⟨hnil, -⟩ | ⟨q', -, habove⟩
    · exact absurd hnil hq
    · exact henter q' m habove
  · rintro ⟨hn, hp, htake, henter⟩
    obtain ⟨k, below, rfl⟩ := List.exists_cons_of_ne_nil hp
    obtain ⟨child, hchild, hn⟩ := Node.exists_child_of_at? hn
    refine ⟨k, child, below, by rw [Nat.zero_add], hchild, ?_⟩
    refine (h child (List.mem_of_getElem? hchild) below n).mpr ⟨hn, htake, fun q m habove => ?_⟩
    exact henter (k :: q) m ((Node.above_cons hchild).mpr (Or.inr ⟨q, rfl, habove⟩))
      (List.cons_ne_nil _ _)

/-- A search that takes anything takes the root or enters it. -/
theorem Node.Takes.root_cases {root : Node} (hn : root.at? p = some n)
    (h : root.Takes visit p n) :
    (p = [] ∧ n = root ∧ visit root.info = .take) ∨ (p ≠ [] ∧ visit root.info = .enter) := by
  cases p with
  | nil =>
    obtain rfl := Option.some.inj hn
    exact Or.inl ⟨rfl, rfl, h.1⟩
  | cons i p =>
    have hne := List.cons_ne_nil i p
    exact Or.inr ⟨hne, h.2 [] root ⟨List.nil_prefix, hne.symm, rfl⟩⟩

theorem Node.mem_taken {root : Node} :
    (p, n) ∈ root.taken visit ↔ root.at? p = some n ∧ root.Takes visit p n := by
  induction root using Node.induction generalizing p n with
  | step info children ih =>
    rw [taken]
    cases hvisit : visit info with
    | take =>
      rw [List.mem_singleton, Prod.mk.injEq]
      constructor
      · rintro ⟨rfl, rfl⟩
        exact ⟨rfl, hvisit, fun q m habove => absurd habove not_above_nil⟩
      · intro h
        rcases h.2.root_cases h.1 with ⟨hp, hn, -⟩ | ⟨-, henter⟩
        · exact ⟨hp, hn⟩
        · exact absurd (hvisit.symm.trans henter) (by decide)
    | enter =>
      refine (mem_takenFrom_children (.mk info children) fun c hc p n => ih c hc).trans ⟨?_, ?_⟩
      · rintro ⟨hn, -, htake, henter⟩
        refine ⟨hn, htake, fun q m habove => ?_⟩
        cases q with
        | nil =>
          obtain rfl := Option.some.inj habove.2.2
          exact hvisit
        | cons j q => exact henter _ m habove (List.cons_ne_nil j q)
      · intro h
        rcases h.2.root_cases h.1 with ⟨-, -, htake⟩ | ⟨hp, -⟩
        · exact absurd (hvisit.symm.trans htake) (by decide)
        · exact ⟨h.1, hp, h.2.1, fun q m habove _ => h.2.2 q m habove⟩
    | leave =>
      refine iff_of_false List.not_mem_nil fun h => ?_
      rcases h.2.root_cases h.1 with ⟨-, -, htake⟩ | ⟨-, henter⟩
      · exact absurd (hvisit.symm.trans htake) (by decide)
      · exact absurd (hvisit.symm.trans henter) (by decide)

/-- **A search takes in document order** exactly what it asks for and can get to. -/
theorem Node.inPreorder_taken (visit : NodeInfo → Visit) (root : Node) :
    root.InPreorder (root.Takes visit) (root.taken visit) where
  ascending := root.ascending_taken visit
  complete _ _ := mem_taken

/-- The same inside the root, which is not asked. -/
theorem Node.inPreorder_takenFrom (visit : NodeInfo → Visit) (root : Node) :
    root.InPreorder
      (fun p n => p ≠ [] ∧ visit n.info = .take ∧
        ∀ q m, root.Above p q m → q ≠ [] → visit m.info = .enter)
      (takenFrom visit 0 root.children) where
  ascending := by
    rw [takenFrom_eq]
    exact ascending_sitesBelow (fun c _ => c.ascending_taken visit) 0
  complete _ _ := mem_takenFrom_children root fun _ _ _ _ => mem_taken

end Search

/-! ## Positions in sound trees -/

namespace Node.Sound

variable {root : Node} {p q : Position} {m n : Node}

theorem ordered (h : root.Sound) :
    root.children.Pairwise fun c d => c.info.stop ≤ d.info.start := by
  cases h with
  | mk _ ordered _ => exact ordered

/-- What is inside a node lies within its range. -/
theorem within (h : root.Sound) (hn : root.at? p = some n) :
    n.Sound ∧ root.info.start ≤ n.info.start ∧ n.info.stop ≤ root.info.stop := by
  induction p generalizing root with
  | nil =>
    obtain rfl := Option.some.inj hn
    exact ⟨h, Nat.le_refl _, Nat.le_refl _⟩
  | cons i p ih =>
    obtain ⟨child, hchild, hn⟩ := exists_child_of_at? hn
    obtain ⟨hsound, hstart, hstop⟩ := h.inside (List.mem_of_getElem? hchild)
    obtain ⟨hnode, hwithin⟩ := ih hsound hn
    exact ⟨hnode, by omega, by omega⟩

/-- Of two nodes in document order, neither inside the other, the first ends before the second
starts. -/
theorem apart (h : root.Sound) (hm : root.at? p = some m) (hn : root.at? q = some n) (hlt : p < q)
    (hbeside : ¬ p <+: q) : m.info.stop ≤ n.info.start := by
  induction p generalizing root q with
  | nil => exact absurd List.nil_prefix hbeside
  | cons i p ih =>
    cases q with
    | nil => exact absurd hlt (List.not_lt_nil _)
    | cons j q =>
      obtain ⟨c, hc, hm⟩ := exists_child_of_at? hm
      obtain ⟨d, hd, hn⟩ := exists_child_of_at? hn
      have hc' := h.inside (List.mem_of_getElem? hc)
      rcases List.cons_lt_cons_iff.mp hlt with hij | ⟨rfl, hbelow⟩
      · -- they are inside different children
        have hd' := h.inside (List.mem_of_getElem? hd)
        have hcd : c.info.stop ≤ d.info.start := by
          obtain ⟨hi, rfl⟩ := List.getElem?_eq_some_iff.mp hc
          obtain ⟨hj, rfl⟩ := List.getElem?_eq_some_iff.mp hd
          exact List.pairwise_iff_getElem.mp h.ordered i j hi hj hij
        have hm' := hc'.1.within hm
        have hn' := hd'.1.within hn
        omega
      · obtain rfl := Option.some.inj (hc.symm.trans hd)
        exact ih hc'.1 hm hn hbelow fun hstarts =>
          hbeside (List.cons_prefix_cons.mpr ⟨rfl, hstarts⟩)

end Node.Sound

end Unbundle
