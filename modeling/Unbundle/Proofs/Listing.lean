import Unbundle.Proofs.Positions
import Unbundle.Tree.Listing

/-!
# What a listing shows

The nodes that the depth limit lets through are `Node.within`, in document order
(`Node.inPreorder_within`). A walk with room for some nodes takes the beginning of them and says how
much room is left (`Node.walk_eq`): the room is handed from node to node, through all depths, so
that nothing is taken once it is used up. So a listing has the lines of these nodes, each with the
depth and the role of its node, and perhaps a last line (`Node.listing_eq`).

The last line is there if no room is left, and so it does not tell a listing that stopped from one
that just fits (`truncation_told`, `fitting_listing_truncated`).
-/

namespace Unbundle

namespace ListingOptions

/-- The depth limit lets a position through. It always lets the root through. -/
def Reaches (opts : ListingOptions) (p : Position) : Prop :=
  p = [] ∨ ∀ limit ∈ opts.maxDepth, (p.length : Int) ≤ limit

theorem descends_iff {opts : ListingOptions} {depth : Nat} :
    opts.descends depth = true ↔ ∀ limit ∈ opts.maxDepth, (depth : Int) < limit := by
  unfold descends
  cases opts.maxDepth with
  | none => simp
  | some limit => simp

end ListingOptions

/-! ## The nodes within the depth limit -/

mutual

/-- The nodes of a tree that the depth limit lets through, with their positions, in document order.
The root of the tree lies at `depth`. -/
def Node.within (opts : ListingOptions) (depth : Nat) : Node → List (Position × Node)
  | .mk info children =>
    ([], .mk info children) ::
      if opts.descends depth then withinFrom opts (depth + 1) 0 children else []

/-- The same for trees that lie side by side, the first of them being the child `i` of a node. -/
def withinFrom (opts : ListingOptions) (depth i : Nat) : List Node → List (Position × Node)
  | [] => []
  | node :: rest =>
    (node.within opts depth).map (fun s => (i :: s.1, s.2)) ++ withinFrom opts depth (i + 1) rest

end

section Within

variable {opts : ListingOptions} {info : NodeInfo} {children : List Node} {depth : Nat}
  {p : Position} {n : Node}

theorem withinFrom_eq (opts : ListingOptions) (depth i : Nat) (nodes : List Node) :
    withinFrom opts depth i nodes = sitesBelow (·.within opts depth) i nodes := by
  induction nodes generalizing i with
  | nil => rw [withinFrom, sitesBelow]
  | cons node rest ih => rw [withinFrom, sitesBelow, ih]

theorem Node.within_of_descends (h : opts.descends depth = true) :
    (Node.mk info children).within opts depth =
      ([], .mk info children) :: sitesBelow (·.within opts (depth + 1)) 0 children := by
  rw [within, if_pos h, withinFrom_eq]

theorem Node.within_of_not_descends (h : opts.descends depth = false) :
    (Node.mk info children).within opts depth = [([], .mk info children)] := by
  rw [within, if_neg (by simp [h])]

/-- The root of a tree is let through. -/
theorem Node.nil_mem_within {root : Node} : ([], n) ∈ root.within opts depth ↔ n = root := by
  cases root with
  | mk info children =>
    cases hdescends : opts.descends depth with
    | false =>
      rw [within_of_not_descends hdescends]
      simp
    | true =>
      rw [within_of_descends hdescends, List.mem_cons, mem_sitesBelow]
      simp

/-- What is inside a child is let through if the limit is not reached at the root, which lies at
`depth`, and the child lets it through. -/
theorem Node.cons_mem_within {root : Node} {i : Nat} :
    (i :: p, n) ∈ root.within opts depth ↔ opts.descends depth = true ∧
      ∃ child, root.children[i]? = some child ∧ (p, n) ∈ child.within opts (depth + 1) := by
  cases root with
  | mk info children =>
    cases hdescends : opts.descends depth with
    | false =>
      rw [within_of_not_descends hdescends]
      simp
    | true =>
      rw [within_of_descends hdescends, List.mem_cons, mem_sitesBelow]
      constructor
      · intro h
        rcases h with heq | ⟨k, child, below, hp, hchild, hmem⟩
        · cases heq
        · rw [Nat.zero_add] at hp
          obtain ⟨rfl, rfl⟩ := List.cons.inj hp
          exact ⟨rfl, child, hchild, hmem⟩
      · intro h
        obtain ⟨-, child, hchild, hmem⟩ := h
        exact Or.inr ⟨i, child, p, by rw [Nat.zero_add], hchild, hmem⟩

/-- Of a tree whose root lies at `depth`, the root is let through and what is not too deep. -/
theorem Node.mem_within {root : Node} :
    (p, n) ∈ root.within opts depth ↔ root.at? p = some n ∧
      (p = [] ∨ ∀ limit ∈ opts.maxDepth, (depth + p.length : Int) ≤ limit) := by
  induction p generalizing root depth with
  | nil =>
    rw [nil_mem_within]
    constructor
    · intro heq
      exact ⟨congrArg some heq.symm, Or.inl rfl⟩
    · intro h
      exact (Option.some.inj h.1).symm
  | cons i p ih =>
    rw [cons_mem_within, ListingOptions.descends_iff]
    constructor
    · intro h
      obtain ⟨hdescends, child, hchild, hmem⟩ := h
      obtain ⟨hn, hdeep⟩ := ih.mp hmem
      refine ⟨(at?_cons hchild).trans hn, Or.inr ?_⟩
      intro limit hlimit
      have hroot := hdescends limit hlimit
      rcases hdeep with hnil | hdeep
      · rw [hnil]
        simp only [List.length_singleton]
        omega
      · have hbelow := hdeep limit hlimit
        simp only [List.length_cons]
        omega
    · intro h
      obtain ⟨hn, hdeep⟩ := h
      obtain ⟨child, hchild, hn⟩ := exists_child_of_at? hn
      have hdeep := hdeep.resolve_left (List.cons_ne_nil i p)
      simp only [List.length_cons] at hdeep
      refine ⟨?_, child, hchild, ih.mpr ⟨hn, Or.inr ?_⟩⟩
      · intro limit hlimit
        have hbelow := hdeep limit hlimit
        omega
      · intro limit hlimit
        have hbelow := hdeep limit hlimit
        omega

theorem Node.ascending_within (opts : ListingOptions) (depth : Nat) (root : Node) :
    (root.within opts depth).Pairwise fun s t => s.1 < t.1 := by
  induction root using Node.induction generalizing depth with
  | step info children ih =>
    cases hdescends : opts.descends depth with
    | false =>
      rw [within_of_not_descends hdescends]
      exact List.pairwise_singleton ..
    | true =>
      rw [within_of_descends hdescends, List.pairwise_cons]
      refine ⟨?_, ascending_sitesBelow (fun c hc => ih c hc (depth + 1)) 0⟩
      intro s hs
      obtain ⟨k, child, below, hp, -, -⟩ := mem_sitesBelow.mp hs
      rw [hp]
      exact List.nil_lt_cons ..

/-- **The nodes that the depth limit lets through, in document order.** -/
theorem Node.inPreorder_within (opts : ListingOptions) (root : Node) :
    root.InPreorder (fun p _ => opts.Reaches p) (root.within opts 0) where
  ascending := root.ascending_within opts 0
  complete p n := by
    rw [mem_within]
    simp only [Int.natCast_zero, Int.zero_add, ListingOptions.Reaches]

end Within

/-! ## Walks with room for some nodes -/

/-- A place in a tree whose root lies at `depth`. -/
def place (depth : Nat) (s : Position × Node) : Placed := ⟨depth + s.1.length, s.2⟩

section Walk

variable {opts : ListingOptions} {nodes : List Node}

/-- The beginning of what stands side by side is the beginning of the first, and of the rest as far
as there is room left. -/
theorem map_place_take_sitesBelow (find : Node → List (Position × Node)) (depth room i : Nat)
    (node : Node) (rest : List Node) :
    ((sitesBelow find i (node :: rest)).take room).map (place depth) =
      ((find node).take room).map (place (depth + 1)) ++
        ((sitesBelow find (i + 1) rest).take (room - (find node).length)).map (place depth) := by
  rw [sitesBelow, List.take_append, List.map_append, List.length_map, ← List.map_take,
    List.map_map]
  congr 1
  refine List.map_congr_left ?_
  intro s _
  show place depth (i :: s.1, s.2) = place (depth + 1) s
  simp only [place, List.length_cons, Placed.mk.injEq, and_true]
  omega

theorem walkAll_eq {depth : Nat}
    (h : ∀ c ∈ nodes, ∀ room, c.walk opts (depth + 1) room =
      (((c.within opts (depth + 1)).take room).map (place (depth + 1)),
        room - (c.within opts (depth + 1)).length)) (room i : Nat) :
    walkAll opts (depth + 1) room nodes =
      (((sitesBelow (·.within opts (depth + 1)) i nodes).take room).map (place depth),
        room - (sitesBelow (·.within opts (depth + 1)) i nodes).length) := by
  induction nodes generalizing room i with
  | nil =>
    rw [walkAll, sitesBelow, List.take_nil]
    rfl
  | cons node rest ih =>
    obtain ⟨hnode, hrest⟩ := List.forall_mem_cons.mp h
    rw [walkAll, map_place_take_sitesBelow, sitesBelow, List.length_append, List.length_map]
    simp only [hnode, ih hrest _ (i + 1), Nat.sub_sub]

/-- **A walk takes the beginning** of what the depth limit lets through, as far as there is room. -/
theorem Node.walk_eq (opts : ListingOptions) (depth room : Nat) (root : Node) :
    root.walk opts depth room =
      (((root.within opts depth).take room).map (place depth),
        room - (root.within opts depth).length) := by
  induction root using Node.induction generalizing depth room with
  | step info children ih =>
    cases room with
    | zero =>
      rw [walk, List.take_zero, Nat.zero_sub]
      rfl
    | succ room =>
      cases hdescends : opts.descends depth with
      | false =>
        rw [walk, within_of_not_descends hdescends]
        simp [hdescends, place]
      | true =>
        rw [walk, within_of_descends hdescends]
        simp only [hdescends, if_true, walkAll_eq (fun c hc => ih c hc (depth + 1)) room 0]
        simp [place]

end Walk

/-! ## Lines -/

/-- The field of a node in its parent, in a line. -/
def fieldWords : Option String → String
  | none => ""
  | some field => if field = "" then "" else field ++ ": "

namespace Node

/-- What a line says about a node itself. -/
def described (opts : ListingOptions) (source : Bytes) (n : Node) : String :=
  n.info.kind ++ " " ++ n.rangeWords source ++
    (if opts.showBytes then s!" <{n.info.start}-{n.info.stop}>" else "") ++
    (if opts.showText && n.info.named then " :: " ++ n.snippet source opts.textLimit else "")

/-- The line of a node: indented by its depth, perhaps marked, labelled with its field. -/
def lineWith (opts : ListingOptions) (source : Bytes) (mark : Bool) (depth : Nat)
    (field : Option String) (n : Node) : String :=
  String.join (List.replicate depth opts.indent) ++ (if mark then "* " else "") ++
    fieldWords field ++ n.described opts source

/-- The field of the node at a position in its parent. The root of a tree has none. -/
def fieldAt (p : Position) (n : Node) : Option String := if p = [] then none else n.info.field

/-- The line of the node at a position. -/
def lineAt (opts : ListingOptions) (source : Bytes) (mark : Bool) (p : Position) (n : Node) :
    String :=
  n.lineWith opts source mark p.length (n.fieldAt p)

end Node

theorem Placed.line_eq (opts : ListingOptions) (source : Bytes) (marked : List Nat) (d : Nat)
    (n : Node) :
    (⟨d, n⟩ : Placed).line opts source marked =
      n.lineWith opts source (n.isMarked marked) d (if d = 0 then none else n.info.field) := by
  have hfield : (if d == 0 then "" else (n.info.field.filter (· != "")).elim "" (· ++ ": ")) =
      fieldWords (if d = 0 then none else n.info.field) := by
    by_cases hroot : d = 0
    · simp [hroot, fieldWords]
    · cases hinfo : n.info.field with
      | none => simp [hroot, fieldWords]
      | some field =>
        by_cases hempty : field = ""
        · simp [hroot, fieldWords, hempty, Option.filter]
        · simp [hroot, fieldWords, hempty, Option.filter]
  unfold line Node.lineWith Node.described
  simp only [hfield, String.append_assoc]

theorem line_place (opts : ListingOptions) (source : Bytes) (marked : List Nat) (p : Position)
    (n : Node) :
    (place 0 (p, n)).line opts source marked = n.lineAt opts source (n.isMarked marked) p := by
  rw [place, Placed.line_eq, Node.lineAt, Node.fieldAt]
  simp

namespace ListingOptions

/-- The line that says that a listing stopped. -/
def notice (opts : ListingOptions) : String :=
  opts.indent ++ s!"… (truncated at {opts.maxNodes} nodes)"

/-- What follows the lines of some nodes. -/
def closing (opts : ListingOptions) (listed : Nat) : List String :=
  if opts.maxNodes ≤ listed then [opts.notice] else []

theorem closing_eq_notice (opts : ListingOptions) {listed : Nat} :
    opts.closing listed = [opts.notice] ↔ opts.maxNodes ≤ listed := by
  simp [closing]

theorem closing_eq_nil (opts : ListingOptions) {listed : Nat} :
    opts.closing listed = [] ↔ ¬ opts.maxNodes ≤ listed := by
  simp [closing]

end ListingOptions

namespace Node

/-- The nodes that a listing shows. -/
def shown (opts : ListingOptions) (root : Node) : List (Position × Node) :=
  (root.within opts 0).take opts.maxNodes.toNat

/-- The lines of what a walk takes that starts with all the room. -/
theorem map_line_walk (opts : ListingOptions) (source : Bytes) (marked : List Nat) (root : Node) :
    (root.walk opts 0 opts.maxNodes.toNat).1.map (·.line opts source marked) =
      (root.shown opts).map (fun s => s.2.lineAt opts source (s.2.isMarked marked) s.1) := by
  rw [walk_eq, List.map_map]
  refine List.map_congr_left ?_
  intro s _
  exact line_place opts source marked s.1 s.2

/-- **The lines of a listing** are those of the nodes that it shows, and perhaps a last one. -/
theorem listing_eq (opts : ListingOptions) (source : Bytes) (marked : List Nat) (root : Node) :
    root.listing opts source marked =
      (root.shown opts).map (fun s => s.2.lineAt opts source (s.2.isMarked marked) s.1) ++
        opts.closing (root.shown opts).length := by
  have hlength : (root.walk opts 0 opts.maxNodes.toNat).1.length = (root.shown opts).length := by
    rw [walk_eq, List.length_map, shown]
  rw [← map_line_walk, ← hlength]
  rfl

end Node

/-! ## The last line -/

namespace Node.InPreorder

variable {root : Node} {holds : Position → Node → Prop} {sites : List (Position × Node)}

/-- What lies in document order does not fit into the room exactly if something is left out. -/
theorem exists_left_out_iff (h : root.InPreorder holds sites) {room : Nat} :
    (∃ s ∈ sites, s ∉ sites.take room) ↔ room < sites.length := by
  constructor
  · intro hout
    obtain ⟨s, hs, hnot⟩ := hout
    by_cases hroom : room < sites.length
    · exact hroom
    · rw [List.take_of_length_le (by omega)] at hnot
      exact absurd hs hnot
  · intro hroom
    refine ⟨sites[room], List.getElem_mem hroom, ?_⟩
    intro hmem
    -- it would come before itself
    have hordered := h.ascending
    rw [← List.take_append_drop room sites, List.pairwise_append] at hordered
    have hrest : sites[room] ∈ sites.drop room := by
      rw [List.drop_eq_getElem_cons hroom]
      exact List.mem_cons_self ..
    exact List.lt_irrefl _ (hordered.2.2 _ hmem _ hrest)

end Node.InPreorder

/-- The root is let through, so that something is left out if there is no room at all. -/
theorem ListingOptions.full_iff (opts : ListingOptions) (root : Node) :
    opts.maxNodes ≤ (root.shown opts).length ↔
      opts.maxNodes.toNat < (root.within opts 0).length ∨
        ((root.within opts 0).length : Int) = opts.maxNodes := by
  have hroot : 0 < (root.within opts 0).length :=
    List.length_pos_of_mem (Node.nil_mem_within.mpr rfl)
  rw [Node.shown, List.length_take]
  omega

/-- **When a listing says that it stopped.** The last line stands behind the lines of the nodes if
and only if some node within the depth limit is left out or these nodes just fit. Without it the
listing has the lines of the nodes alone. -/
theorem truncation_told (opts : ListingOptions) (source : Bytes) (marked : List Nat) (root : Node) :
    ∃ sites, root.InPreorder (fun p _ => opts.Reaches p) sites ∧
      (root.listing opts source marked =
          (sites.take opts.maxNodes.toNat).map
            (fun s => s.2.lineAt opts source (s.2.isMarked marked) s.1) ++ [opts.notice] ↔
        (∃ s ∈ sites, s ∉ sites.take opts.maxNodes.toNat) ∨
          (sites.length : Int) = opts.maxNodes) ∧
      (root.listing opts source marked =
          (sites.take opts.maxNodes.toNat).map
            (fun s => s.2.lineAt opts source (s.2.isMarked marked) s.1) ↔
        ¬ ((∃ s ∈ sites, s ∉ sites.take opts.maxNodes.toNat) ∨
          (sites.length : Int) = opts.maxNodes)) := by
  have hsites := root.inPreorder_within opts
  refine ⟨_, hsites, ?_⟩
  rw [hsites.exists_left_out_iff, ← opts.full_iff, Node.listing_eq, Node.shown]
  constructor
  · rw [List.append_cancel_left_eq]
    exact opts.closing_eq_notice
  · rw [List.append_right_eq_self]
    exact opts.closing_eq_nil

/-! A tree of one node, and room for one node. -/

namespace OneNode

def root : Node := .mk { kind := "program", start := 0, stop := 0, named := true } []

def opts : ListingOptions := { maxNodes := 1 }

end OneNode

/-- Nothing is left out, and yet the listing says that it stopped. -/
theorem fitting_listing_truncated :
    ∃ sites, OneNode.root.InPreorder (fun p _ => OneNode.opts.Reaches p) sites ∧
      (∀ s ∈ sites, s ∈ sites.take OneNode.opts.maxNodes.toNat) ∧
      OneNode.root.listing OneNode.opts [] [] =
        ["program [1:0-1:0] :: ", "  … (truncated at 1 nodes)"] := by
  refine ⟨_, OneNode.root.inPreorder_within OneNode.opts, ?_, by decide +kernel⟩
  intro s hs
  exact hs

end Unbundle
