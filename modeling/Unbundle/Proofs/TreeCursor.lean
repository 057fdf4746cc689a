import Unbundle.Proofs.Listing

/-!
# Listing with a cursor

A tree can be listed with one cursor that is moved about in it, to the first child, to the next
sibling and back to the parent, and one counter of the nodes that were listed. `Visits` has the
rules of such a visit: it does nothing once the counter is at its limit, and it does not go inside a
node at the depth limit. However a visit ends, early or not, it leaves the cursor where it was, and
what it lists is what a walk with the room that is left takes (`Visits.result`). There is a visit
from every cursor (`exists_visits`). So a visit of a tree lists the beginning of the nodes within
the depth limit (`listing_starts_preorder`).
-/

namespace Unbundle

/-- A parent on the way to a cursor, and its children before and after the way, those next to it
first. -/
structure Frame where
  info : NodeInfo
  before : List Node
  after : List Node

/-- A place in a tree where one can move about: the node there and its parents, the innermost
first. -/
structure Cursor where
  node : Node
  above : List Frame

namespace Cursor

def atRoot (root : Node) : Cursor := ⟨root, []⟩

def firstChild? : Cursor → Option Cursor
  | ⟨.mk info (first :: rest), above⟩ => some ⟨first, ⟨info, [], rest⟩ :: above⟩
  | _ => none

def nextSibling? : Cursor → Option Cursor
  | ⟨node, ⟨info, before, next :: after⟩ :: above⟩ =>
    some ⟨next, ⟨info, node :: before, after⟩ :: above⟩
  | _ => none

/-- The parent. A cursor at the root stays there. -/
def parent : Cursor → Cursor
  | ⟨node, ⟨info, before, after⟩ :: above⟩ =>
    ⟨.mk info (before.reverse ++ node :: after), above⟩
  | c => c

/-- The field of the node in its parent. -/
def field (c : Cursor) : Option String := if c.above = [] then none else c.node.info.field

/-- The node and its siblings after it. -/
def ahead (c : Cursor) : List Node := c.node :: (c.above.head?.map (·.after)).getD []

/-- The line of the node. -/
def line (opts : ListingOptions) (source : Bytes) (marked : List Nat) (depth : Nat) (c : Cursor) :
    String :=
  c.node.lineWith opts source (c.node.isMarked marked) depth c.field

/-! ## Moves -/

variable {c d : Cursor}

theorem children_of_firstChild?_eq_none (h : c.firstChild? = none) : c.node.children = [] := by
  obtain ⟨⟨info, children⟩, above⟩ := c
  cases children with
  | nil => rfl
  | cons first rest => cases h

theorem firstChild?_eq_some (h : c.firstChild? = some d) :
    d.ahead = c.node.children ∧ d.parent = c ∧ d.above.length = c.above.length + 1 := by
  obtain ⟨⟨info, children⟩, above⟩ := c
  cases children with
  | nil => cases h
  | cons first rest =>
    obtain rfl := Option.some.inj h
    exact ⟨rfl, rfl, rfl⟩

theorem ahead_of_nextSibling?_eq_none (h : c.nextSibling? = none) : c.ahead = [c.node] := by
  obtain ⟨node, above⟩ := c
  cases above with
  | nil => rfl
  | cons frame above =>
    obtain ⟨info, before, after⟩ := frame
    cases after with
    | nil => rfl
    | cons next after => cases h

theorem nextSibling?_eq_some (h : c.nextSibling? = some d) :
    c.ahead = c.node :: d.ahead ∧ d.parent = c.parent ∧ d.above.length = c.above.length := by
  obtain ⟨node, above⟩ := c
  cases above with
  | nil => cases h
  | cons frame above =>
    obtain ⟨info, before, after⟩ := frame
    cases after with
    | nil => cases h
    | cons next after =>
      obtain rfl := Option.some.inj h
      refine ⟨rfl, ?_, rfl⟩
      simp [parent]

/-- The line of a node at its own depth. -/
theorem line_eq (opts : ListingOptions) (source : Bytes) (marked : List Nat) (c : Cursor) :
    c.line opts source marked c.above.length =
      (⟨c.above.length, c.node⟩ : Placed).line opts source marked := by
  rw [line, Placed.line_eq, field]
  simp only [List.length_eq_zero_iff]

end Cursor

/-! ## Visits -/

mutual

/-- From a cursor at `depth`, when `count` nodes were listed before, a visit lists some lines, and
then there are another count and another cursor. -/
inductive Visits (opts : ListingOptions) (source : Bytes) (marked : List Nat) :
    Nat → Nat → Cursor → List String → Nat → Cursor → Prop
  | full {depth count : Nat} {c} : opts.maxNodes ≤ count →
    Visits opts source marked depth count c [] count c
  | bottom {depth count : Nat} {c} : ¬ opts.maxNodes ≤ count → opts.descends depth = false →
    Visits opts source marked depth count c [c.line opts source marked depth] (count + 1) c
  | leaf {depth count : Nat} {c} : ¬ opts.maxNodes ≤ count → opts.descends depth = true →
    c.firstChild? = none →
    Visits opts source marked depth count c [c.line opts source marked depth] (count + 1) c
  | inside {depth count : Nat} {c first lines count' last} : ¬ opts.maxNodes ≤ count →
    opts.descends depth = true → c.firstChild? = some first →
    VisitsRow opts source marked (depth + 1) (count + 1) first lines count' last →
    Visits opts source marked depth count c (c.line opts source marked depth :: lines) count'
      last.parent

/-- The same for a cursor and, one after the other, the siblings after it. -/
inductive VisitsRow (opts : ListingOptions) (source : Bytes) (marked : List Nat) :
    Nat → Nat → Cursor → List String → Nat → Cursor → Prop
  | last {depth count c lines count' c'} : Visits opts source marked depth count c lines count' c' →
    c'.nextSibling? = none → VisitsRow opts source marked depth count c lines count' c'
  | more {depth count c lines count' c' next lines' count'' last} :
    Visits opts source marked depth count c lines count' c' → c'.nextSibling? = some next →
    VisitsRow opts source marked depth count' next lines' count'' last →
    VisitsRow opts source marked depth count c (lines ++ lines') count'' last

end

/-- The nodes that may still be listed. -/
def ListingOptions.room (opts : ListingOptions) (count : Nat) : Nat := (opts.maxNodes - count).toNat

section Result

variable {opts : ListingOptions} {source : Bytes} {marked : List Nat}

/-- A walk uses up as much room as it takes nodes. -/
theorem Node.walk_left (opts : ListingOptions) (depth room : Nat) (root : Node) :
    (root.walk opts depth room).2 = room - (root.walk opts depth room).1.length := by
  rw [walk_eq]
  simp only [List.length_map, List.length_take]
  omega

theorem ListingOptions.room_full {count : Nat} (h : opts.maxNodes ≤ count) :
    opts.room count = 0 := by
  unfold room
  omega

theorem ListingOptions.room_succ {count : Nat} (h : ¬ opts.maxNodes ≤ count) :
    opts.room count = opts.room (count + 1) + 1 := by
  unfold room
  omega

theorem ListingOptions.room_add (count used : Nat) :
    opts.room (count + used) = opts.room count - used := by
  unfold room
  omega

/-- What a walk takes that has room for a node. -/
theorem Node.walk_succ (opts : ListingOptions) (depth room : Nat) (root : Node) :
    (root.walk opts depth (room + 1)).1 = ⟨depth, root⟩ ::
      if opts.descends depth then (walkAll opts (depth + 1) room root.children).1 else [] := by
  cases root with
  | mk info children =>
    rw [walk]
    cases opts.descends depth with
    | false => rfl
    | true => rfl

/-- A visit from a node leaves the cursor where it was and lists what a walk takes. -/
def Node.VisitedWell (opts : ListingOptions) (source : Bytes) (marked : List Nat) (n : Node) :
    Prop :=
  ∀ depth count c lines count' c', c.node = n → depth = c.above.length →
    Visits opts source marked depth count c lines count' c' →
    lines = (n.walk opts depth (opts.room count)).1.map (·.line opts source marked) ∧
      count' = count + lines.length ∧ c' = c

/-- A visit of siblings lists what a walk takes of them, and leaves the cursor under its parent. -/
theorem VisitsRow.result {nodes : List Node}
    (heach : ∀ n ∈ nodes, n.VisitedWell opts source marked) {depth count count' : Nat}
    {c last : Cursor} {lines : List String} (hahead : c.ahead = nodes)
    (hdepth : depth = c.above.length)
    (h : VisitsRow opts source marked depth count c lines count' last) :
    lines = (walkAll opts depth (opts.room count) nodes).1.map (·.line opts source marked) ∧
      count' = count + lines.length ∧ last.parent = c.parent := by
  induction nodes generalizing count c lines with
  | nil => cases hahead
  | cons node rest ih =>
    obtain ⟨hnode, hrest⟩ := List.forall_mem_cons.mp heach
    have hc : c.node = node := (List.cons.inj hahead).1
    cases h with
    | last hvisit hnone =>
      obtain ⟨hlines, hcount, rfl⟩ := hnode _ _ _ _ _ _ hc hdepth hvisit
      rw [Cursor.ahead_of_nextSibling?_eq_none hnone] at hahead
      obtain rfl := (List.cons.inj hahead).2
      refine ⟨?_, hcount, rfl⟩
      rw [hlines]
      simp [walkAll]
    | more hvisit hnext hrow =>
      obtain ⟨hlines, hcount, rfl⟩ := hnode _ _ _ _ _ _ hc hdepth hvisit
      obtain ⟨hnodes, hparent, hlength⟩ := Cursor.nextSibling?_eq_some hnext
      obtain ⟨-, hrest'⟩ := List.cons.inj (hnodes.symm.trans hahead)
      obtain ⟨hlines', hcount', hlast⟩ := ih hrest hrest' (hdepth.trans hlength.symm) hrow
      refine ⟨?_, ?_, hlast.trans hparent⟩
      · -- the siblings get the room that the first node leaves
        have hleft := node.walk_left opts depth (opts.room count)
        rw [hcount, ListingOptions.room_add, hlines, List.length_map, ← hleft] at hlines'
        rw [walkAll, hlines, hlines', List.map_append]
      · rw [hcount', hcount, List.length_append]
        omega

theorem Node.visitedWell (opts : ListingOptions) (source : Bytes) (marked : List Nat) (n : Node) :
    n.VisitedWell opts source marked := by
  induction n using Node.induction with
  | step info children ih =>
    intro depth count c lines count' c' hc hdepth h
    rw [← hc]
    subst hdepth
    cases h with
    | full hfull =>
      rw [ListingOptions.room_full hfull, hc]
      exact ⟨rfl, rfl, rfl⟩
    | bottom hroom hbottom =>
      rw [ListingOptions.room_succ hroom, walk_succ, hbottom, Cursor.line_eq]
      exact ⟨rfl, rfl, rfl⟩
    | leaf hroom hdescends hleaf =>
      rw [ListingOptions.room_succ hroom, walk_succ, hdescends, Cursor.line_eq,
        Cursor.children_of_firstChild?_eq_none hleaf]
      exact ⟨rfl, rfl, rfl⟩
    | inside hroom hdescends hfirst hrow =>
      obtain ⟨hahead, hparent, hlength⟩ := Cursor.firstChild?_eq_some hfirst
      have heach : ∀ n ∈ c.node.children, n.VisitedWell opts source marked := by
        rw [hc]
        exact ih
      obtain ⟨hlines, hcount, hlast⟩ := hrow.result heach hahead hlength.symm
      refine ⟨?_, ?_, hlast.trans hparent⟩
      · rw [ListingOptions.room_succ hroom, walk_succ, hdescends, Cursor.line_eq, hlines]
        rfl
      · rw [hcount, List.length_cons]
        omega

/-- **A visit leaves the cursor where it was**, however it ends, and lists what a walk takes. -/
theorem Visits.result {depth count count' : Nat} {c c' : Cursor} {lines : List String}
    (h : Visits opts source marked depth count c lines count' c')
    (hdepth : depth = c.above.length) :
    lines = (c.node.walk opts depth (opts.room count)).1.map (·.line opts source marked) ∧
      count' = count + lines.length ∧ c' = c :=
  c.node.visitedWell opts source marked _ _ _ _ _ _ rfl hdepth h

end Result

/-! ## Visits end -/

section Existence

variable {opts : ListingOptions} {source : Bytes} {marked : List Nat}

theorem exists_visitsRow {nodes : List Node}
    (heach : ∀ n ∈ nodes, ∀ depth count c, c.node = n → depth = c.above.length →
      ∃ lines count' c', Visits opts source marked depth count c lines count' c')
    (depth count : Nat) (c : Cursor) (hahead : c.ahead = nodes) (hdepth : depth = c.above.length) :
    ∃ lines count' last, VisitsRow opts source marked depth count c lines count' last := by
  induction nodes generalizing count c with
  | nil => cases hahead
  | cons node rest ih =>
    obtain ⟨hnode, hrest⟩ := List.forall_mem_cons.mp heach
    obtain ⟨lines, count', c', hvisit⟩ := hnode depth count c (List.cons.inj hahead).1 hdepth
    obtain ⟨-, -, rfl⟩ := hvisit.result hdepth
    cases hnext : c'.nextSibling? with
    | none => exact ⟨_, _, _, .last hvisit hnext⟩
    | some next =>
      obtain ⟨hnodes, -, hlength⟩ := Cursor.nextSibling?_eq_some hnext
      obtain ⟨-, hrest'⟩ := List.cons.inj (hnodes.symm.trans hahead)
      obtain ⟨lines', count'', last, hrow⟩ :=
        ih hrest count' next hrest' (hdepth.trans hlength.symm)
      exact ⟨_, _, _, .more hvisit hnext hrow⟩

/-- There is a visit from every cursor. -/
theorem exists_visits (node : Node) (depth count : Nat) (c : Cursor) (hc : c.node = node)
    (hdepth : depth = c.above.length) :
    ∃ lines count' c', Visits opts source marked depth count c lines count' c' := by
  induction node using Node.induction generalizing depth count c with
  | step info children ih =>
    by_cases hfull : opts.maxNodes ≤ count
    · exact ⟨_, _, _, .full hfull⟩
    · cases hdescends : opts.descends depth with
      | false => exact ⟨_, _, _, .bottom hfull hdescends⟩
      | true =>
        cases hfirst : c.firstChild? with
        | none => exact ⟨_, _, _, .leaf hfull hdescends hfirst⟩
        | some first =>
          obtain ⟨hahead, -, hlength⟩ := Cursor.firstChild?_eq_some hfirst
          rw [hc] at hahead
          obtain ⟨lines, count', last, hrow⟩ :=
            exists_visitsRow ih (depth + 1) (count + 1) first hahead (by omega)
          exact ⟨_, _, _, .inside hfull hdescends hfirst hrow⟩

end Existence

/-- **A listing shows the beginning of the nodes within the depth limit, in document order.** These
are the root and what is not deeper than the limit, if there is one. The listing has the lines of as
many of them as there is room for, each with the depth and the field of its node, and none of them
is listed twice; only the last line may be added. To visit the tree with one cursor and one counter
gives the same lines, whether it stops early or not, and the cursor is at the root again. -/
theorem listing_starts_preorder (opts : ListingOptions) (source : Bytes) (marked : List Nat)
    (root : Node) :
    ∃ sites, root.InPreorder (fun p _ => opts.Reaches p) sites ∧ (sites.map (·.1)).Nodup ∧
      root.listing opts source marked =
        (sites.take opts.maxNodes.toNat).map
          (fun s => s.2.lineAt opts source (s.2.isMarked marked) s.1) ++
          opts.closing (sites.take opts.maxNodes.toNat).length ∧
      (∃ lines count c, Visits opts source marked 0 0 (.atRoot root) lines count c) ∧
      ∀ lines count c, Visits opts source marked 0 0 (.atRoot root) lines count c →
        lines = (sites.take opts.maxNodes.toNat).map
          (fun s => s.2.lineAt opts source (s.2.isMarked marked) s.1) ∧
        count = lines.length ∧ c = .atRoot root := by
  have hsites := root.inPreorder_within opts
  refine ⟨_, hsites, hsites.nodup, root.listing_eq opts source marked,
    exists_visits root 0 0 _ rfl rfl, ?_⟩
  intro lines count c hvisit
  obtain ⟨hlines, hcount, hc⟩ := hvisit.result rfl
  refine ⟨?_, by omega, hc⟩
  have hroom : opts.room 0 = opts.maxNodes.toNat := by
    unfold ListingOptions.room
    omega
  rw [hlines, hroom]
  exact root.map_line_walk opts source marked

end Unbundle
