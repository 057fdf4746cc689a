import Unbundle.Proofs.Conservation

/-!
# Sound trees

Trees are taken as they come, and a split refuses spans that overlap or leave the text. From a
sound tree no such spans come: a search keeps the nesting and the order of the nodes
(`Node.Sound.gather_within`, `Node.Sound.gather_ordered`), and a callable with a name has a child
with text and so covers at least one byte (`Callable.span_of_ofNode`). So the callables of a sound
tree can always be taken out (`sound_tree_rewrites`).
-/

namespace Unbundle

/-! ## Searches in sound trees -/

/-- A tree in which the nodes directly inside a node lie within it, one after the other. -/
inductive Node.Sound : Node → Prop
  | mk {info : NodeInfo} {children : List Node}
      (inside : ∀ c ∈ children, info.start ≤ c.info.start ∧ c.info.stop ≤ info.stop)
      (ordered : children.Pairwise fun c d => c.info.stop ≤ d.info.start)
      (each : ∀ c ∈ children, c.Sound) : Sound (.mk info children)

theorem gatherAll_eq_flatMap (visit : NodeInfo → Visit) :
    ∀ nodes : List Node, gatherAll visit nodes = nodes.flatMap (·.gather visit)
  | [] => by rw [gatherAll, List.flatMap_nil]
  | node :: rest => by rw [gatherAll, List.flatMap_cons, gatherAll_eq_flatMap visit rest]

namespace Node.Sound

variable {visit : NodeInfo → Visit} {node : Node}

theorem inside (h : node.Sound) {c : Node} (hc : c ∈ node.children) :
    c.Sound ∧ node.info.start ≤ c.info.start ∧ c.info.stop ≤ node.info.stop := by
  cases h with
  | mk inside _ each => exact ⟨each c hc, inside c hc⟩

/-- What a search takes lies within the tree. -/
theorem gather_within (h : node.Sound) {n : Node} (hn : n ∈ node.gather visit) :
    n.Sound ∧ node.info.start ≤ n.info.start ∧ n.info.stop ≤ node.info.stop := by
  induction h with
  | @mk info children inside ordered each ih =>
    rw [gather] at hn
    split at hn
    next =>
      rw [List.mem_singleton.mp hn]
      exact ⟨.mk inside ordered each, Nat.le_refl _, Nat.le_refl _⟩
    next =>
      rw [gatherAll_eq_flatMap] at hn
      obtain ⟨c, hc, hn⟩ := List.mem_flatMap.mp hn
      obtain ⟨hsound, hstart, hstop⟩ := ih c hc hn
      exact ⟨hsound, Nat.le_trans (inside c hc).1 hstart, Nat.le_trans hstop (inside c hc).2⟩
    next => exact absurd hn List.not_mem_nil

/-- Nodes that stand one after the other keep that order in a search. -/
theorem gatherAll_ordered {nodes : List Node} (hsound : ∀ c ∈ nodes, c.Sound)
    (hordered : nodes.Pairwise fun c d => c.info.stop ≤ d.info.start)
    (heach : ∀ c ∈ nodes, (c.gather visit).Pairwise fun m n => m.info.stop ≤ n.info.start) :
    (gatherAll visit nodes).Pairwise fun m n => m.info.stop ≤ n.info.start := by
  rw [gatherAll_eq_flatMap, List.pairwise_flatMap]
  refine ⟨heach, hordered.imp_of_mem fun {c d} hc hd hcd m hm n hn => ?_⟩
  have hm := (hsound c hc).gather_within hm
  have hn := (hsound d hd).gather_within hn
  omega

theorem gather_ordered (h : node.Sound) :
    (node.gather visit).Pairwise fun m n => m.info.stop ≤ n.info.start := by
  induction h with
  | @mk info children inside ordered each ih =>
    rw [gather]
    split
    next => exact List.pairwise_singleton ..
    next => exact gatherAll_ordered each ordered ih
    next => exact .nil

end Node.Sound

/-! ## Callables of sound trees -/

namespace Callable

variable {source : Bytes} {node : Node} {c : Callable}

theorem definingNodes_within {root : Node} (h : root.Sound) (hn : node ∈ definingNodes root) :
    node.Sound ∧ root.info.start ≤ node.info.start ∧ node.info.stop ≤ root.info.stop := by
  rw [definingNodes, gatherAll_eq_flatMap] at hn
  obtain ⟨child, hchild, hn⟩ := List.mem_flatMap.mp hn
  obtain ⟨hsound, hinside⟩ := h.inside hchild
  obtain ⟨hnode, hwithin⟩ := hsound.gather_within hn
  exact ⟨hnode, by omega, by omega⟩

theorem definingNodes_ordered {root : Node} (h : root.Sound) :
    (definingNodes root).Pairwise fun m n => m.info.stop ≤ n.info.start := by
  cases h with
  | mk inside ordered each =>
    exact Node.Sound.gatherAll_ordered each ordered fun c hc => (each c hc).gather_ordered

/-- A node with text covers at least one byte. -/
theorem lt_of_trimmedText (h : trimmedText source node ≠ "") :
    node.info.start < node.info.stop := by
  refine Nat.lt_of_not_le fun hle => h ?_
  have hbytes : node.bytes source = [] := by
    rw [Node.bytes, List.drop_eq_nil_iff, List.length_take]
    omega
  rw [trimmedText, Node.text, hbytes]
  decide +kernel

/-- A name is the text of a node directly inside. -/
theorem exists_child_of_nameOf (h : nameOf source node ≠ "") :
    ∃ child ∈ node.children, trimmedText source child ≠ "" := by
  unfold nameOf at h
  split at h
  next child hfind => exact ⟨child, List.mem_of_find?_eq_some hfind, h⟩
  next =>
    split at h
    next first second rest hchildren => exact ⟨second, by rw [hchildren]; simp, h⟩
    next => exact absurd rfl h

theorem nameOf_of_ofNode (h : ofNode? source node = some c) :
    nameOf source node ≠ "" ∧ c.start = node.info.start ∧ c.stop = node.info.stop := by
  obtain ⟨hname, hc⟩ := Option.ite_none_left_eq_some.mp h
  obtain rfl := Option.some.inj hc
  refine ⟨fun hempty => hname ?_, rfl, rfl⟩
  rw [hempty]
  rfl

/-- A callable of a sound node covers at least one byte. -/
theorem span_of_ofNode (hsound : node.Sound) (h : ofNode? source node = some c) :
    c.start < c.stop ∧ c.start = node.info.start ∧ c.stop = node.info.stop := by
  obtain ⟨hname, hstart, hstop⟩ := nameOf_of_ofNode h
  obtain ⟨child, hchild, htext⟩ := exists_child_of_nameOf hname
  have hlt := lt_of_trimmedText htext
  have hinside := hsound.inside hchild
  exact ⟨by omega, hstart, hstop⟩

theorem locate_within {root : Node} (h : root.Sound) (hc : c ∈ locate source root) :
    root.info.start ≤ c.start ∧ c.start < c.stop ∧ c.stop ≤ root.info.stop := by
  obtain ⟨node, hnode, hc⟩ := List.mem_filterMap.mp hc
  obtain ⟨hsound, hwithin⟩ := definingNodes_within h hnode
  obtain ⟨hlt, hstart, hstop⟩ := span_of_ofNode hsound hc
  exact ⟨by omega, hlt, by omega⟩

theorem locate_ordered {root : Node} (h : root.Sound) :
    (locate source root).Pairwise fun c d => c.start < d.start ∧ c.stop ≤ d.start := by
  refine List.pairwise_filterMap.mpr ?_
  refine (definingNodes_ordered h).imp_of_mem fun {m n} hm hn hmn c hc d hd => ?_
  have hc := span_of_ofNode (definingNodes_within h hm).1 hc
  have hd := span_of_ofNode (definingNodes_within h hn).1 hd
  omega

end Callable

/-! ## Rewriting modules with sound trees -/

/-- The callables of a sound tree weave the text. -/
theorem Weave.exists_of_sound {text : String} {root : Node} (hsound : root.Sound)
    (hinside : root.info.stop ≤ (Utf8.encode text).length) (haligned : Aligned text root) :
    ∃ w : Weave, w.callables = Callable.locate (Utf8.encode text) root ∧
      w.whole = text.toList ∧ w.InPlace := by
  have hlies : ∀ c ∈ (Callable.locate (Utf8.encode text) root).reverse,
      c.LiesIn text.toList := fun c hc =>
    have hmem := List.mem_reverse.mp hc
    ⟨(haligned c hmem).1, (haligned c hmem).2, Callable.text_of_mem_locate hmem⟩
  have hwithin : ∀ c ∈ (Callable.locate (Utf8.encode text) root).reverse,
      c.start ≤ c.stop ∧ c.stop ≤ (Utf8.encodeChars text.toList).length := fun c hc => by
    have hspan := Callable.locate_within hsound (List.mem_reverse.mp hc)
    change _ ∧ _ ≤ ((Utf8.encode text).length : Int)
    omega
  obtain ⟨w, hcallables, hwhole, hplace⟩ := exists_of_descending (List.append_nil _).symm hlies
    hwithin (List.pairwise_reverse.mpr ((Callable.locate_ordered hsound).imp And.right))
  exact ⟨w, by rw [hcallables, List.reverse_reverse], hwhole, hplace⟩

/-- A plan without skips has an assembly. -/
theorem Assembly.exists_ofPlan {plan : Plan} (hskip : plan.anySkip = false) (loader : String) :
    ∃ assembly, Assembly.ofPlan plan loader = .ok assembly := by
  unfold Assembly.ofPlan
  rw [hskip]
  exact ⟨_, rfl⟩

/-- **A sound tree gives no trouble.** If a tree is sound, ends within its text and puts callables
on character boundaries, then the callables cover bytes of the text, one after the other, and every
plan for all of them that skips none leads to a new module, whatever trees the later parses
give. -/
theorem sound_tree_rewrites {text : String} {root : Node} (hsound : root.Sound)
    (hinside : root.info.stop ≤ (Utf8.encode text).length) (haligned : Aligned text root) :
    (∀ c ∈ Callable.locate (Utf8.encode text) root,
      0 ≤ c.start ∧ c.start < c.stop ∧ c.stop ≤ (Utf8.encode text).length) ∧
    (Callable.locate (Utf8.encode text) root).Pairwise
      (fun c d => c.start < d.start ∧ c.stop ≤ d.start) ∧
    ∀ (plan : Plan) (loader : String) (parser : Nat → String → Node), plan.anySkip = false →
      (plan.outcomes.map (·.callable)).Perm (Callable.locate (Utf8.encode text) root) →
      ∃ assembly result, Assembly.ofPlan plan loader = .ok assembly ∧
        (assembly.apply (.always parser) text).result = .ok result := by
  refine ⟨fun c hc => ?_, Callable.locate_ordered hsound, ?_⟩
  · have hspan := Callable.locate_within hsound hc
    omega
  · intro plan loader parser hskip hplanned
    obtain ⟨assembly, hassembly⟩ := Assembly.exists_ofPlan hskip loader
    obtain ⟨-, -, hperm⟩ := Assembly.ofPlan_ok hassembly
    obtain ⟨w, hcallables, hwhole, hplace⟩ := Weave.exists_of_sound hsound hinside haligned
    have hremoved := Assembly.withoutCallables_inPlace hplace hwhole
      (hcallables ▸ (Callable.locate_ordered hsound).imp And.left)
      (hcallables ▸ hperm.trans hplanned)
    obtain ⟨lines, happly⟩ := Assembly.apply_of_removed parser hremoved
    exact ⟨assembly, _, hassembly, happly⟩

theorem sound_sample : Sample.root.Sound := by
  have hleaf : ∀ info, Node.Sound (.mk info []) := fun info =>
    .mk (by simp) .nil (by simp)
  refine .mk (by decide) (by decide) (List.forall_mem_cons.mpr ⟨hleaf _, ?_⟩)
  refine List.forall_mem_singleton.mpr (.mk (by decide) (by decide) ?_)
  refine List.forall_mem_singleton.mpr (.mk (by decide) (by decide) ?_)
  simp [hleaf]

/-- The callable of the sample stands behind a character of two bytes, and its plan leads to a new
module. -/
theorem sound_tree_rewrites_sample :
    Sample.root.Sound ∧ Sample.root.info.stop ≤ (Utf8.encode Sample.text).length ∧
    Aligned Sample.text Sample.root ∧
    (Callable.locate (Utf8.encode Sample.text) Sample.root).map (fun c => (c.start, c.stop)) =
      [(5, 18)] ∧
    ∃ assembly result,
      Assembly.ofPlan (.make (Callable.locate (Utf8.encode Sample.text) Sample.root) Sample.path
        ".ps1" fun _ => false) "loader" = .ok assembly ∧
      (assembly.apply (.always fun _ _ => Sample.rest) Sample.text).result = .ok result := by
  have hend : Sample.root.info.stop ≤ (Utf8.encode Sample.text).length := by decide +kernel
  refine ⟨sound_sample, hend, aligned_sample, by decide +kernel, ?_⟩
  refine (sound_tree_rewrites sound_sample hend aligned_sample).2.2 _ _ _
    (by decide +kernel) ?_
  exact List.Perm.of_eq (planFrom_callables ..)

end Unbundle
