import Unbundle.Proofs.TopLevel

/-!
# Complaints

A tree flags the nodes that have a faulty one in them, and the search for complaints leaves nodes
without the flag alone. If the flags are right, it misses nothing: it finds the outermost faulty
nodes (`diagnostics_outermost`), because everything above a faulty node is flagged
(`Node.Flagged.takes_iff`). In a nested tree their ranges follow each other
(`OutermostFault.apart`).

A complaint is dropped if its range lies within that of a callable. In a nested tree this means that
its node is inside the callable, with two exceptions (`Node.Nested.within_iff`): a node without
bytes at an end of the callable, and a node around the callable that covers no more than the
callable. So what is kept are the complaints outside the callables, apart from these
(`complaints_outside`), and a complaint about the text right behind a callable can get lost
(`inserted_number_concealed`).
-/

namespace Unbundle

/-- Whether a node was inserted or could not be read. -/
def NodeInfo.Faulty (info : NodeInfo) : Prop := info.missing = true ∨ info.kind = errorKind

instance {info : NodeInfo} : Decidable info.Faulty := inferInstanceAs (Decidable (_ ∨ _))

namespace Node

/-- A node has the flag exactly if something in it is faulty, itself included. -/
def IsFlaggedRight (n : Node) : Prop :=
  n.info.hasError = true ↔ n.Somewhere (·.info.Faulty)

instance {n : Node} : Decidable n.IsFlaggedRight := inferInstanceAs (Decidable (_ ↔ _))

/-- Every node of a tree is flagged right. -/
def Flagged (root : Node) : Prop := root.Throughout IsFlaggedRight

instance {root : Node} : Decidable root.Flagged :=
  inferInstanceAs (Decidable (root.Throughout _))

/-- The ranges directly inside a node lie within its own, one after the other. -/
def IsNested (n : Node) : Prop :=
  (∀ c ∈ n.children, n.info.start ≤ c.info.start ∧ c.info.start ≤ c.info.stop ∧
    c.info.stop ≤ n.info.stop) ∧
  n.children.Pairwise fun c d => c.info.stop ≤ d.info.start

instance {n : Node} : Decidable n.IsNested := inferInstanceAs (Decidable (_ ∧ _))

/-- Every node of a tree has its children nested. -/
def Nested (root : Node) : Prop := root.Throughout IsNested

instance {root : Node} : Decidable root.Nested := inferInstanceAs (Decidable (root.Throughout _))

/-- The node `n` at `p` is faulty, and nothing above it is. -/
def OutermostFault (root : Node) (p : Position) (n : Node) : Prop :=
  n.info.Faulty ∧ ∀ q m, root.Above p q m → ¬ m.info.Faulty

end Node

/-! ## Flags -/

theorem complaintVisit_eq_take_iff {info : NodeInfo} :
    complaintVisit info = .take ↔ info.Faulty := by
  unfold complaintVisit NodeInfo.Faulty
  cases info.missing <;> cases info.hasError <;> simp

theorem complaintVisit_eq_enter_iff {info : NodeInfo} :
    complaintVisit info = .enter ↔ ¬ info.Faulty ∧ info.hasError = true := by
  unfold complaintVisit NodeInfo.Faulty
  cases info.missing <;> cases info.hasError <;> simp [ite_eq_iff]

namespace Node

variable {root : Node} {p : Position} {n : Node}

/-- If the flags are right, the search takes the outermost faulty nodes. -/
theorem Flagged.takes_iff (h : root.Flagged) (hn : root.at? p = some n) :
    root.Takes complaintVisit p n ↔ root.OutermostFault p n := by
  simp only [Takes, OutermostFault, complaintVisit_eq_take_iff, complaintVisit_eq_enter_iff]
  refine and_congr_right fun hfaulty => forall_congr' fun q => forall_congr' fun m =>
    imp_congr_right fun habove => and_iff_left_of_imp fun _ => ?_
  -- what is above a faulty node has one inside
  obtain ⟨r, hr⟩ := habove.inside hn
  exact (h q m habove.2.2).mpr ⟨r, n, hr, hfaulty⟩

theorem Flagged.inPreorder (h : root.Flagged) :
    root.InPreorder root.OutermostFault (root.taken complaintVisit) :=
  (root.inPreorder_taken complaintVisit).congr fun _ _ => h.takes_iff

theorem Flagged.diagnostics_eq (h : root.Flagged) (source : Bytes) :
    root.diagnostics source =
      (root.taken complaintVisit).map fun s => s.2.complaint source := by
  rw [diagnostics, ← map_taken, List.map_map]
  by_cases hflag : root.info.hasError = true
  · rw [if_pos hflag]
    rfl
  · have hnone : root.taken complaintVisit = [] := by
      refine List.eq_nil_iff_forall_not_mem.mpr fun s hs => ?_
      obtain ⟨hn, hfaulty, -⟩ := (h.inPreorder.complete s.1 s.2).mp hs
      exact hflag ((h [] root rfl).mpr ⟨s.1, s.2, hn, hfaulty⟩)
    rw [if_neg hflag, hnone]
    rfl

/-! ## Ranges -/

theorem Nested.sound (h : root.Nested) : root.Sound := by
  induction root using Node.induction with
  | step info children ih =>
    obtain ⟨⟨hinside, hordered⟩, heach⟩ := throughout_mk.mp h
    exact .mk (fun c hc => ⟨(hinside c hc).1, (hinside c hc).2.2⟩) hordered
      fun c hc => ih c hc (heach c hc)

/-- Inside the root no node ends before it starts. -/
theorem Nested.start_le_stop (h : root.Nested) (hn : root.at? p = some n) (hp : p ≠ []) :
    n.info.start ≤ n.info.stop := by
  rcases List.eq_nil_or_concat p with rfl | ⟨above, i, rfl⟩
  · exact absurd rfl hp
  · rw [List.concat_eq_append, at?_append] at hn
    obtain ⟨parent, hparent, hn⟩ := Option.bind_eq_some_iff.mp hn
    obtain ⟨child, hchild, hn⟩ := exists_child_of_at? hn
    obtain rfl := Option.some.inj hn
    exact ((h above parent hparent).1 child (List.mem_of_getElem? hchild)).2.1

/-- The first of two outermost faulty nodes is not the root, and ends before the second starts. -/
theorem OutermostFault.apart {q : Position} {m : Node} (h : root.Sound)
    (hm : root.at? p = some m) (hn : root.at? q = some n) (hfirst : root.OutermostFault p m)
    (hsecond : root.OutermostFault q n) (hlt : p < q) :
    p ≠ [] ∧ m.info.stop ≤ n.info.start := by
  have hbeside : ¬ p <+: q := by
    intro hstarts
    refine hsecond.2 p m ⟨hstarts, ?_, hm⟩ hfirst.1
    rintro rfl
    exact List.lt_irrefl _ hlt
  refine ⟨?_, h.apart hm hn hlt hbeside⟩
  rintro rfl
  exact hbeside List.nil_prefix

end Node

/-- **The search for complaints misses nothing.** If the flags of a tree are right, there is one
diagnostic for each outermost faulty node, in document order, with the range of its node. If the
tree is nested, too, the diagnostics ascend and their ranges do not overlap. -/
theorem diagnostics_outermost (source : Bytes) {root : Node} (hflagged : root.Flagged) :
    ∃ sites, root.InPreorder root.OutermostFault sites ∧
      root.diagnostics source = sites.map (fun s => s.2.complaint source) ∧
      (root.diagnostics source).map (fun d => (d.start, d.stop)) =
        sites.map (fun s => ((s.2.info.start : Int), (s.2.info.stop : Int))) ∧
      (root.Nested → (root.diagnostics source).Pairwise fun d e =>
        d.start ≤ e.start ∧ d.stop ≤ e.start) := by
  have hsites := hflagged.inPreorder
  have heq := hflagged.diagnostics_eq source
  refine ⟨_, hsites, heq, ?_, ?_⟩
  · rw [heq, List.map_map]
    rfl
  · intro hnested
    rw [heq]
    refine List.pairwise_map.mpr (hsites.ascending.imp_of_mem fun {s t} hs ht hlt => ?_)
    obtain ⟨hm, hfirst⟩ := (hsites.complete s.1 s.2).mp hs
    obtain ⟨hn, hsecond⟩ := (hsites.complete t.1 t.2).mp ht
    obtain ⟨hinside, hapart⟩ := hfirst.apart hnested.sound hm hn hsecond hlt
    have hforward := hnested.start_le_stop hm hinside
    simp only [Node.complaint]
    omega

/-! A comment that is not closed: the reader inserts a number right behind the callable, so that
what follows is a redirection. -/

namespace OpenComment

def text : String := "function Good \x7b 1 \x7d\n<# never closed\nfunction Last \x7b 3 \x7d\n"

def token (kind : String) (start stop : Nat) : Node := .mk { kind, start, stop } []

def plain (kind : String) (start stop : Nat) (children : List Node) : Node :=
  .mk { kind, start, stop, named := true } children

def flagged (kind : String) (start stop : Nat) (children : List Node) : Node :=
  .mk { kind, start, stop, named := true, hasError := true } children

def inserted : Node :=
  .mk { kind := "decimal_integer_literal", start := 19, stop := 19, named := true, missing := true,
        hasError := true } []

/-- A block that holds a number. -/
def block (start stop : Nat) : Node :=
  plain "script_block" start stop [plain "script_block_body" start stop
    [plain "statement_list" start stop [plain "decimal_integer_literal" start stop []]]]

def good : Node := plain "function_statement" 0 19
  [token "function" 0 8, plain "function_name" 9 13 [], token "\x7b" 14 15, block 16 17,
    token "\x7d" 18 19]

def redirection : Node := flagged "redirection" 20 55
  [plain "file_redirection_operator" 20 21 [token "<" 20 21], plain "comment" 21 35 [],
    flagged "ERROR" 35 49 [plain "simple_name" 35 44 [], plain "simple_name" 44 49 []],
    plain "redirected_file_name" 49 55
      [plain "command_argument_sep" 49 50 [token " " 49 50],
        plain "script_block_expression" 50 55
          [token "\x7b" 50 51, block 52 53, token "\x7d" 54 55]]]

def root : Node := flagged "program" 0 56 [flagged "statement_list" 0 55
  [good, flagged "pipeline_chain" 19 55
    [inserted, flagged "redirections" 20 55 [redirection]]]]

theorem flagged_root : root.Flagged := by decide +kernel

theorem nested_root : root.Nested := by decide +kernel

end OpenComment

/-- The inserted number and the unreadable text behind it are told; what is inside them is not. -/
theorem diagnostics_outermost_openComment :
    OpenComment.root.Flagged ∧ OpenComment.root.Nested ∧
    (OpenComment.root.diagnostics (Utf8.encode OpenComment.text)).map (fun d => (d.start, d.stop)) =
      [(19, 19), (35, 49)] ∧
    (∃ sites, OpenComment.root.InPreorder OpenComment.root.OutermostFault sites ∧
      OpenComment.root.diagnostics (Utf8.encode OpenComment.text) =
        sites.map (fun s => s.2.complaint (Utf8.encode OpenComment.text))) ∧
    (OpenComment.root.diagnostics (Utf8.encode OpenComment.text)).Pairwise fun d e =>
      d.start ≤ e.start ∧ d.stop ≤ e.start := by
  obtain ⟨sites, hsites, heq, -, hordered⟩ :=
    diagnostics_outermost (Utf8.encode OpenComment.text) OpenComment.flagged_root
  exact ⟨OpenComment.flagged_root, OpenComment.nested_root, by decide +kernel,
    ⟨sites, hsites, heq⟩, hordered OpenComment.nested_root⟩

/-! ## Complaints outside the callables -/

namespace Node

variable {root : Node} {p : Position} {n : Node}

/-- A node without bytes that stands at an end of another. -/
def Touches (n f : Node) : Prop :=
  n.info.start = n.info.stop ∧ (n.info.start = f.info.start ∨ n.info.start = f.info.stop)

/-- Two nodes that cover the same bytes. -/
def SameRange (n f : Node) : Prop :=
  n.info.start = f.info.start ∧ n.info.stop = f.info.stop

/-- **Ranges and subtrees.** In a nested tree the range of a node lies within that of a node `f`
inside the root if the node is inside `f`, and otherwise only if it has no bytes and touches `f`, or
is around `f` without covering more. -/
theorem Nested.within_iff {q : Position} {f : Node} (h : root.Nested) (hn : root.at? p = some n)
    (hf : root.at? q = some f) (hq : q ≠ []) :
    f.info.start ≤ n.info.start ∧ n.info.stop ≤ f.info.stop ↔
      q <+: p ∨ n.Touches f ∨ p <+: q ∧ n.SameRange f := by
  have hforward := h.start_le_stop hf hq
  constructor
  · rintro ⟨hstart, hstop⟩
    by_cases hinside : q <+: p
    · exact Or.inl hinside
    · by_cases haround : p <+: q
      · -- each range lies within the other
        obtain ⟨r, rfl⟩ := haround
        rw [at?_append, hn, Option.bind_some] at hf
        have hwithin := (h.sound.within hn).1.within hf
        exact Or.inr (Or.inr ⟨List.prefix_append .., by omega, by omega⟩)
      · have hp : p ≠ [] := by
          rintro rfl
          exact haround List.nil_prefix
        have hforward' := h.start_le_stop hn hp
        -- neither is inside the other, so one ends before the other starts
        refine Or.inr (Or.inl ?_)
        rcases Std.lt_trichotomy p q with hlt | rfl | hlt
        · have hapart := h.sound.apart hn hf hlt haround
          exact ⟨by omega, by omega⟩
        · exact absurd List.prefix_rfl haround
        · have hapart := h.sound.apart hf hn hlt hinside
          exact ⟨by omega, by omega⟩
  · rintro (⟨r, rfl⟩ | ⟨hempty, htouch⟩ | ⟨-, hstart, hstop⟩)
    · rw [at?_append, hf, Option.bind_some] at hn
      exact ((h.sound.within hf).1.within hn).2
    · omega
    · omega

end Node

namespace Callable

variable {source : Bytes} {root : Node} {p : Position} {n : Node}

/-- The position `p` is in the subtree of a callable that is located. -/
def Contains (source : Bytes) (root : Node) (p : Position) : Prop :=
  ∃ q f, root.at? q = some f ∧ StandsAt source root q f ∧ q <+: p

/-- The node `n` at `p` only seems to be inside a callable that is located: it has no bytes and
touches the callable, or it is around the callable and covers no more. -/
def Conceals (source : Bytes) (root : Node) (p : Position) (n : Node) : Prop :=
  ∃ q f, root.at? q = some f ∧ StandsAt source root q f ∧
    (n.Touches f ∨ p <+: q ∧ n.SameRange f)

theorem encloses_describe {f : Node} :
    (describe source f).encloses (n.complaint source) = true ↔
      f.info.start ≤ n.info.start ∧ n.info.stop ≤ f.info.stop := by
  simp [encloses, describe, Node.complaint]

/-- A complaint lies in the range of a callable if its node is inside one or seems to be. -/
theorem any_encloses_iff (h : root.Nested) (hn : root.at? p = some n) :
    (locate source root).any (·.encloses (n.complaint source)) = true ↔
      Contains source root p ∨ Conceals source root p n := by
  have hsites := inPreorder_sites source root
  rw [locate_eq, List.any_map, List.any_eq_true]
  constructor
  · rintro ⟨⟨q, f⟩, hs, hencloses⟩
    obtain ⟨hf, hstands⟩ := (hsites.complete q f).mp hs
    rcases (h.within_iff hn hf hstands.1).mp (encloses_describe.mp hencloses) with
      hinside | hseems
    · exact Or.inl ⟨q, f, hf, hstands, hinside⟩
    · exact Or.inr ⟨q, f, hf, hstands, hseems⟩
  · intro heither
    obtain ⟨q, f, hf, hstands, hwithin⟩ : ∃ q f, root.at? q = some f ∧ StandsAt source root q f ∧
        (q <+: p ∨ n.Touches f ∨ p <+: q ∧ n.SameRange f) := by
      rcases heither with ⟨q, f, hf, hstands, hinside⟩ | ⟨q, f, hf, hstands, hseems⟩
      · exact ⟨q, f, hf, hstands, Or.inl hinside⟩
      · exact ⟨q, f, hf, hstands, Or.inr hseems⟩
    exact ⟨(q, f), (hsites.complete q f).mpr ⟨hf, hstands⟩,
      encloses_describe.mpr ((h.within_iff hn hf hstands.1).mpr hwithin)⟩

end Callable

/-- **Complaints outside the callables.** If the flags of a tree are right and it is nested, the
diagnostics that are kept are, in document order, those of the outermost faulty nodes that are not
in the subtree of a callable, apart from those that only seem to be inside one. -/
theorem complaints_outside (source : Bytes) {root : Node} (hflagged : root.Flagged)
    (hnested : root.Nested) :
    ∃ sites,
      root.InPreorder (fun p n => root.OutermostFault p n ∧ ¬ Callable.Contains source root p ∧
        ¬ Callable.Conceals source root p n) sites ∧
      Callable.diagnosticsOutside (root.diagnostics source) (Callable.locate source root) =
        sites.map fun s => s.2.complaint source := by
  have hkept := hflagged.inPreorder.filter fun s =>
    !(Callable.locate source root).any (·.encloses (s.2.complaint source))
  refine ⟨_, hkept.congr fun p n hn => and_congr_right fun _ => ?_, ?_⟩
  · rw [Bool.not_eq_true', ← Bool.not_eq_true, Callable.any_encloses_iff hnested hn, not_or]
  · rw [Callable.diagnosticsOutside, hflagged.diagnostics_eq, List.filter_map]
    rfl

/-- Of the two complaints about the open comment only the second is told. -/
theorem complaints_outside_openComment :
    OpenComment.root.Flagged ∧ OpenComment.root.Nested ∧
    (Callable.diagnosticsOutside (OpenComment.root.diagnostics (Utf8.encode OpenComment.text))
      (Callable.locate (Utf8.encode OpenComment.text) OpenComment.root)).map
        (fun d => (d.start, d.stop)) = [(35, 49)] ∧
    ∃ sites,
      OpenComment.root.InPreorder (fun p n => OpenComment.root.OutermostFault p n ∧
        ¬ Callable.Contains (Utf8.encode OpenComment.text) OpenComment.root p ∧
        ¬ Callable.Conceals (Utf8.encode OpenComment.text) OpenComment.root p n) sites ∧
      Callable.diagnosticsOutside (OpenComment.root.diagnostics (Utf8.encode OpenComment.text))
          (Callable.locate (Utf8.encode OpenComment.text) OpenComment.root) =
        sites.map fun s => s.2.complaint (Utf8.encode OpenComment.text) := by
  exact ⟨OpenComment.flagged_root, OpenComment.nested_root, by decide +kernel,
    complaints_outside _ OpenComment.flagged_root OpenComment.nested_root⟩

namespace OpenComment

/-- The way to the inserted number leads past the callable. -/
theorem prefix_inserted {q : Position} (h : q <+: [0, 1, 0]) :
    q = [] ∨ q = [0] ∨ q = [0, 1] ∨ q = [0, 1, 0] := by
  simp only [List.prefix_cons_iff, List.prefix_nil] at h
  rcases h with rfl | ⟨_, rfl, rfl | ⟨_, rfl, rfl | ⟨_, rfl, rfl⟩⟩⟩ <;> simp

theorem outermostFault_inserted : root.OutermostFault [0, 1, 0] inserted := by
  refine ⟨by decide, ?_⟩
  rintro q m ⟨hstarts, hne, hm⟩
  rcases prefix_inserted hstarts with rfl | rfl | rfl | rfl
  · exact Option.some.inj hm ▸ by decide
  · exact Option.some.inj hm ▸ by decide
  · exact Option.some.inj hm ▸ by decide
  · exact absurd rfl hne

theorem not_contains_inserted : ¬ Callable.Contains (Utf8.encode text) root [0, 1, 0] := by
  rintro ⟨q, f, hf, ⟨-, hkind, -⟩, hstarts⟩
  rcases prefix_inserted hstarts with rfl | rfl | rfl | rfl
  · exact absurd (Option.some.inj hf ▸ hkind) (by decide)
  · exact absurd (Option.some.inj hf ▸ hkind) (by decide)
  · exact absurd (Option.some.inj hf ▸ hkind) (by decide)
  · exact absurd (Option.some.inj hf ▸ hkind) (by decide)

end OpenComment

/-- The complaint about the inserted number, which is in the subtree of no callable, is dropped,
since the number has no bytes and stands where the callable ends. -/
theorem inserted_number_concealed :
    OpenComment.root.Flagged ∧ OpenComment.root.Nested ∧
    ¬ ∃ sites,
      OpenComment.root.InPreorder (fun p n => OpenComment.root.OutermostFault p n ∧
        ¬ Callable.Contains (Utf8.encode OpenComment.text) OpenComment.root p) sites ∧
      Callable.diagnosticsOutside (OpenComment.root.diagnostics (Utf8.encode OpenComment.text))
          (Callable.locate (Utf8.encode OpenComment.text) OpenComment.root) =
        sites.map fun s => s.2.complaint (Utf8.encode OpenComment.text) := by
  refine ⟨OpenComment.flagged_root, OpenComment.nested_root, ?_⟩
  rintro ⟨sites, hsites, heq⟩
  have hmem : ([0, 1, 0], OpenComment.inserted) ∈ sites :=
    (hsites.complete _ _).mpr ⟨rfl, OpenComment.outermostFault_inserted,
      OpenComment.not_contains_inserted⟩
  have hdropped : OpenComment.inserted.complaint (Utf8.encode OpenComment.text) ∉
      Callable.diagnosticsOutside (OpenComment.root.diagnostics (Utf8.encode OpenComment.text))
        (Callable.locate (Utf8.encode OpenComment.text) OpenComment.root) := by
    decide +kernel
  rw [heq] at hdropped
  exact hdropped (List.mem_map_of_mem hmem)

end Unbundle
