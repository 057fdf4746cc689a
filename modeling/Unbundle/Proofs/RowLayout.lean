import Unbundle.Proofs.BlankRows

/-!
# The layout of a collapsed text

Some rows of a text are kept: those that are protected and those that are not blank. They give the
text its layout, each kept row with the other rows before it (`Layout`). There is exactly one
(`Layout.unique`), and it says what the text collapses to: rows before the first kept one are
dropped, and between two kept rows the other rows stay as they are or, if there are more than two of
them, make way for one (`Layout.shown`). The loop over the rows builds the layout as it goes, the
rows that are pending being the ones before the next kept row (`exists_layout_tidyFrom`). What
stands behind the last kept row is blank, and trimming the end takes it away (`collapse_exact`).
-/

namespace Unbundle.BlankRows

/-- A row of a text and its number, counted from zero. -/
abbrev NumberedRow := Row × Nat

variable {guarded : List Nat} {rows : List NumberedRow}

/-- Whether a row is kept: it is protected, or it has a character that is not blank. -/
def Kept (guarded : List Nat) (r : NumberedRow) : Prop :=
  r.2 ∈ guarded ∨ ∃ c ∈ r.1, Text.isBlank c = false

theorem isKept_iff {i : Nat} {row : Row} : isKept guarded i row = true ↔ Kept guarded (row, i) := by
  rw [isKept, Kept, Bool.or_eq_true, List.contains_iff_mem, Bool.not_eq_true', List.all_eq_false]
  simp only [Bool.not_eq_true]

theorem all_blank_of_not_kept {r : NumberedRow} (h : ¬ Kept guarded r) :
    r.1.all Text.isBlank = true :=
  blank_of_not_kept fun hkept => h (isKept_iff.mp hkept)

/-- How the rows of a text lie around the kept ones: each kept row with the other rows before it,
and the rows behind the last kept one. -/
structure Layout (guarded : List Nat) (rows : List NumberedRow) where
  pieces : List (List NumberedRow × NumberedRow)
  last : List NumberedRow
  rows_eq : pieces.flatMap (fun p => p.1 ++ [p.2]) ++ last = rows
  kept : ∀ p ∈ pieces, Kept guarded p.2
  others : ∀ p ∈ pieces, ∀ r ∈ p.1, ¬ Kept guarded r
  behind : ∀ r ∈ last, ¬ Kept guarded r

/-- What stands for the rows between two kept ones: up to two rows stay, more of them become one,
with a carriage return if the first of them ended in one. -/
def between (others : List Row) : List Row :=
  if others.length ≤ 2 then others
  else if (others.headD []).getLast? = some '\r' then [['\r']] else [[]]

theorem settle_eq_between (run : List Row) : settle run = between run := by
  unfold settle between longRun
  by_cases hlong : 3 ≤ run.length
  · rw [if_pos hlong, if_neg (by omega)]
    cases run with
    | nil => exact absurd hlong (by decide)
    | cons first rest =>
      rw [List.head?_cons, Option.bind_some, List.headD_cons]
      by_cases hreturn : first.getLast? = some '\r'
      · rw [if_pos hreturn, hreturn]
        rfl
      · rw [if_neg hreturn]
        split
        next h => exact absurd h hreturn
        next => rfl
  · rw [if_neg hlong, if_pos (by omega)]

namespace Layout

/-- The rows that are shown from the second kept row on, each with what stands before it. -/
def following (pieces : List (List NumberedRow × NumberedRow)) : List Row :=
  pieces.flatMap fun p => between (p.1.map (·.1)) ++ [p.2.1]

/-- The rows that are shown: from the first kept row to the last. -/
def shown (l : Layout guarded rows) : List Row :=
  match l.pieces with
  | [] => []
  | (_, first) :: more => first.1 :: following more

/-! ## There is one layout -/

/-- A list is cut in one way only at the first of its elements that has a property. -/
theorem cut_unique {α : Type} {P : α → Prop} {x x' : α} {xs' rest rest' : List α} (hx : P x)
    (hx' : P x') (hbefore' : ∀ y ∈ xs', ¬ P y) :
    ∀ {xs : List α}, (∀ y ∈ xs, ¬ P y) → xs ++ x :: rest = xs' ++ x' :: rest' →
      xs = xs' ∧ x = x' ∧ rest = rest' := by
  induction xs' with
  | nil =>
    intro xs hbefore heq
    cases xs with
    | nil => exact ⟨rfl, (List.cons.inj heq).1, (List.cons.inj heq).2⟩
    | cons y ys =>
      obtain ⟨rfl, -⟩ := List.cons.inj heq
      exact absurd hx' (hbefore y (List.mem_cons_self ..))
  | cons y' ys' ih =>
    intro xs hbefore heq
    cases xs with
    | nil =>
      obtain ⟨rfl, -⟩ := List.cons.inj heq
      exact absurd hx (hbefore' x (List.mem_cons_self ..))
    | cons y ys =>
      obtain ⟨rfl, hrest⟩ := List.cons.inj heq
      obtain ⟨rfl, hcut⟩ := ih (fun z hz => hbefore' z (List.mem_cons_of_mem _ hz))
        (fun z hz => hbefore z (List.mem_cons_of_mem _ hz)) hrest
      exact ⟨rfl, hcut⟩

/-- The rows of one layout begin with what those of another begin with, piece by piece. -/
theorem unique_pieces {last last' : List NumberedRow} (hlast : ∀ r ∈ last, ¬ Kept guarded r)
    (hlast' : ∀ r ∈ last', ¬ Kept guarded r) :
    ∀ {pieces pieces' : List (List NumberedRow × NumberedRow)},
      (∀ p ∈ pieces, Kept guarded p.2 ∧ ∀ r ∈ p.1, ¬ Kept guarded r) →
      (∀ p ∈ pieces', Kept guarded p.2 ∧ ∀ r ∈ p.1, ¬ Kept guarded r) →
      pieces.flatMap (fun p => p.1 ++ [p.2]) ++ last =
        pieces'.flatMap (fun p => p.1 ++ [p.2]) ++ last' →
      pieces = pieces' ∧ last = last' := by
  intro pieces
  induction pieces with
  | nil =>
    intro pieces' _ hpieces' heq
    cases pieces' with
    | nil => exact ⟨rfl, heq⟩
    | cons p' more' =>
      have hmem : p'.2 ∈ last := by
        rw [show last = _ from heq]
        simp
      exact absurd (hpieces' p' (List.mem_cons_self ..)).1 (hlast _ hmem)
  | cons p more ih =>
    intro pieces' hpieces hpieces' heq
    obtain ⟨hkept, hothers⟩ := hpieces p (List.mem_cons_self ..)
    cases pieces' with
    | nil =>
      have hmem : p.2 ∈ last' := by
        rw [show last' = _ from heq.symm]
        simp
      exact absurd hkept (hlast' _ hmem)
    | cons p' more' =>
      obtain ⟨hkept', hothers'⟩ := hpieces' p' (List.mem_cons_self ..)
      simp only [List.flatMap_cons, List.append_assoc, List.singleton_append] at heq
      obtain ⟨hfirst, hrow, hrest⟩ := cut_unique hkept hkept' hothers' hothers heq
      obtain ⟨rfl, rfl⟩ := ih (fun q hq => hpieces q (List.mem_cons_of_mem _ hq))
        (fun q hq => hpieces' q (List.mem_cons_of_mem _ hq)) hrest
      exact ⟨congrArg (· :: more) (Prod.ext hfirst hrow), rfl⟩

theorem unique (l l' : Layout guarded rows) : l = l' := by
  obtain ⟨hpieces, hlast⟩ := unique_pieces l.behind l'.behind
    (fun p hp => ⟨l.kept p hp, l.others p hp⟩) (fun p hp => ⟨l'.kept p hp, l'.others p hp⟩)
    (l.rows_eq.trans l'.rows_eq.symm)
  cases l
  cases l'
  simp only [mk.injEq]
  exact ⟨hpieces, hlast⟩

/-! ## The loop builds it -/

/-- The layout of rows none of which is kept. -/
def ofOthers (h : ∀ r ∈ rows, ¬ Kept guarded r) : Layout guarded rows where
  pieces := []
  last := rows
  rows_eq := rfl
  kept := fun _ hp => absurd hp List.not_mem_nil
  others := fun _ hp => absurd hp List.not_mem_nil
  behind := h

/-- The layout with one more kept row, and other rows before it. -/
def cons (l : Layout guarded rows) {others : List NumberedRow} {r : NumberedRow}
    (hothers : ∀ r ∈ others, ¬ Kept guarded r) (hr : Kept guarded r) :
    Layout guarded (others ++ r :: rows) where
  pieces := (others, r) :: l.pieces
  last := l.last
  rows_eq := by
    rw [List.flatMap_cons, List.append_assoc, l.rows_eq, List.append_assoc, List.singleton_append]
  kept := List.forall_mem_cons.mpr ⟨hr, l.kept⟩
  others := List.forall_mem_cons.mpr ⟨hothers, l.others⟩
  behind := l.behind

end Layout

/-- One more row that is not kept. -/
theorem not_kept_concat {others : List NumberedRow} (hothers : ∀ r ∈ others, ¬ Kept guarded r)
    {i : Nat} {row : Row} (hrow : ¬ isKept guarded i row = true) :
    ∀ r ∈ others ++ [(row, i)], ¬ Kept guarded r := by
  intro r hr
  rcases List.mem_append.mp hr with hr | hr
  · exact hothers r hr
  · rw [List.mem_singleton.mp hr, ← isKept_iff]
    exact hrow

/-- **The loop after a kept row.** The rows in `run` are pending: they stand before the next kept
row, or else behind the last one. -/
theorem exists_layout_tidyFrom (rows : List Row) :
    ∀ (i : Nat) (run : List NumberedRow), (∀ r ∈ run, ¬ Kept guarded r) →
      ∃ l : Layout guarded (run ++ rows.zipIdx i),
        tidyFrom guarded i (run.map (·.1)) rows =
          Layout.following l.pieces ++ between (l.last.map (·.1)) := by
  induction rows with
  | nil =>
    intro i run hrun
    rw [List.zipIdx_nil, List.append_nil]
    exact ⟨.ofOthers hrun, settle_eq_between _⟩
  | cons row rest ih =>
    intro i run hrun
    rw [List.zipIdx_cons, tidyFrom]
    by_cases hkept : isKept guarded i row = true
    · obtain ⟨l, hl⟩ := ih (i + 1) [] fun r hr => absurd hr List.not_mem_nil
      refine ⟨l.cons hrun (isKept_iff.mp hkept), ?_⟩
      rw [if_pos hkept, show tidyFrom guarded (i + 1) [] rest = _ from hl, settle_eq_between]
      simp [Layout.cons, Layout.following]
    · obtain ⟨l, hl⟩ := ih (i + 1) _ (not_kept_concat hrun hkept)
      rw [List.map_append] at hl
      rw [if_neg hkept, List.append_cons]
      exact ⟨l, hl⟩

/-- **The loop before the first kept row.** The rows in `lead` are dropped. What is left behind the
last kept row is blank. -/
theorem exists_layout_tidy (rows : List Row) :
    ∀ (i : Nat) (lead : List NumberedRow), (∀ r ∈ lead, ¬ Kept guarded r) →
      ∃ (l : Layout guarded (lead ++ rows.zipIdx i)) (blanks : List Row),
        tidy guarded i rows = l.shown ++ blanks ∧ ∀ row ∈ blanks, row.all Text.isBlank = true := by
  induction rows with
  | nil =>
    intro i lead hlead
    rw [List.zipIdx_nil, List.append_nil]
    exact ⟨.ofOthers hlead, [], rfl, fun row hrow => absurd hrow List.not_mem_nil⟩
  | cons row rest ih =>
    intro i lead hlead
    rw [List.zipIdx_cons, tidy]
    by_cases hkept : isKept guarded i row = true
    · obtain ⟨l, hl⟩ :=
        exists_layout_tidyFrom rest (i + 1) [] fun r hr => absurd hr List.not_mem_nil
      refine ⟨l.cons hlead (isKept_iff.mp hkept), between (l.last.map (·.1)), ?_, ?_⟩
      · rw [if_pos hkept, show tidyFrom guarded (i + 1) [] rest = _ from hl]
        rfl
      · rw [← settle_eq_between]
        refine forall_settle (P := fun row => row.all Text.isBlank = true) rfl rfl ?_
        intro r hr
        obtain ⟨numbered, hmem, rfl⟩ := List.mem_map.mp hr
        exact all_blank_of_not_kept (l.behind numbered hmem)
    · rw [if_neg hkept, List.append_cons]
      exact ih (i + 1) _ (not_kept_concat hlead hkept)

theorem tidy_layout {text : String} (l : Layout guarded (Text.rows text.toList).zipIdx) :
    ∃ blanks, tidy guarded 0 (Text.rows text.toList) = l.shown ++ blanks ∧
      ∀ row ∈ blanks, row.all Text.isBlank = true := by
  obtain ⟨l', blanks, htidy, hblanks⟩ :=
    exists_layout_tidy (Text.rows text.toList) 0 [] fun r hr => absurd hr List.not_mem_nil
  rw [l'.unique l] at htidy
  exact ⟨blanks, htidy, hblanks⟩

/-- A text collapses to what its layout shows. -/
theorem collapse_layout {text : String} (l : Layout guarded (Text.rows text.toList).zipIdx) :
    (collapse text guarded).toList = Text.trimEnd (Text.joinRows l.shown) := by
  obtain ⟨blanks, htidy, hblanks⟩ := tidy_layout l
  have hend := all_blank_endRows hblanks
  rw [collapse, String.toList_ofList, htidy, Text.trimEnd_joinRows, Text.endRows_append,
    Text.trimEnd_append_of_blank _ hend, ← Text.trimEnd_joinRows]

/-- **What a text collapses to.** Its rows have exactly one layout, and the text becomes the rows
that are shown of it, joined, without the blanks at the end: the kept rows as they are and in their
order, with the rows that stand between them or what stands for these. It has the words of the text
it was made from. -/
theorem collapse_exact (text : String) (guarded : List Nat) :
    ∃ l : Layout guarded (Text.rows text.toList).zipIdx,
      (∀ l' : Layout guarded (Text.rows text.toList).zipIdx, l' = l) ∧
      (collapse text guarded).toList = Text.trimEnd (Text.joinRows l.shown) ∧
      Text.words (collapse text guarded).toList = Text.words text.toList := by
  obtain ⟨l, -⟩ :=
    exists_layout_tidy (Text.rows text.toList) 0 [] fun r hr => absurd hr List.not_mem_nil
  exact ⟨l, fun l' => l'.unique l, collapse_layout l, words_collapse text guarded⟩

/-- Three blank rows become one, with a carriage return; two of them stay, and so does a row that is
protected. -/
example : collapse " \n\na \n\r\n\n \nb\n\n \nc\n\n\n\n\nd\n\n" [12] =
    "a \n\r\nb\n\n \nc\n\n\n\n\nd" := by
  decide +kernel

end Unbundle.BlankRows
