import Unbundle.Leftover.BlankRows
import Unbundle.Proofs.Rows

/-!
# What collapsing blank rows keeps

Collapsing only ever takes rows away that are blank, and puts blank rows in the place of blank
rows. So whatever is read off a text row by row stays, in its order, if it does not depend on
blanks at the end of a row (`flatMap_rows_collapse`); the words of a text are such a reading
(`words_collapse`). Blanks at the end of a text make no difference to what it collapses to, even
where their rows are protected (`collapse_append_blanks`).
-/

namespace Unbundle.BlankRows

variable {guarded : List Nat}

theorem blank_of_not_kept {i : Nat} {row : Row} (h : ¬ isKept guarded i row = true) :
    row.all Text.isBlank = true := by
  unfold isKept at h
  simp only [Bool.or_eq_true, not_or, Bool.not_eq_true', Bool.not_eq_false] at h
  exact h.2

theorem kept_of_not_blank {row : Row} (h : ¬ row.all Text.isBlank = true) (i : Nat) :
    isKept guarded i row = true := by
  rw [isKept, Bool.or_eq_true]
  exact Or.inr (by simpa using h)

/-! ## Which rows there are

Besides rows that were there, only two can come up: an empty one, and one with a carriage
return. -/

section Rows

variable {P : Row → Prop} (hnil : P []) (hreturn : P ['\r'])
include hnil hreturn

theorem forall_settle {run : List Row} (hrun : ∀ row ∈ run, P row) : ∀ row ∈ settle run, P row := by
  unfold settle
  split
  next =>
    intro row hrow
    split at hrow
    next => exact List.mem_singleton.mp hrow ▸ hreturn
    next => exact List.mem_singleton.mp hrow ▸ hnil
  next => exact hrun

theorem forall_tidyFrom :
    ∀ {rows : List Row} {i : Nat} {run : List Row}, (∀ row ∈ run, P row) → (∀ row ∈ rows, P row) →
      ∀ row ∈ tidyFrom guarded i run rows, P row
  | [], _, _, hrun, _ => forall_settle hnil hreturn hrun
  | first :: rest, i, run, hrun, hrows => by
    have hfirst := hrows first (List.mem_cons_self ..)
    have hrest : ∀ row ∈ rest, P row := fun row hrow => hrows row (List.mem_cons_of_mem _ hrow)
    unfold tidyFrom
    split
    next =>
      intro row hrow
      rcases List.mem_append.mp hrow with hrow | hrow
      · exact forall_settle hnil hreturn hrun row hrow
      · rcases List.mem_cons.mp hrow with rfl | hrow
        · exact hfirst
        · exact forall_tidyFrom (fun _ h => absurd h List.not_mem_nil) hrest row hrow
    next =>
      refine forall_tidyFrom (fun row hrow => ?_) hrest
      rcases List.mem_append.mp hrow with hrow | hrow
      · exact hrun row hrow
      · exact List.mem_singleton.mp hrow ▸ hfirst

theorem forall_tidy :
    ∀ {rows : List Row} {i : Nat}, (∀ row ∈ rows, P row) → ∀ row ∈ tidy guarded i rows, P row
  | [], _, _ => fun _ h => absurd h List.not_mem_nil
  | first :: rest, i, hrows => by
    have hrest : ∀ row ∈ rest, P row := fun row hrow => hrows row (List.mem_cons_of_mem _ hrow)
    unfold tidy
    split
    next =>
      intro row hrow
      rcases List.mem_cons.mp hrow with rfl | hrow
      · exact hrows row (List.mem_cons_self ..)
      · exact forall_tidyFrom hnil hreturn (fun _ h => absurd h List.not_mem_nil) hrest row hrow
    next => exact forall_tidy hrest

end Rows

/-! ## What is read off the rows -/

section Readings

variable {β : Type} {f : Row → List β}
  (hblank : ∀ row : Row, row.all Text.isBlank = true → f row = [])
include hblank

theorem flatMap_settle {run : List Row} (h : run.flatMap f = []) : (settle run).flatMap f = [] := by
  unfold settle
  split
  next =>
    split
    next => rw [List.flatMap_singleton, hblank _ (by decide)]
    next => rw [List.flatMap_singleton, hblank _ rfl]
  next => exact h

theorem flatMap_tidyFrom :
    ∀ (rows : List Row) (i : Nat) (run : List Row), run.flatMap f = [] →
      (tidyFrom guarded i run rows).flatMap f = rows.flatMap f
  | [], i, run, hrun => by rw [tidyFrom, flatMap_settle hblank hrun, List.flatMap_nil]
  | row :: rest, i, run, hrun => by
    unfold tidyFrom
    split
    next =>
      rw [List.flatMap_append, flatMap_settle hblank hrun, List.flatMap_cons, List.flatMap_cons,
        flatMap_tidyFrom rest (i + 1) [] List.flatMap_nil, List.nil_append]
    next hkept =>
      -- a blank row joins the run, from which nothing is read
      have hrow := hblank row (blank_of_not_kept hkept)
      have hrun' : (run ++ [row]).flatMap f = [] := by
        rw [List.flatMap_append, hrun, List.flatMap_singleton, hrow, List.append_nil]
      rw [flatMap_tidyFrom rest (i + 1) (run ++ [row]) hrun', List.flatMap_cons, hrow,
        List.nil_append]

theorem flatMap_tidy :
    ∀ (rows : List Row) (i : Nat), (tidy guarded i rows).flatMap f = rows.flatMap f
  | [], i => rfl
  | row :: rest, i => by
    unfold tidy
    split
    next =>
      rw [List.flatMap_cons, List.flatMap_cons,
        flatMap_tidyFrom hblank rest (i + 1) [] List.flatMap_nil]
    next hkept =>
      rw [flatMap_tidy rest (i + 1), List.flatMap_cons, hblank row (blank_of_not_kept hkept),
        List.nil_append]

end Readings

section Endings

variable {β : Type} {f : Row → List β} (hnil : f [] = [])
  (hend : ∀ row blanks : Row, blanks.all Text.isBlank = true → f (row ++ blanks) = f row)
include hnil hend

theorem flatMap_rows_append_blanks (cs : List Char) {blanks : List Char}
    (h : blanks.all Text.isBlank = true) :
    (Text.rows (cs ++ blanks)).flatMap f = (Text.rows cs).flatMap f := by
  obtain ⟨init, last, first, rest, hcs, hblanks, hrows⟩ := Text.rows_append cs blanks
  have hrow : ∀ row ∈ Text.rows blanks, row.all Text.isBlank = true :=
    fun row hrow => Text.all_blank_of_mem_rows h hrow
  rw [hblanks] at hrow
  have hfirst := hend last first (hrow first (List.mem_cons_self ..))
  have hrest : rest.flatMap f = [] := by
    rw [List.flatMap_eq_nil_iff]
    intro row hmem
    exact (hend [] row (hrow row (List.mem_cons_of_mem _ hmem))).trans hnil
  rw [hrows, hcs, List.flatMap_append, List.flatMap_append, List.flatMap_cons, hfirst, hrest,
    List.flatMap_singleton, List.append_nil]

/-- Collapsing keeps whatever is read off the rows of a text. -/
theorem flatMap_rows_collapse (text : String) (guarded : List Nat) :
    (Text.rows (collapse text guarded).toList).flatMap f = (Text.rows text.toList).flatMap f := by
  have hblank : ∀ row : Row, row.all Text.isBlank = true → f row = [] :=
    fun row h => (hend [] row h).trans hnil
  obtain ⟨blanks, htrim, hblanks⟩ :=
    Text.trimEnd_append_blanks (Text.joinRows (tidy guarded 0 (Text.rows text.toList)))
  have hfeed : ∀ row ∈ tidy guarded 0 (Text.rows text.toList), '\n' ∉ row :=
    forall_tidy List.not_mem_nil (by decide) fun row hrow => Text.not_mem_of_mem_rows hrow
  have hjoin : (Text.rows (Text.joinRows (tidy guarded 0 (Text.rows text.toList)))).flatMap f =
      (tidy guarded 0 (Text.rows text.toList)).flatMap f := by
    by_cases hnone : tidy guarded 0 (Text.rows text.toList) = []
    · -- no row at all is joined to the empty text, which has one empty row
      rw [hnone]
      exact (List.flatMap_singleton f []).trans hnil
    · rw [Text.rows_joinRows hnone hfeed]
  rw [collapse, String.toList_ofList, ← flatMap_rows_append_blanks hnil hend _ hblanks, ← htrim,
    hjoin, flatMap_tidy hblank]

end Endings

/-- Collapsing keeps the words of a text, whatever rows are protected. -/
theorem words_collapse (text : String) (guarded : List Nat) :
    Text.words (collapse text guarded).toList = Text.words text.toList := by
  rw [Text.words_eq_flatMap_rows, Text.words_eq_flatMap_rows text.toList]
  exact flatMap_rows_collapse rfl (fun row _ => Text.words_append_blanks row) text guarded

/-! ## Blanks at the end -/

/-- Rows that come to the same text when its end is trimmed. -/
def Alike (xs ys : List Row) : Prop :=
  Text.trimEnd (Text.joinRows xs) = Text.trimEnd (Text.joinRows ys)

theorem Alike.append {xs ys : List Row} (h : Alike xs ys) (front : List Row) :
    Alike (front ++ xs) (front ++ ys) := by
  unfold Alike at h ⊢
  rw [Text.trimEnd_joinRows, Text.trimEnd_joinRows] at h ⊢
  rw [Text.endRows_append, Text.endRows_append]
  exact Text.trimEnd_append_congr h _

theorem all_blank_endRows {rows : List Row} (h : ∀ row ∈ rows, row.all Text.isBlank = true) :
    (Text.endRows rows).all Text.isBlank = true := by
  rw [List.all_eq_true]
  intro c hc
  obtain ⟨row, hrow, hmem⟩ := List.mem_flatMap.mp hc
  rcases List.mem_append.mp hmem with hmem | hmem
  · exact List.all_eq_true.mp (h row hrow) c hmem
  · exact List.mem_singleton.mp hmem ▸ rfl

theorem Alike.of_blank {xs ys : List Row} (hxs : ∀ row ∈ xs, row.all Text.isBlank = true)
    (hys : ∀ row ∈ ys, row.all Text.isBlank = true) : Alike xs ys := by
  unfold Alike
  rw [Text.trimEnd_joinRows, Text.trimEnd_joinRows,
    Text.trimEnd_of_all_blank (all_blank_endRows hxs),
    Text.trimEnd_of_all_blank (all_blank_endRows hys)]

theorem Alike.of_blank_end (last : Row) {blanks : Row} {rest : List Row}
    (hblanks : blanks.all Text.isBlank = true)
    (hrest : ∀ row ∈ rest, row.all Text.isBlank = true) :
    Alike ((last ++ blanks) :: rest) [last] := by
  have hbehind : (blanks ++ '\n' :: Text.endRows rest).all Text.isBlank = true := by
    rw [List.all_append, hblanks, List.all_cons, all_blank_endRows hrest]
    rfl
  unfold Alike
  rw [Text.trimEnd_joinRows, Text.endRows_cons, List.append_assoc,
    Text.trimEnd_append_of_blank _ hbehind]
  rfl

theorem blank_tidyFrom {rows run : List Row} (hrun : ∀ row ∈ run, row.all Text.isBlank = true)
    (hrows : ∀ row ∈ rows, row.all Text.isBlank = true) (i : Nat) :
    ∀ row ∈ tidyFrom guarded i run rows, row.all Text.isBlank = true :=
  forall_tidyFrom (P := fun row => row.all Text.isBlank = true) rfl rfl hrun hrows

section Ends

variable {last blanks : Row} {rest : List Row} (hblanks : blanks.all Text.isBlank = true)
  (hrest : ∀ row ∈ rest, row.all Text.isBlank = true)
include hblanks hrest

/-- The induction is on the rows before the one at which the blanks begin; what is pending there is
blank as well. -/
theorem alike_tidyFrom :
    ∀ (init : List Row) (i : Nat) {run : List Row}, (∀ row ∈ run, row.all Text.isBlank = true) →
      Alike (tidyFrom guarded i run (init ++ (last ++ blanks) :: rest))
        (tidyFrom guarded i run (init ++ [last]))
  | [], i, run, hrun => by
    have hrow : (last ++ blanks).all Text.isBlank = last.all Text.isBlank := by
      rw [List.all_append, hblanks, Bool.and_true]
    rw [List.nil_append, List.nil_append]
    by_cases hlast : last.all Text.isBlank = true
    · -- nothing but blank rows on both sides
      exact .of_blank
        (blank_tidyFrom hrun (List.forall_mem_cons.mpr ⟨hrow.trans hlast, hrest⟩) i)
        (blank_tidyFrom hrun (List.forall_mem_singleton.mpr hlast) i)
    · rw [tidyFrom, if_pos (kept_of_not_blank (hrow ▸ hlast) i), tidyFrom,
        if_pos (kept_of_not_blank hlast i)]
      exact (Alike.of_blank_end last hblanks
        (blank_tidyFrom (fun _ h => absurd h List.not_mem_nil) hrest (i + 1))).append _
  | row :: init, i, run, hrun => by
    rw [List.cons_append, List.cons_append, tidyFrom, tidyFrom]
    split
    next =>
      refine Alike.append ?_ (settle run)
      exact (alike_tidyFrom init (i + 1) fun _ h => absurd h List.not_mem_nil).append [row]
    next hkept =>
      refine alike_tidyFrom init (i + 1) fun r hr => ?_
      rcases List.mem_append.mp hr with hr | hr
      · exact hrun r hr
      · exact List.mem_singleton.mp hr ▸ blank_of_not_kept hkept

theorem alike_tidy :
    ∀ (init : List Row) (i : Nat),
      Alike (tidy guarded i (init ++ (last ++ blanks) :: rest)) (tidy guarded i (init ++ [last]))
  | [], i => by
    have hrow : (last ++ blanks).all Text.isBlank = last.all Text.isBlank := by
      rw [List.all_append, hblanks, Bool.and_true]
    rw [List.nil_append, List.nil_append]
    by_cases hlast : last.all Text.isBlank = true
    · have hnone : ∀ {rows : List Row}, (∀ row ∈ rows, row.all Text.isBlank = true) →
          ∀ row ∈ tidy guarded i rows, row.all Text.isBlank = true :=
        forall_tidy (P := fun row => row.all Text.isBlank = true) rfl rfl
      exact .of_blank (hnone (List.forall_mem_cons.mpr ⟨hrow.trans hlast, hrest⟩))
        (hnone (List.forall_mem_singleton.mpr hlast))
    · rw [tidy, if_pos (kept_of_not_blank (hrow ▸ hlast) i), tidy,
        if_pos (kept_of_not_blank hlast i)]
      exact Alike.of_blank_end last hblanks
        (blank_tidyFrom (fun _ h => absurd h List.not_mem_nil) hrest (i + 1))
  | row :: init, i => by
    rw [List.cons_append, List.cons_append, tidy, tidy]
    split
    next =>
      exact (alike_tidyFrom hblanks hrest init (i + 1) fun _ h => absurd h List.not_mem_nil).append
        [row]
    next => exact alike_tidy init (i + 1)

end Ends

/-- Blanks at the end of a text make no difference to what it collapses to. -/
theorem collapse_append_blanks (text : String) {blanks : String}
    (h : blanks.toList.all Text.isBlank = true) (guarded : List Nat) :
    collapse (text ++ blanks) guarded = collapse text guarded := by
  obtain ⟨init, last, first, rest, htext, hblanks, hrows⟩ :=
    Text.rows_append text.toList blanks.toList
  have hrow : ∀ row ∈ first :: rest, row.all Text.isBlank = true := by
    rw [← hblanks]
    exact fun row hrow => Text.all_blank_of_mem_rows h hrow
  obtain ⟨hfirst, hrest⟩ := List.forall_mem_cons.mp hrow
  unfold collapse
  rw [String.toList_append, hrows, htext]
  exact congrArg String.ofList (alike_tidy hfirst hrest init 0)

end Unbundle.BlankRows
