import Mathlib.Data.List.TakeWhile
import Unbundle.Proofs.Words

/-!
# Texts put together row by row

Text that is built up piece by piece is followed through its rows: rows that end in line feeds are
rows of the whole text whatever comes behind them (`rows_endRows_append`), and two texts put one
behind the other share one row where they meet (`rows_append`). So the row in which a part of a text
stands is found by counting line feeds (`exists_row_of_part`). Blanks at the end of a text are no
concern of what is trimmed afterwards (`trimEnd_append_of_blank`, `trimEnd_append_congr`).
-/

namespace Unbundle.Text

/-- Rows with a line feed after each. -/
def endRows (rows : List (List Char)) : List Char := rows.flatMap (· ++ ['\n'])

theorem endRows_append (xs ys : List (List Char)) :
    endRows (xs ++ ys) = endRows xs ++ endRows ys :=
  List.flatMap_append

theorem endRows_cons (row : List Char) (rest : List (List Char)) :
    endRows (row :: rest) = row ++ '\n' :: endRows rest := by
  simp [endRows]

theorem endRows_eq_nil_iff {xs : List (List Char)} : endRows xs = [] ↔ xs = [] := by
  cases xs with
  | nil => exact ⟨fun _ => rfl, fun _ => rfl⟩
  | cons row rest => simp [endRows_cons]

/-- Only rows that all have `p` are as long as the ones before the first without it. -/
theorem endRows_takeWhile_eq_iff {p : List Char → Bool} {xs : List (List Char)} :
    endRows (xs.takeWhile p) = endRows xs ↔ ∀ row ∈ xs, p row = true := by
  have hsplit : endRows xs = endRows (xs.takeWhile p) ++ endRows (xs.dropWhile p) := by
    rw [← endRows_append, List.takeWhile_append_dropWhile]
  rw [hsplit, List.self_eq_append_right, endRows_eq_nil_iff, List.dropWhile_eq_nil_iff]

/-! ## Joining -/

theorem joinRows_append {ys : List (List Char)} (hys : ys ≠ []) :
    ∀ xs : List (List Char), joinRows (xs ++ ys) = endRows xs ++ joinRows ys
  | [] => rfl
  | x :: xs => by
    have hne : xs ++ ys ≠ [] := fun h => hys (List.append_eq_nil_iff.mp h).2
    obtain ⟨next, rest, hnext⟩ := List.exists_cons_of_ne_nil hne
    rw [List.cons_append, hnext, joinRows, ← hnext, joinRows_append hys xs, endRows_cons]
    simp

theorem joinRows_append_last {xs : List (List Char)} (hxs : xs ≠ []) :
    joinRows xs = endRows xs.dropLast ++ xs.getLast hxs := by
  have h := joinRows_append (List.cons_ne_nil (xs.getLast hxs) []) xs.dropLast
  rwa [List.dropLast_concat_getLast hxs] at h

theorem endRows_eq_joinRows {xs : List (List Char)} (hxs : xs ≠ []) :
    endRows xs = joinRows xs ++ ['\n'] := by
  rw [← List.dropLast_concat_getLast hxs, endRows_append, joinRows_append (List.cons_ne_nil _ _)]
  simp [endRows, joinRows]

theorem endRows_rows (cs : List Char) : endRows (rows cs) = cs ++ ['\n'] := by
  have hne : rows cs ≠ [] := fields_ne_nil _ cs
  rw [endRows_eq_joinRows hne, joinRows_rows]

/-- A text before the first of some rows stands before them when they are joined. -/
theorem joinRows_append_first (xs row : List Char) (rest : List (List Char)) :
    joinRows ((xs ++ row) :: rest) = xs ++ joinRows (row :: rest) := by
  induction xs with
  | nil => rfl
  | cons x xs ih => rw [List.cons_append, joinRows_cons_cons, ih, List.cons_append]

/-! ## Rows of a text that was put together -/

theorem not_mem_of_mem_rows {cs row : List Char} (h : row ∈ rows cs) : '\n' ∉ row := by
  intro hmem
  exact (mem_of_mem_fields h _ hmem).2 rfl

theorem rows_append_of_not_mem {ys y : List Char} {rest : List (List Char)}
    (hys : rows ys = y :: rest) :
    ∀ {xs : List Char}, '\n' ∉ xs → rows (xs ++ ys) = (xs ++ y) :: rest
  | [], _ => hys
  | x :: xs, h => by
    have hx : ¬ (x == '\n') = true := by
      intro hx
      exact h (by simp [eq_of_beq hx])
    have ih := rows_append_of_not_mem hys fun hmem => h (List.mem_cons_of_mem _ hmem)
    unfold rows at ih ⊢
    rw [List.cons_append, fields, if_neg hx, ih]
    rfl

theorem rows_of_not_mem {row : List Char} (h : '\n' ∉ row) : rows row = [row] := by
  have hrow := rows_append_of_not_mem (show rows [] = [[]] from rfl) h
  rwa [List.append_nil] at hrow

theorem rows_endRows_append {xs : List (List Char)} (hxs : ∀ row ∈ xs, '\n' ∉ row)
    (cs : List Char) : rows (endRows xs ++ cs) = xs ++ rows cs := by
  induction xs with
  | nil => rfl
  | cons row xs ih =>
    have hrow := rows_of_not_mem (hxs row (List.mem_cons_self ..))
    have hrest := ih fun r hr => hxs r (List.mem_cons_of_mem _ hr)
    rw [endRows_cons, List.append_assoc, List.cons_append]
    unfold rows at hrow hrest ⊢
    rw [fields_append_cons rfl, hrow, hrest]
    rfl

theorem rows_joinRows {xs : List (List Char)} (hne : xs ≠ []) (hxs : ∀ row ∈ xs, '\n' ∉ row) :
    rows (joinRows xs) = xs := by
  have hsplit := List.dropLast_concat_getLast hne
  have hlast : '\n' ∉ xs.getLast hne := hxs _ (List.getLast_mem hne)
  have hfront : ∀ row ∈ xs.dropLast, '\n' ∉ row := fun r hr => hxs r (List.dropLast_subset _ hr)
  calc rows (joinRows xs)
      = rows (endRows xs.dropLast ++ xs.getLast hne) := by
        rw [joinRows_append_last hne]
    _ = xs.dropLast ++ [xs.getLast hne] := by
        rw [rows_endRows_append hfront, rows_of_not_mem hlast]
    _ = xs := hsplit

theorem rows_feed (cs : List Char) : rows ('\n' :: cs) = [] :: rows cs := by
  have hsplit := rows_endRows_append (List.forall_mem_singleton.mpr List.not_mem_nil) cs
  exact hsplit

theorem rows_cons {c : Char} (hc : c ≠ '\n') {cs row : List Char} {rest : List (List Char)}
    (h : rows cs = row :: rest) : rows (c :: cs) = (c :: row) :: rest := by
  have hfeed : '\n' ∉ [c] := by simpa using hc.symm
  exact rows_append_of_not_mem h hfeed

/-- A text has one more row than it has line feeds. -/
theorem length_rows (cs : List Char) : (rows cs).length = cs.count '\n' + 1 := by
  induction cs with
  | nil => rfl
  | cons c cs ih =>
    by_cases hc : c = '\n'
    · rw [hc, rows_feed, List.length_cons, ih, List.count_cons_self]
    · obtain ⟨row, rest, hrows⟩ := List.exists_cons_of_ne_nil (fields_ne_nil (· == '\n') cs)
      have hcons := rows_cons hc (show rows cs = row :: rest from hrows)
      rw [hcons, List.length_cons, List.count_cons_of_ne hc, ← ih, show rows cs = _ from hrows,
        List.length_cons]

/-- Where two texts meet, the last row of the one goes on as the first row of the other. -/
theorem rows_append (xs ys : List Char) :
    ∃ init last y rest, rows xs = init ++ [last] ∧ rows ys = y :: rest ∧
      rows (xs ++ ys) = init ++ (last ++ y) :: rest := by
  obtain ⟨y, rest, hys⟩ := List.exists_cons_of_ne_nil (fields_ne_nil (· == '\n') ys)
  have hne : rows xs ≠ [] := fields_ne_nil _ xs
  have hsplit := List.dropLast_concat_getLast hne
  refine ⟨(rows xs).dropLast, (rows xs).getLast hne, y, rest, hsplit.symm, hys, ?_⟩
  have hxs : xs = endRows (rows xs).dropLast ++ (rows xs).getLast hne := by
    rw [← joinRows_append_last hne, joinRows_rows]
  have hfront : ∀ row ∈ (rows xs).dropLast, '\n' ∉ row := fun r hr =>
    not_mem_of_mem_rows (List.dropLast_subset _ hr)
  have hlast : '\n' ∉ (rows xs).getLast hne := not_mem_of_mem_rows (List.getLast_mem hne)
  calc rows (xs ++ ys)
      = rows (endRows (rows xs).dropLast ++ ((rows xs).getLast hne ++ ys)) := by
        rw [← List.append_assoc, ← hxs]
    _ = (rows xs).dropLast ++ ((rows xs).getLast hne ++ y) :: rest := by
        rw [rows_endRows_append hfront, rows_append_of_not_mem hys hlast]

/-- A part of a text without line feeds stands in one row, and the line feeds before it say in
which. -/
theorem exists_row_of_part (front back : List Char) {mid : List Char} (h : '\n' ∉ mid) :
    ∃ row, (rows (front ++ mid ++ back))[front.count '\n']? = some row ∧ mid <:+: row := by
  obtain ⟨y, rest, hback⟩ := List.exists_cons_of_ne_nil (fields_ne_nil (· == '\n') back)
  have hmid := rows_append_of_not_mem (show rows back = y :: rest from hback) h
  obtain ⟨init, last, first, others, hfront, hfirst, hrows⟩ := rows_append front (mid ++ back)
  obtain ⟨rfl, rfl⟩ := List.cons.inj (hmid.symm.trans hfirst)
  have hinit : front.count '\n' = init.length := by
    have hlength := length_rows front
    rw [hfront, List.length_append, List.length_singleton] at hlength
    omega
  refine ⟨last ++ (mid ++ y), ?_, ⟨last, y, List.append_assoc ..⟩⟩
  rw [List.append_assoc, hrows, hinit, List.getElem?_append_right (Nat.le_refl _), Nat.sub_self]
  rfl

theorem all_blank_of_mem_rows {cs row : List Char} (h : cs.all isBlank = true)
    (hrow : row ∈ rows cs) : row.all isBlank = true := by
  rw [List.all_eq_true] at h ⊢
  exact fun c hc => h c (mem_of_mem_fields hrow c hc).1

/-! ## Trimming the end -/

theorem trimEnd_append_congr {xs ys : List Char} (h : trimEnd xs = trimEnd ys) (cs : List Char) :
    trimEnd (cs ++ xs) = trimEnd (cs ++ ys) := by
  have hdrop : xs.reverse.dropWhile isBlank = ys.reverse.dropWhile isBlank := by
    have h' := congrArg List.reverse h
    rwa [trimEnd, trimEnd, List.reverse_reverse, List.reverse_reverse] at h'
  unfold trimEnd
  rw [List.reverse_append, List.reverse_append, List.dropWhile_append, List.dropWhile_append,
    hdrop]

theorem trimEnd_of_all_blank {cs : List Char} (h : cs.all isBlank = true) : trimEnd cs = [] := by
  unfold trimEnd
  rw [List.reverse_eq_nil_iff]
  rw [← List.all_reverse] at h
  generalize cs.reverse = front at h ⊢
  induction front with
  | nil => rfl
  | cons c front ih =>
    simp only [List.all_cons, Bool.and_eq_true] at h
    rw [List.dropWhile_cons_of_pos h.1, ih h.2]

theorem trimEnd_append_of_blank (cs : List Char) {blanks : List Char}
    (h : blanks.all isBlank = true) : trimEnd (cs ++ blanks) = trimEnd cs := by
  have hnil : trimEnd blanks = trimEnd [] := by rw [trimEnd_of_all_blank h]; rfl
  rw [trimEnd_append_congr hnil, List.append_nil]

/-- Trimming goes no further than to a character that is not blank. -/
theorem trimEnd_append_of_solid {c : Char} (hc : isBlank c = false) (init cs : List Char) :
    trimEnd (init ++ [c] ++ cs) = init ++ [c] ++ trimEnd cs := by
  unfold trimEnd
  rw [List.reverse_append, List.dropWhile_append]
  by_cases hblank : (cs.reverse.dropWhile isBlank).isEmpty = true
  · rw [if_pos hblank, List.isEmpty_iff.mp hblank, List.reverse_concat,
      List.dropWhile_cons_of_neg (by simp [hc]), List.reverse_cons, List.reverse_reverse,
      List.reverse_nil, List.append_nil]
  · rw [if_neg hblank, List.reverse_append, List.reverse_reverse]

theorem trimEnd_joinRows (xs : List (List Char)) :
    trimEnd (joinRows xs) = trimEnd (endRows xs) := by
  cases xs with
  | nil => rfl
  | cons x xs =>
    rw [endRows_eq_joinRows (List.cons_ne_nil x xs), trimEnd_append_of_blank _ (by decide)]

end Unbundle.Text
