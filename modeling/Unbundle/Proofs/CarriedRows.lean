import Unbundle.Proofs.RowLayout

/-!
# Collapsing again

A collapsed text has other row numbers than the text it was made from. Each row that is shown is
therefore traced to the row of the text that it is (`Layout.traced`, in the order of the text by
`Layout.remaining_sublist`), and the protected rows are carried along to the numbers at which they
are shown (`Layout.carried`). Under these numbers the same rows are kept as before. Between two of
them there are no more than two others, for a longer run has become one row
(`Layout.spaced_traced`), and rows that lie like this are not changed by the loop
(`tidy_of_spaced`). Trimming the end takes away whole rows and the end of one more row, and leaves
that row blank or not as it was (`Text.exists_trimmed_row`). So collapsing again changes nothing
(`collapse_idempotent`).
-/

namespace Unbundle

/-! ## Trimmed rows -/

namespace Text

theorem trimEnd_append {row : List Char} (h : ¬ row.all isBlank = true) (cs : List Char) :
    trimEnd (cs ++ row) = cs ++ trimEnd row := by
  unfold trimEnd
  have hsome : ¬ (row.reverse.dropWhile isBlank).isEmpty = true := by
    rw [List.isEmpty_iff, List.dropWhile_eq_nil_iff]
    simpa using h
  rw [List.reverse_append, List.dropWhile_append, if_neg hsome, List.reverse_append,
    List.reverse_reverse]

theorem all_blank_trimEnd (row : List Char) :
    (trimEnd row).all isBlank = row.all isBlank := by
  obtain ⟨blanks, hrow, hblanks⟩ := trimEnd_append_blanks row
  conv => rhs; rw [hrow, List.all_append, hblanks, Bool.and_true]

theorem trimEnd_trimEnd (cs : List Char) : trimEnd (trimEnd cs) = trimEnd cs := by
  obtain ⟨blanks, hcs, hblanks⟩ := trimEnd_append_blanks cs
  conv => rhs; rw [hcs, trimEnd_append_of_blank _ hblanks]

theorem not_all_blank_endRows {xs : List (List Char)} {row : List Char} (hrow : row ∈ xs)
    (h : ¬ row.all isBlank = true) : ¬ (endRows xs).all isBlank = true := by
  intro hblank
  refine h (List.all_eq_true.mpr fun c hc => List.all_eq_true.mp hblank c ?_)
  exact List.mem_flatMap.mpr ⟨row, hrow, List.mem_append_left _ hc⟩

/-- Trimming rows that are joined leaves the rows up to some row, and that row without the blanks at
its end; the rows behind it are blank. -/
theorem exists_trimmed_row :
    ∀ {xs : List (List Char)}, xs ≠ [] →
      ∃ init last rest, xs = init ++ last :: rest ∧ (∀ row ∈ rest, row.all isBlank = true) ∧
        trimEnd (joinRows xs) = joinRows (init ++ [trimEnd last])
  | [], hne => absurd rfl hne
  | row :: others, _ => by
    by_cases hothers : ∃ r ∈ others, ¬ r.all isBlank = true
    · -- the cut is behind this row
      obtain ⟨solid, hmem, hsolid⟩ := hothers
      obtain ⟨init, last, rest, hcut, hrest, htrim⟩ :=
        exists_trimmed_row (List.ne_nil_of_mem hmem)
      have hrow : endRows [row] = row ++ ['\n'] := List.flatMap_singleton ..
      refine ⟨row :: init, last, rest, congrArg (row :: ·) hcut, hrest, ?_⟩
      calc trimEnd (joinRows (row :: others))
          = trimEnd (endRows [row] ++ endRows others) := by
            rw [trimEnd_joinRows, endRows_cons, hrow, List.append_assoc, List.singleton_append]
        _ = endRows [row] ++ joinRows (init ++ [trimEnd last]) := by
            rw [trimEnd_append (not_all_blank_endRows hmem hsolid), ← trimEnd_joinRows, htrim]
        _ = joinRows (row :: init ++ [trimEnd last]) := by
            refine (joinRows_append ?_ [row]).symm
            exact List.append_ne_nil_of_right_ne_nil _ (List.cons_ne_nil _ _)
    · have hblank : ∀ r ∈ others, r.all isBlank = true :=
        fun r hr => Decidable.of_not_not fun h => hothers ⟨r, hr, h⟩
      have halike : BlankRows.Alike ((row ++ []) :: others) [row] :=
        BlankRows.Alike.of_blank_end row rfl hblank
      rw [List.append_nil] at halike
      exact ⟨[], row, others, rfl, hblank, halike⟩

end Text

namespace BlankRows

variable {guarded : List Nat} {rows : List NumberedRow}

/-! ## Rows with no long run -/

/-- No more than two rows that are not kept stand one behind the other, and `pending` of them stand
before these; for each row it is given whether it is kept. -/
def Spaced : Nat → List Bool → Prop
  | pending, [] => pending ≤ 2
  | pending, true :: flags => pending ≤ 2 ∧ Spaced 0 flags
  | pending, false :: flags => Spaced (pending + 1) flags

theorem Spaced.le {flags : List Bool} {pending : Nat} (h : Spaced pending flags) : pending ≤ 2 := by
  induction flags generalizing pending with
  | nil => exact h
  | cons b flags ih =>
    cases b with
    | true => exact h.1
    | false =>
      have hnext : pending + 1 ≤ 2 := ih h
      omega

theorem Spaced.of_append {flags more : List Bool} {pending : Nat}
    (h : Spaced pending (flags ++ more)) : Spaced pending flags := by
  induction flags generalizing pending with
  | nil => exact h.le
  | cons b flags ih =>
    cases b with
    | true => exact ⟨h.1, ih h.2⟩
    | false =>
      show Spaced (pending + 1) flags
      exact ih h

/-- Rows that are not kept, with one behind them that is. -/
theorem Spaced.cons_run {others flags : List Bool} (h : Spaced 0 flags)
    (hothers : ∀ b ∈ others, b = false) :
    ∀ {pending : Nat}, pending + others.length ≤ 2 → Spaced pending (others ++ true :: flags) := by
  induction others with
  | nil =>
    intro pending hle
    exact ⟨hle, h⟩
  | cons b others ih =>
    intro pending hle
    obtain ⟨rfl, hrest⟩ := List.forall_mem_cons.mp hothers
    rw [List.length_cons] at hle
    exact ih hrest (by omega)

/-- For each row whether it is kept, from number `i` on. -/
def keptFlags (guarded : List Nat) (i : Nat) (rows : List Row) : List Bool :=
  (rows.zipIdx i).map fun r => isKept guarded r.2 r.1

theorem keptFlags_cons (guarded : List Nat) (i : Nat) (row : Row) (rest : List Row) :
    keptFlags guarded i (row :: rest) = isKept guarded i row :: keptFlags guarded (i + 1) rest := by
  rw [keptFlags, List.zipIdx_cons, List.map_cons, keptFlags]

theorem settle_of_short {run : List Row} (h : run.length ≤ 2) : settle run = run := by
  rw [settle_eq_between, between, if_pos h]

/-- **The loop after a kept row** leaves rows as they are if none of their runs is long. -/
theorem tidyFrom_of_spaced (rows : List Row) :
    ∀ {i : Nat} {run : List Row}, Spaced run.length (keptFlags guarded i rows) →
      tidyFrom guarded i run rows = run ++ rows := by
  induction rows with
  | nil =>
    intro i run h
    rw [tidyFrom, List.append_nil]
    exact settle_of_short h
  | cons row rest ih =>
    intro i run h
    rw [keptFlags_cons] at h
    rw [tidyFrom]
    cases hkept : isKept guarded i row with
    | true =>
      rw [hkept] at h
      have hrest : tidyFrom guarded (i + 1) [] rest = [] ++ rest := ih h.2
      rw [if_pos rfl, settle_of_short h.1, hrest, List.nil_append]
    | false =>
      rw [hkept] at h
      have hrun : Spaced (run ++ [row]).length (keptFlags guarded (i + 1) rest) := by
        rw [List.length_append, List.length_singleton]
        exact h
      rw [if_neg Bool.false_ne_true, ih hrun, List.append_assoc, List.singleton_append]

theorem tidy_of_spaced {rows : List Row} {i : Nat} {flags : List Bool}
    (hflags : keptFlags guarded i rows = true :: flags) (h : Spaced 0 flags) :
    tidy guarded i rows = rows := by
  cases rows with
  | nil => exact nomatch hflags
  | cons row rest =>
    rw [keptFlags_cons] at hflags
    obtain ⟨hrow, rfl⟩ := List.cons.inj hflags
    have hrest : tidyFrom guarded (i + 1) [] rest = [] ++ rest := tidyFrom_of_spaced rest h
    rw [tidy, if_pos hrow, hrest, List.nil_append]

/-! ## Where rows come from -/

/-- A row that is shown, and the number of the row of the text that it is. A row that stands for
others has none. -/
abbrev TracedRow := Row × Option Nat

/-- What stands between two kept rows, with the numbers of the rows that stay. -/
def tracedBetween (others : List NumberedRow) : List TracedRow :=
  if others.length ≤ 2 then others.map fun r => (r.1, some r.2)
  else (between (others.map (·.1))).map fun row => (row, none)

/-- Whether a row that is shown is kept: it is a protected row of the text, or it is not blank. -/
def isKeptTraced (guarded : List Nat) (t : TracedRow) : Bool :=
  t.2.any guarded.contains || !t.1.all Text.isBlank

theorem tracedBetween_rows (others : List NumberedRow) :
    (tracedBetween others).map (·.1) = between (others.map (·.1)) := by
  unfold tracedBetween
  split
  next hshort =>
    rw [between, if_pos (by rwa [List.length_map]), List.map_map]
    rfl
  next =>
    rw [List.map_map]
    exact List.map_id _

theorem length_tracedBetween (others : List NumberedRow) : (tracedBetween others).length ≤ 2 := by
  unfold tracedBetween
  split
  next hshort =>
    rw [List.length_map]
    exact hshort
  next hlong =>
    rw [List.length_map, between, if_neg (by rwa [List.length_map])]
    split
    next => exact Nat.le_succ 1
    next => exact Nat.le_succ 1

/-- The rows that were rows of the text, with their numbers there. -/
def numbered (ts : List TracedRow) : List NumberedRow :=
  ts.filterMap fun t => t.2.map fun i => (t.1, i)

theorem numbered_append (ts us : List TracedRow) :
    numbered (ts ++ us) = numbered ts ++ numbered us :=
  List.filterMap_append

theorem numbered_tracedBetween (others : List NumberedRow) :
    (numbered (tracedBetween others)).Sublist others := by
  unfold tracedBetween
  split
  next =>
    have hall : numbered (others.map fun r => (r.1, some r.2)) = others := by
      rw [numbered, List.filterMap_map]
      exact List.filterMap_some
    exact hall.symm ▸ List.Sublist.refl others
  next =>
    have hnone : numbered ((between (others.map (·.1))).map fun row => (row, none)) = [] := by
      rw [numbered, List.filterMap_map]
      exact List.filterMap_eq_nil_iff.mpr fun _ _ => rfl
    rw [hnone]
    exact List.nil_sublist others

/-- Nothing that stands between two kept rows is kept. -/
theorem isKeptTraced_between {others : List NumberedRow} (h : ∀ r ∈ others, ¬ Kept guarded r) :
    ∀ t ∈ tracedBetween others, isKeptTraced guarded t = false := by
  intro t ht
  unfold tracedBetween at ht
  split at ht
  next =>
    obtain ⟨r, hr, rfl⟩ := List.mem_map.mp ht
    exact Bool.eq_false_iff.mpr fun hkept => h r hr (isKept_iff.mp hkept)
  next =>
    obtain ⟨row, hrow, rfl⟩ := List.mem_map.mp ht
    have hblank : ∀ row ∈ settle (others.map (·.1)), row.all Text.isBlank = true := by
      refine forall_settle (P := fun row => row.all Text.isBlank = true) rfl rfl fun row hrow => ?_
      obtain ⟨r, hr, rfl⟩ := List.mem_map.mp hrow
      exact all_blank_of_not_kept (h r hr)
    rw [settle_eq_between] at hblank
    rw [isKeptTraced, hblank row hrow]
    rfl

namespace Layout

/-- The rows that are shown from the second kept row on, with the rows of the text that they are. -/
def tracedFollowing (pieces : List (List NumberedRow × NumberedRow)) : List TracedRow :=
  pieces.flatMap fun p => tracedBetween p.1 ++ [(p.2.1, some p.2.2)]

/-- The rows that are shown, with the rows of the text that they are. -/
def traced (l : Layout guarded rows) : List TracedRow :=
  match l.pieces with
  | [] => []
  | (_, first) :: more => (first.1, some first.2) :: tracedFollowing more

/-- The rows of the text that are shown, with their numbers there. -/
def remaining (l : Layout guarded rows) : List NumberedRow := numbered l.traced

/-- The numbers, among the first `count` rows that are shown, of the rows that are protected in the
text. -/
def carried (l : Layout guarded rows) (count : Nat) : List Nat :=
  (List.range count).filter fun j => (l.traced[j]?.bind (·.2)).any guarded.contains

theorem traced_rows (l : Layout guarded rows) : l.traced.map (·.1) = l.shown := by
  unfold traced shown
  cases l.pieces with
  | nil => rfl
  | cons p more =>
    show p.2.1 :: (tracedFollowing more).map (·.1) = p.2.1 :: following more
    rw [tracedFollowing, List.map_flatMap, following]
    simp only [List.map_append, tracedBetween_rows, List.map_singleton]

theorem numbered_tracedFollowing (pieces : List (List NumberedRow × NumberedRow)) :
    (numbered (tracedFollowing pieces)).Sublist (pieces.flatMap fun p => p.1 ++ [p.2]) := by
  induction pieces with
  | nil => exact .slnil
  | cons p more ih =>
    rw [tracedFollowing, List.flatMap_cons, ← tracedFollowing, List.flatMap_cons, numbered_append,
      numbered_append]
    exact ((numbered_tracedBetween p.1).append (.refl [p.2])).append ih

/-- The rows that are shown are traced to rows of the text, in their order. -/
theorem remaining_sublist (l : Layout guarded rows) : l.remaining.Sublist rows := by
  have hall : l.remaining.Sublist (l.pieces.flatMap fun p => p.1 ++ [p.2]) := by
    unfold remaining traced
    cases l.pieces with
    | nil => exact .slnil
    | cons p more =>
      have hfirst : [p.2].Sublist (p.1 ++ [p.2]) := List.sublist_append_right ..
      exact hfirst.append (numbered_tracedFollowing more)
  conv => rhs; rw [← l.rows_eq]
  exact hall.trans (List.sublist_append_left ..)

theorem spaced_tracedFollowing {pieces : List (List NumberedRow × NumberedRow)}
    (hkept : ∀ p ∈ pieces, Kept guarded p.2) (hothers : ∀ p ∈ pieces, ∀ r ∈ p.1, ¬ Kept guarded r) :
    Spaced 0 ((tracedFollowing pieces).map (isKeptTraced guarded)) := by
  induction pieces with
  | nil => exact Nat.zero_le 2
  | cons p more ih =>
    obtain ⟨hrow, hkept⟩ := List.forall_mem_cons.mp hkept
    obtain ⟨hrun, hothers⟩ := List.forall_mem_cons.mp hothers
    have hflag : isKeptTraced guarded (p.2.1, some p.2.2) = true := isKept_iff.mpr hrow
    rw [tracedFollowing, List.flatMap_cons, ← tracedFollowing, List.map_append, List.map_append,
      List.map_singleton, hflag, List.append_assoc, List.singleton_append]
    refine (ih hkept hothers).cons_run ?_ ?_
    · intro b hb
      obtain ⟨t, ht, rfl⟩ := List.mem_map.mp hb
      exact isKeptTraced_between hrun t ht
    · rw [List.length_map, Nat.zero_add]
      exact length_tracedBetween p.1

/-- **No run of a collapsed text is long.** The first row that is shown is kept, and behind it there
are never more than two rows in a row that are not. -/
theorem spaced_traced (l : Layout guarded rows) (hne : l.traced ≠ []) :
    ∃ flags, l.traced.map (isKeptTraced guarded) = true :: flags ∧ Spaced 0 flags := by
  have hkept := l.kept
  have hothers := l.others
  unfold traced at hne ⊢
  generalize l.pieces = pieces at hne hkept hothers ⊢
  cases pieces with
  | nil => exact absurd rfl hne
  | cons p more =>
    obtain ⟨hfirst, hkept⟩ := List.forall_mem_cons.mp hkept
    refine ⟨_, ?_, spaced_tracedFollowing hkept (List.forall_mem_cons.mp hothers).2⟩
    exact congrArg (· :: _) (isKept_iff.mpr hfirst)

/-- Every kept row of the text is shown. -/
theorem mem_traced (l : Layout guarded rows) {r : NumberedRow} (hr : r ∈ rows)
    (hkept : Kept guarded r) : (r.1, some r.2) ∈ l.traced := by
  have hpieces : ∃ p ∈ l.pieces, p.2 = r := by
    rw [← l.rows_eq, List.mem_append] at hr
    rcases hr with hr | hr
    · obtain ⟨p, hp, hr⟩ := List.mem_flatMap.mp hr
      rcases List.mem_append.mp hr with hr | hr
      · exact absurd hkept (l.others p hp r hr)
      · exact ⟨p, hp, (List.mem_singleton.mp hr).symm⟩
    · exact absurd hkept (l.behind r hr)
  obtain ⟨p, hp, rfl⟩ := hpieces
  unfold traced
  cases hall : l.pieces with
  | nil =>
    rw [hall] at hp
    exact absurd hp List.not_mem_nil
  | cons first more =>
    rw [hall] at hp
    rcases List.mem_cons.mp hp with rfl | hp
    · exact List.mem_cons_self ..
    · refine List.mem_cons_of_mem _ (List.mem_flatMap.mpr ⟨p, hp, ?_⟩)
      exact List.mem_append_right _ (List.mem_singleton_self _)

theorem mem_carried {l : Layout guarded rows} {count j : Nat} {t : TracedRow}
    (ht : l.traced[j]? = some t) (hj : j < count) :
    j ∈ l.carried count ↔ t.2.any guarded.contains = true := by
  rw [carried, List.mem_filter, List.mem_range, ht, Option.bind_some]
  exact and_iff_right hj

theorem carried_nil {rows : List NumberedRow} (l : Layout [] rows) (count : Nat) :
    l.carried count = [] := by
  refine List.filter_eq_nil_iff.mpr fun j _ => ?_
  cases l.traced[j]?.bind (·.2) with
  | none => exact Bool.false_ne_true
  | some i => exact Bool.false_ne_true

end Layout

/-- Rows that are protected under other numbers, but the same of them, are kept as before. -/
theorem keptFlags_traced {carried : List Nat} {ts : List TracedRow} :
    ∀ {i : Nat}, (∀ t ∈ ts.zipIdx i, (t.2 ∈ carried ↔ t.1.2.any guarded.contains = true)) →
      keptFlags carried i (ts.map (·.1)) = ts.map (isKeptTraced guarded) := by
  induction ts with
  | nil =>
    intro i _
    rfl
  | cons t ts ih =>
    intro i h
    rw [List.zipIdx_cons] at h
    obtain ⟨hfirst, hrest⟩ := List.forall_mem_cons.mp h
    have hflag : isKept carried i t.1 = isKeptTraced guarded t := by
      have hnumber : carried.contains i = t.2.any guarded.contains := by
        rw [Bool.eq_iff_iff, List.contains_iff_mem]
        exact hfirst
      rw [isKept, isKeptTraced, hnumber]
    rw [List.map_cons, keptFlags_cons, hflag, ih hrest, List.map_cons]

/-- The rows up to some row, that one without the blanks at its end, are kept as they were in the
text, if the protected rows are carried along. -/
theorem keptFlags_carried {l : Layout guarded rows} {init rest : List TracedRow} {last : TracedRow}
    (htraced : l.traced = init ++ last :: rest) :
    keptFlags (l.carried (init.length + 1)) 0 (init.map (·.1) ++ [Text.trimEnd last.1]) =
      (init ++ [last]).map (isKeptTraced guarded) := by
  have hlast : l.traced[init.length]? = some last := by
    rw [htraced, List.getElem?_append_right (Nat.le_refl _), Nat.sub_self]
    rfl
  have htrimmed :
      isKeptTraced guarded (Text.trimEnd last.1, last.2) = isKeptTraced guarded last := by
    rw [isKeptTraced, isKeptTraced, Text.all_blank_trimEnd]
  have hflags : keptFlags (l.carried (init.length + 1)) 0
      ((init ++ [(Text.trimEnd last.1, last.2)]).map (·.1)) =
        (init ++ [(Text.trimEnd last.1, last.2)]).map (isKeptTraced guarded) := by
    refine keptFlags_traced fun t ht => ?_
    rw [List.zipIdx_append, List.mem_append] at ht
    rcases ht with ht | ht
    · have hnumber := List.mem_zipIdx_iff_getElem?.mp ht
      have hlt := (List.getElem?_eq_some_iff.mp hnumber).1
      refine Layout.mem_carried ?_ (by omega)
      rw [htraced, List.getElem?_append_left hlt, hnumber]
    · rw [List.zipIdx_singleton, List.mem_singleton] at ht
      have hcarried := Layout.mem_carried hlast (Nat.lt_succ_self init.length)
      rw [ht, Nat.zero_add]
      exact hcarried
  rw [List.map_append, List.map_append, List.map_singleton, List.map_singleton, htrimmed] at hflags
  rw [hflags, List.map_append, List.map_singleton]

/-! ## Collapsing again -/

/-- How row `j` of the rows that are shown stands in a collapsed text: as it is, without the blanks
at its end if it is the last one, or not at all if it is blank and trimming took it away. -/
def StandsAt (out : List Row) (j : Nat) (row : Row) : Prop :=
  if j + 1 < out.length then out[j]? = some row
  else if j + 1 = out.length then out[j]? = some (Text.trimEnd row)
  else row.all Text.isBlank = true

section Collapsed

variable {text : String} (l : Layout guarded (Text.rows text.toList).zipIdx)

theorem not_mem_shown : ∀ row ∈ l.shown, '\n' ∉ row := by
  obtain ⟨blanks, htidy, -⟩ := tidy_layout l
  have htidied : ∀ row ∈ tidy guarded 0 (Text.rows text.toList), '\n' ∉ row :=
    forall_tidy List.not_mem_nil (by decide) fun row hrow => Text.not_mem_of_mem_rows hrow
  rw [htidy] at htidied
  exact fun row hrow => htidied row (List.mem_append_left _ hrow)

/-- The rows of a collapsed text are the first of those that are shown, and the last of them without
the blanks at its end; the others are blank. -/
theorem exists_rows_collapse (hne : l.traced ≠ []) :
    ∃ init last rest, l.traced = init ++ last :: rest ∧
      (∀ t ∈ rest, t.1.all Text.isBlank = true) ∧
      Text.rows (collapse text guarded).toList = init.map (·.1) ++ [Text.trimEnd last.1] := by
  have hshown : l.shown ≠ [] := by
    rw [← l.traced_rows]
    exact fun hnil => hne (List.map_eq_nil_iff.mp hnil)
  obtain ⟨initRows, lastRow, restRows, hcut, hblank, htrim⟩ := Text.exists_trimmed_row hshown
  have hfeed := not_mem_shown l
  rw [hcut] at hfeed
  have htrimmed : '\n' ∉ Text.trimEnd lastRow := by
    obtain ⟨blanks, hrow, -⟩ := Text.trimEnd_append_blanks lastRow
    have hlast := hfeed lastRow (List.mem_append_right _ (List.mem_cons_self ..))
    rw [hrow] at hlast
    exact fun hmem => hlast (List.mem_append_left _ hmem)
  have hrows : Text.rows (collapse text guarded).toList = initRows ++ [Text.trimEnd lastRow] := by
    rw [collapse_layout l, htrim]
    refine Text.rows_joinRows (List.append_ne_nil_of_right_ne_nil _ (List.cons_ne_nil _ _)) ?_
    intro row hrow
    rcases List.mem_append.mp hrow with hrow | hrow
    · exact hfeed row (List.mem_append_left _ hrow)
    · exact List.mem_singleton.mp hrow ▸ htrimmed
  -- the same cut of the rows with their numbers
  rw [← l.traced_rows] at hcut
  obtain ⟨init, behind, htraced, rfl, hbehind⟩ := List.map_eq_append_iff.mp hcut
  obtain ⟨last, rest, rfl, rfl, rfl⟩ := List.map_eq_cons_iff.mp hbehind
  refine ⟨init, last, rest, htraced, fun t ht => ?_, hrows⟩
  exact hblank t.1 (List.mem_map_of_mem ht)

/-- With its protected rows carried along, a collapsed text has no long run, so the loop leaves it
as it is. -/
theorem tidy_carried (hne : l.traced ≠ []) :
    tidy (l.carried (Text.rows (collapse text guarded).toList).length) 0
      (Text.rows (collapse text guarded).toList) = Text.rows (collapse text guarded).toList := by
  obtain ⟨init, last, rest, htraced, -, hrows⟩ := exists_rows_collapse l hne
  have hcount : (Text.rows (collapse text guarded).toList).length = init.length + 1 := by
    rw [hrows, List.length_append, List.length_map, List.length_singleton]
  obtain ⟨flags, hflags, hspaced⟩ := l.spaced_traced hne
  rw [htraced, List.append_cons, List.map_append] at hflags
  cases hfront : (init ++ [last]).map (isKeptTraced guarded) with
  | nil => exact absurd hfront (by simp)
  | cons b front =>
    rw [hfront] at hflags
    obtain ⟨rfl, rfl⟩ := List.cons.inj hflags
    rw [hcount, hrows]
    exact tidy_of_spaced ((keptFlags_carried htraced).trans hfront) hspaced.of_append

theorem collapse_carried :
    collapse (collapse text guarded) (l.carried (Text.rows (collapse text guarded).toList).length) =
      collapse text guarded := by
  apply String.toList_inj.mp
  have hout := collapse_layout l
  by_cases hne : l.traced = []
  · -- nothing is shown
    have hempty : collapse text guarded = "" := by
      apply String.toList_inj.mp
      rw [hout, ← l.traced_rows, hne]
      rfl
    have hnone : l.carried (Text.rows "".toList).length = [] := by
      rw [Layout.carried, hne]
      rfl
    rw [hempty, hnone]
    decide
  · conv => lhs; rw [collapse, String.toList_ofList, tidy_carried l hne, Text.joinRows_rows]
    rw [hout, Text.trimEnd_trimEnd]

/-- A protected row of the text is shown, and so stands in the collapsed text. -/
theorem exists_place {i : Nat} {row : Row} (hi : i ∈ guarded)
    (hrow : (Text.rows text.toList)[i]? = some row) :
    ∃ j, l.traced[j]? = some (row, some i) ∧
      StandsAt (Text.rows (collapse text guarded).toList) j row := by
  have hmem : (row, some i) ∈ l.traced :=
    l.mem_traced (List.mk_mem_zipIdx_iff_getElem?.mpr hrow) (Or.inl hi)
  obtain ⟨init, last, rest, htraced, hblank, hrows⟩ :=
    exists_rows_collapse l (List.ne_nil_of_mem hmem)
  obtain ⟨j, hj⟩ := List.mem_iff_getElem?.mp hmem
  have hcount : (init.map (·.1) ++ [Text.trimEnd last.1]).length = init.length + 1 := by
    rw [List.length_append, List.length_map, List.length_singleton]
  refine ⟨j, hj, ?_⟩
  rw [hrows, StandsAt, hcount]
  rw [htraced] at hj
  split
  next hlt =>
    have hbefore : j < init.length := by omega
    rw [List.getElem?_append_left hbefore] at hj
    rw [List.getElem?_append_left (by rwa [List.length_map]), List.getElem?_map, hj]
    rfl
  next =>
    split
    next heq =>
      obtain rfl : j = init.length := by omega
      rw [List.getElem?_append_right (Nat.le_refl _), Nat.sub_self] at hj
      have hlast : last = (row, some i) := Option.some.inj hj
      rw [List.getElem?_append_right (by rw [List.length_map]), List.length_map, Nat.sub_self,
        hlast]
      rfl
    next =>
      obtain ⟨k, rfl⟩ : ∃ k, j = init.length + (k + 1) := ⟨j - init.length - 1, by omega⟩
      rw [List.getElem?_append_right (by omega), Nat.add_sub_cancel_left,
        List.getElem?_cons_succ] at hj
      exact hblank _ (List.mem_of_getElem? hj)

end Collapsed

/-- **Collapsing again changes nothing** if the protected rows are carried along. The rows that are
shown are traced to rows of the text in their order, and each protected row is among them; the
numbers of those that still stand in the collapsed text are what protects them there. Where no row
is protected, a text is collapsed once and for all. -/
theorem collapse_idempotent (text : String) (guarded : List Nat) :
    (∃ l : Layout guarded (Text.rows text.toList).zipIdx,
      (∀ l' : Layout guarded (Text.rows text.toList).zipIdx, l' = l) ∧
      l.remaining.Sublist (Text.rows text.toList).zipIdx ∧
      (∀ i ∈ guarded, ∀ row, (Text.rows text.toList)[i]? = some row →
        ∃ j, l.traced[j]? = some (row, some i) ∧
          StandsAt (Text.rows (collapse text guarded).toList) j row) ∧
      collapse (collapse text guarded)
          (l.carried (Text.rows (collapse text guarded).toList).length) =
        collapse text guarded) ∧
    collapse (collapse text []) [] = collapse text [] := by
  have hlayout : ∀ guarded : List Nat, ∃ l : Layout guarded (Text.rows text.toList).zipIdx,
      ∀ l' : Layout guarded (Text.rows text.toList).zipIdx, l' = l := by
    intro guarded
    obtain ⟨l, -⟩ :=
      exists_layout_tidy (Text.rows text.toList) 0 [] fun r hr => absurd hr List.not_mem_nil
    exact ⟨l, fun l' => l'.unique l⟩
  refine ⟨?_, ?_⟩
  · obtain ⟨l, hunique⟩ := hlayout guarded
    refine ⟨l, hunique, l.remaining_sublist, ?_, collapse_carried l⟩
    exact fun i hi row hrow => exists_place l hi hrow
  · obtain ⟨l, -⟩ := hlayout []
    have hagain := collapse_carried l
    rwa [l.carried_nil] at hagain

/-- Two blank rows on each side of a protected one stay. They only do so again if the protected row
is known by its new number. -/
example : collapse " \na\n\n\n\n\n\nb\n" [4] = "a\n\n\n\n\n\nb" ∧
    collapse "a\n\n\n\n\n\nb" [3] = "a\n\n\n\n\n\nb" ∧
    collapse "a\n\n\n\n\n\nb" [4] = "a\n\n\n\nb" := by
  decide +kernel

end BlankRows

end Unbundle
