import Unbundle.Proofs.LoaderBlock

/-!
# Stripping finds every block, and nothing else

Stripping removes a block exactly where a row starts the loader's region and a later row ends a
region (`found_iff`); a text in which it finds none stays as it is (`stripRows_of_not_found`). Rows
that stay are put together anew where a block was, but what is left has no block either, so one pass
is enough (`strip_complete`).

A rendered loader is one block, whatever the names in it. Behind whole rows that do not start the
region it goes from its first character to its last, and what follows it is stripped as if it stood
alone (`strip_round_trip`).
-/

namespace Unbundle.Loader

/-- A row that starts the loader's region comes before a row that ends a region. -/
def HasBlock (rows : List Row) : Prop :=
  ∃ before first behind, rows = before ++ first :: behind ∧ StartsRegion first ∧
    ∃ last ∈ behind, EndsRegion last

/-! ## What is found -/

/-- Once a region is open, every row that closes one ends a block. -/
theorem found_of_held (rows : List Row) :
    ∀ held : List Row, (stripRows (some held) rows).2 = rows.any closes := by
  induction rows with
  | nil =>
    intro held
    rfl
  | cons row rest ih =>
    intro held
    unfold stripRows
    split
    next hcloses => rw [List.any_cons, hcloses, Bool.true_or]
    next hcloses => rw [ih, List.any_cons, Bool.eq_false_iff.mpr hcloses, Bool.false_or]

/-- A block is found exactly if there is one. -/
theorem found_iff {rows : List Row} : (stripRows none rows).2 = true ↔ HasBlock rows := by
  unfold HasBlock
  induction rows with
  | nil => exact iff_of_false Bool.false_ne_true fun ⟨_, _, _, hnil, _⟩ => absurd hnil (by simp)
  | cons row rest ih =>
    unfold stripRows
    split
    next hopens =>
      rw [found_of_held, List.any_eq_true]
      constructor
      · intro h
        obtain ⟨last, hlast, hcloses⟩ := h
        exact ⟨[], row, rest, rfl, opens_iff.mp hopens, last, hlast,
          closes_iff.mp hcloses⟩
      · intro h
        obtain ⟨before, first, behind, hrows, -, last, hlast, hends⟩ := h
        refine ⟨last, ?_, closes_iff.mpr hends⟩
        -- the row stands behind some row, so it is not the first one
        cases before with
        | nil =>
          obtain ⟨-, rfl⟩ := List.cons.inj hrows
          exact hlast
        | cons _ before =>
          obtain ⟨-, rfl⟩ := List.cons.inj hrows
          exact List.mem_append_right _ (List.mem_cons_of_mem _ hlast)
    next hopens =>
      show (stripRows none rest).2 = true ↔ _
      rw [ih]
      constructor
      · intro h
        obtain ⟨before, first, behind, hrows, hblock⟩ := h
        exact ⟨row :: before, first, behind, congrArg (row :: ·) hrows, hblock⟩
      · intro h
        obtain ⟨before, first, behind, hrows, hstarts, hblock⟩ := h
        cases before with
        | nil =>
          obtain ⟨rfl, -⟩ := List.cons.inj hrows
          exact absurd (opens_iff.mpr hstarts) hopens
        | cons _ before =>
          obtain ⟨-, hrest⟩ := List.cons.inj hrows
          exact ⟨before, first, behind, hrest, hstarts, hblock⟩

theorem not_hasBlock {rows : List Row} (h : BlockFree rows) : ¬ HasBlock rows := by
  intro hblock
  obtain ⟨before, first, behind, hrows, hstarts, last, hlast, hends⟩ := hblock
  rw [hrows, BlockFree, List.pairwise_append, List.pairwise_cons] at h
  have hcloses := h.2.1.1 last hlast (opens_iff.mpr hstarts)
  rw [closes_iff.mpr hends] at hcloses
  exact Bool.noConfusion hcloses

/-- Rows in which no block is found all stay, those that are held with them. -/
theorem stripRows_of_not_found :
    ∀ {rows : List Row} {held : Option (List Row)}, (stripRows held rows).2 = false →
      (stripRows held rows).1 = held.getD [] ++ rows
  | [], none, _ => rfl
  | [], some held, _ => (List.append_nil held).symm
  | row :: rest, none, h => by
    unfold stripRows at h ⊢
    split at h
    next hopens =>
      rw [if_pos hopens, stripRows_of_not_found h]
      rfl
    next hopens =>
      rw [if_neg hopens]
      exact congrArg (row :: ·) (stripRows_of_not_found h)
  | row :: rest, some held, h => by
    unfold stripRows at h ⊢
    split at h
    next => exact Bool.noConfusion h
    next hcloses =>
      rw [if_neg hcloses, stripRows_of_not_found h, Option.getD_some, Option.getD_some,
        List.append_assoc, List.singleton_append]

theorem strip_of_not_hasBlock {text : String} (h : ¬ HasBlock (Text.rows text.toList)) :
    strip text = (text, false) := by
  have hfound : (stripRows none (Text.rows text.toList)).2 = false :=
    Bool.eq_false_iff.mpr fun hfound => h (found_iff.mp hfound)
  have hrows := stripRows_of_not_found hfound
  rw [Option.getD_none, List.nil_append] at hrows
  unfold strip
  simp only [hrows, hfound]
  rw [Text.joinRows_rows, String.ofList_toList]

/-- **One pass strips everything.** Where the pieces around a block meet no new block comes up, so
stripping again finds nothing and changes nothing. A block is found exactly if a row that starts the
loader's region has a row that ends a region behind it. -/
theorem strip_complete (text : String) :
    strip (strip text).1 = ((strip text).1, false) ∧
      ((strip text).2 = true ↔ HasBlock (Text.rows text.toList)) :=
  ⟨strip_of_not_hasBlock (not_hasBlock (blockFree_strip text)), found_iff⟩

/-! ## Blocks that were rendered -/

/-- A text that is empty or ends in a line feed consists of whole rows. -/
theorem exists_endRows {text : String} (h : text = "" ∨ ∃ front, text = front ++ "\n") :
    ∃ rows, text = String.ofList (Text.endRows rows) ∧ (∀ row ∈ rows, '\n' ∉ row) ∧
      ∀ row ∈ rows, row ∈ Text.rows text.toList := by
  rcases h with rfl | ⟨front, rfl⟩
  · exact ⟨[], rfl, fun _ hrow => absurd hrow List.not_mem_nil,
      fun _ hrow => absurd hrow List.not_mem_nil⟩
  · have hfront : (front ++ "\n").toList = Text.endRows (Text.rows front.toList) := by
      rw [String.toList_append, Text.endRows_rows]
      rfl
    have hfeed : ∀ row ∈ Text.rows front.toList, '\n' ∉ row := fun _ => Text.not_mem_of_mem_rows
    refine ⟨Text.rows front.toList, ?_, hfeed, ?_⟩
    · rw [← hfront, String.ofList_toList]
    · have hrows := Text.rows_endRows_append hfeed []
      rw [List.append_nil, ← hfront] at hrows
      intro row hrow
      rw [hrows]
      exact List.mem_append_left _ hrow

/-- **A rendered loader is recognised from end to end.** Behind whole rows none of which starts the
loader's region, exactly the loader is removed, and what follows is stripped by itself. -/
theorem strip_round_trip {publicDir privateDir extension newline before : String}
    (hnames : OneLine publicDir privateDir extension) (hnewline : LineEnding newline)
    (hwhole : before = "" ∨ ∃ front, before = front ++ "\n")
    (hstarts : ∀ row ∈ Text.rows before.toList, ¬ StartsRegion row) (after : String) :
    strip (before ++ render publicDir privateDir extension newline ++ after) =
      (before ++ (strip after).1, true) := by
  obtain ⟨rows, hbefore, hfeed, hmem⟩ := exists_endRows hwhole
  have hopens : ∀ row ∈ rows, opens row = false := by
    intro row hrow
    exact Bool.eq_false_iff.mpr fun hopens =>
      hstarts row (hmem row hrow) (opens_iff.mp hopens)
  rw [hbefore, strip_endRows_render_of_not_opens hfeed hopens hnames hnewline after]

/-- A text that mentions the marker, but not at the start of a row. -/
def sampleBefore : String := "# #region " ++ regionName ++ "\n"

/-- A text with a block of its own, whose last row goes on behind a carriage return. -/
def sampleAfter : String := "$x\n\t#region \t" ++ regionName ++ "\n#endregion\r$y"

/-- The names may hold anything but a line feed, also the word that ends a region. -/
theorem strip_round_trip_sample :
    strip (sampleBefore ++ render "#endregion" "a\r#endregion\r" ".'ps1" "\r\n" ++ sampleAfter) =
      (sampleBefore ++ "$x\n\r$y", true) := by
  have hnames : OneLine "#endregion" "a\r#endregion\r" ".'ps1" :=
    ⟨by decide, by decide, by decide⟩
  have hstarts : ∀ row ∈ Text.rows sampleBefore.toList, ¬ StartsRegion row := by
    have hopens : ∀ row ∈ Text.rows sampleBefore.toList, opens row = false := by decide +kernel
    intro row hrow hstarts
    exact absurd (opens_iff.mpr hstarts) (Bool.eq_false_iff.mp (hopens row hrow))
  have hafter : (strip sampleAfter).1 = "$x\n\r$y" := by decide +kernel
  rw [← hafter]
  exact strip_round_trip hnames (Or.inr rfl) (Or.inr ⟨"# #region " ++ regionName, rfl⟩) hstarts
    sampleAfter

end Unbundle.Loader
