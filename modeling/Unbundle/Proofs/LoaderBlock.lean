import Unbundle.Loader
import Unbundle.Proofs.BlankRows

/-!
# Which rows a loader's block takes with it

A row opens the loader's region if it starts, after blanks, with the region's marker, and closes a
region if it starts with the closing word (`opens_iff`, `closes_iff`). Blanks at the end of a row
change nothing about that, so the marks of a text are those of its collapsed form.

Stripping leaves no row that opens the region with one that closes a region behind it
(`blockFree_strip`). Behind such rows a rendered loader is removed whole, but a region that is
still open there is closed by the loader's own last row and goes with it (`strip_endRows_render`).
-/

namespace Unbundle.Loader

/-! ## Rows that open and rows that close -/

theorem prefix_append_blanks {front row blanks : List Char} {last : Char}
    (hlast : Text.isBlank last = false) (hblanks : blanks.all Text.isBlank = true)
    (h : front ++ [last] <+: row ++ blanks) : front ++ [last] <+: row := by
  obtain ⟨rest, hrest⟩ := h
  rcases List.append_eq_append_iff.mp hrest with ⟨mid, hrow, -⟩ | ⟨mid, hfront, hmid⟩
  · exact ⟨mid, hrow.symm⟩
  · -- a part that reaches into the blanks would end in a blank
    rcases List.eq_nil_or_concat mid with rfl | ⟨init, c, rfl⟩
    · exact ⟨[], by rw [List.append_nil, hfront, List.append_nil]⟩
    · rw [List.concat_eq_append, ← List.append_assoc] at hfront
      have hc : last = c := List.singleton_inj.mp (List.append_inj' hfront rfl).2
      rw [hmid, List.concat_eq_append] at hblanks
      simp [← hc, hlast] at hblanks

/-- A row that starts, after blanks, with the marker of the loader's region. -/
def StartsRegion (row : Row) : Prop :=
  ∃ lead gap rest : List Char, lead.all isGap = true ∧ gap.all isGap = true ∧ gap ≠ [] ∧
    row = lead ++ "#region".toList ++ gap ++ regionName.toList ++ rest

/-- A row that starts, after blanks, with the word that ends a region. -/
def EndsRegion (row : Row) : Prop :=
  ∃ lead rest : List Char, lead.all isGap = true ∧ row = lead ++ "#endregion".toList ++ rest

theorem opens_iff {row : Row} : opens row = true ↔ StartsRegion row := by
  simp only [opens, Bool.and_eq_true, List.isPrefixOf_iff_prefix]
  constructor
  · rintro ⟨⟨⟨behind, hcode⟩, hgap⟩, rest, hname⟩
    have hbehind : (row.dropWhile isGap).drop "#region".toList.length = behind := by
      rw [← hcode, List.drop_left]
    rw [hbehind] at hgap hname
    refine ⟨row.takeWhile isGap, behind.takeWhile isGap, rest, List.all_takeWhile,
      List.all_takeWhile, ?_, ?_⟩
    · intro hnil
      cases behind with
      | nil => exact nomatch hgap
      | cons c behind =>
        have hc : isGap c = true := hgap
        rw [List.takeWhile_cons_of_pos hc] at hnil
        exact nomatch hnil
    · rw [List.append_assoc, hname, List.append_assoc, List.takeWhile_append_dropWhile,
        List.append_assoc, hcode, List.takeWhile_append_dropWhile]
  · rintro ⟨lead, gap, rest, hlead, hgap, hne, rfl⟩
    have hcode : (lead ++ "#region".toList ++ gap ++ regionName.toList ++ rest).dropWhile isGap =
        "#region".toList ++ (gap ++ (regionName.toList ++ rest)) := by
      simp only [List.append_assoc]
      rw [List.dropWhile_append_of_pos (List.all_eq_true.mp hlead)]
      rfl
    have hname : (gap ++ (regionName.toList ++ rest)).dropWhile isGap =
        regionName.toList ++ rest := by
      rw [List.dropWhile_append_of_pos (List.all_eq_true.mp hgap)]
      rfl
    rw [hcode, List.drop_left, hname]
    refine ⟨⟨List.prefix_append .., ?_⟩, List.prefix_append ..⟩
    cases gap with
    | nil => exact absurd rfl hne
    | cons c gap => exact (Bool.and_eq_true_iff.mp hgap).1

theorem closes_iff {row : Row} : closes row = true ↔ EndsRegion row := by
  rw [closes, List.isPrefixOf_iff_prefix]
  constructor
  · rintro ⟨rest, hcode⟩
    refine ⟨row.takeWhile isGap, rest, List.all_takeWhile, ?_⟩
    show row = row.takeWhile isGap ++ closing ++ rest
    rw [List.append_assoc, hcode, List.takeWhile_append_dropWhile]
  · rintro ⟨lead, rest, hlead, rfl⟩
    rw [List.append_assoc, List.dropWhile_append_of_pos (List.all_eq_true.mp hlead)]
    exact ⟨rest, rfl⟩

theorem opens_append_blanks (row : Row) {blanks : Row} (hblanks : blanks.all Text.isBlank = true) :
    opens (row ++ blanks) = opens row := by
  rw [Bool.eq_iff_iff, opens_iff, opens_iff]
  constructor
  · rintro ⟨lead, gap, rest, hlead, hgap, hne, hrow⟩
    obtain ⟨name, hname⟩ : ∃ name, regionName.toList = name ++ [')'] :=
      ⟨regionName.toList.dropLast, by decide⟩
    rw [hname, ← List.append_assoc] at hrow
    obtain ⟨rest', hrest⟩ := prefix_append_blanks rfl hblanks ⟨rest, hrow.symm⟩
    refine ⟨lead, gap, rest', hlead, hgap, hne, ?_⟩
    rw [← hrest, hname]
    simp only [List.append_assoc]
  · rintro ⟨lead, gap, rest, hlead, hgap, hne, rfl⟩
    exact ⟨lead, gap, rest ++ blanks, hlead, hgap, hne, List.append_assoc ..⟩

theorem closes_append_blanks (row : Row) {blanks : Row} (hblanks : blanks.all Text.isBlank = true) :
    closes (row ++ blanks) = closes row := by
  rw [Bool.eq_iff_iff, closes_iff, closes_iff]
  constructor
  · rintro ⟨lead, rest, hlead, hrow⟩
    obtain ⟨word, hword⟩ : ∃ word, "#endregion".toList = word ++ ['n'] :=
      ⟨closing.dropLast, by decide⟩
    rw [hword, ← List.append_assoc] at hrow
    obtain ⟨rest', hrest⟩ := prefix_append_blanks rfl hblanks ⟨rest, hrow.symm⟩
    refine ⟨lead, rest', hlead, ?_⟩
    rw [← hrest, hword]
    simp only [List.append_assoc]
  · rintro ⟨lead, rest, hlead, rfl⟩
    exact ⟨lead, rest ++ blanks, hlead, List.append_assoc ..⟩

/-- A row that opens the region does not close one. -/
theorem closes_of_opens {row : Row} (h : opens row = true) : closes row = false := by
  rw [Bool.eq_false_iff]
  intro hcloses
  simp only [opens, Bool.and_eq_true, List.isPrefixOf_iff_prefix] at h
  rw [closes, List.isPrefixOf_iff_prefix] at hcloses
  exact absurd (List.prefix_of_prefix_length_le h.1.1 hcloses (by decide)) (by decide)

theorem opens_cons {c : Char} (hgap : isGap c = false) (hc : c ≠ '#') (row : Row) :
    opens (c :: row) = false := by
  have hword : "#region".toList = '#' :: "#region".toList.tail := by decide
  rw [opens, List.dropWhile_cons_of_neg (by simp [hgap]), hword, List.isPrefixOf,
    beq_eq_false_iff_ne.mpr hc.symm]
  rfl

theorem closes_cons {c : Char} (hgap : isGap c = false) (hc : c ≠ '#') (row : Row) :
    closes (c :: row) = false := by
  have hword : closing = '#' :: closing.tail := by decide
  rw [closes, List.dropWhile_cons_of_neg (by simp [hgap]), hword, List.isPrefixOf,
    beq_eq_false_iff_ne.mpr hc.symm, Bool.false_and]

/-! ## The marks of a text -/

/-- What a row is to a search for blocks. -/
inductive Mark
  | opening
  | closing
  deriving DecidableEq, Repr

/-- The mark of a row, if it has one. -/
def markOf (row : Row) : List Mark :=
  if opens row then [.opening] else if closes row then [.closing] else []

/-- The marks of a text, row by row. -/
def marks (cs : List Char) : List Mark := (Text.rows cs).flatMap markOf

theorem opening_mem_markOf {row : Row} : Mark.opening ∈ markOf row ↔ opens row = true := by
  unfold markOf
  split
  next h => simp [h]
  next h => split <;> simp [h]

theorem closing_mem_markOf {row : Row} : Mark.closing ∈ markOf row ↔ closes row = true := by
  unfold markOf
  split
  next h => simp [closes_of_opens h]
  next h => split <;> simp_all

theorem opening_not_mem {rows : List Row} :
    Mark.opening ∉ rows.flatMap markOf ↔ ∀ row ∈ rows, opens row = false := by
  simp only [List.mem_flatMap, opening_mem_markOf, not_exists, not_and, Bool.not_eq_true]

theorem markOf_append_blanks (row blanks : Row) (h : blanks.all Text.isBlank = true) :
    markOf (row ++ blanks) = markOf row := by
  rw [markOf, opens_append_blanks row h, closes_append_blanks row h, markOf]

theorem marks_append_blanks (cs : List Char) {blanks : List Char}
    (h : blanks.all Text.isBlank = true) : marks (cs ++ blanks) = marks cs :=
  BlankRows.flatMap_rows_append_blanks rfl markOf_append_blanks cs h

theorem marks_collapse (text : String) (guarded : List Nat) :
    marks (BlankRows.collapse text guarded).toList = marks text.toList :=
  BlankRows.flatMap_rows_collapse rfl markOf_append_blanks text guarded

/-- No row opens the loader's region with one behind it that closes a region. -/
def BlockFree (rows : List Row) : Prop := rows.Pairwise fun a b => opens a = true → closes b = false

instance (rows : List Row) : Decidable (BlockFree rows) :=
  inferInstanceAs (Decidable (rows.Pairwise fun a b => opens a = true → closes b = false))

/-- Whether rows have a block is seen from their marks. -/
theorem blockFree_iff {rows : List Row} :
    BlockFree rows ↔ (rows.flatMap markOf).Pairwise fun a b => a = .opening → b ≠ .closing := by
  have hrow : ∀ row, (markOf row).Pairwise fun a b => a = .opening → b ≠ .closing := by
    intro row
    unfold markOf
    split
    next => exact List.pairwise_singleton ..
    next => split <;> simp
  rw [List.pairwise_flatMap, and_iff_right fun row _ => hrow row]
  refine List.Pairwise.iff fun a b => ?_
  constructor
  · rintro h _ ha _ hb rfl rfl
    exact nomatch (h (opening_mem_markOf.mp ha)).symm.trans (closing_mem_markOf.mp hb)
  · intro h ha
    rw [Bool.eq_false_iff]
    intro hb
    exact h _ (opening_mem_markOf.mpr ha) _ (closing_mem_markOf.mpr hb) rfl rfl

/-! ## Stripping -/

/-- What stays of a row that closes a block does not open another one. -/
theorem opens_closingRest {row rest : Row} {last : Bool} (h : closingRest row last = some rest) :
    opens rest = false := by
  unfold closingRest at h
  simp only at h
  split at h
  next => exact nomatch h
  next =>
    cases h
    have hhead := List.head?_dropWhile_not (· != '\r') ((row.dropWhile isGap).drop closing.length)
    cases hrest : ((row.dropWhile isGap).drop closing.length).dropWhile (· != '\r') with
    | nil => rfl
    | cons c rest =>
      rw [hrest] at hhead
      have hc : c = '\r' := by simpa using hhead
      rw [hc]
      exact opens_cons rfl (by decide) rest

/-- Stripping leaves no block: the rows that are held have none, and neither have those that stay
behind a block. -/
theorem blockFree_stripRows :
    ∀ (rows : List Row) (held : Option (List Row)), (∀ h ∈ held, BlockFree h) →
      BlockFree (stripRows held rows).1
  | [], none, _ => .nil
  | [], some held, h => h held rfl
  | row :: rest, none, _ => by
    unfold stripRows
    split
    next =>
      refine blockFree_stripRows rest (some [row]) fun h hh => ?_
      cases hh
      exact List.pairwise_singleton ..
    next hopens =>
      have hrest := blockFree_stripRows rest none fun _ h => nomatch h
      exact .cons (fun _ _ hrow => absurd hrow hopens) hrest
  | row :: rest, some held, h => by
    unfold stripRows
    split
    next =>
      have hrest := blockFree_stripRows rest none fun _ h => nomatch h
      cases hclosing : closingRest row rest.isEmpty with
      | none => exact hrest
      | some behind =>
        have hbehind := opens_closingRest hclosing
        exact .cons (fun _ _ hopens => nomatch hopens.symm.trans hbehind) hrest
    next hcloses =>
      refine blockFree_stripRows rest (some (held ++ [row])) fun h' hh => ?_
      cases hh
      refine List.pairwise_append.mpr ⟨h held rfl, List.pairwise_singleton .., ?_⟩
      intro a _ b hb _
      rw [List.mem_singleton.mp hb]
      exact Bool.eq_false_iff.mpr hcloses

theorem stripRows_append {front : List Row} (h : ∀ row ∈ front, opens row = false)
    (rest : List Row) :
    stripRows none (front ++ rest) =
      (front ++ (stripRows none rest).1, (stripRows none rest).2) := by
  induction front with
  | nil => rfl
  | cons row front ih =>
    have hrest := ih fun r hr => h r (List.mem_cons_of_mem _ hr)
    rw [List.cons_append, stripRows, if_neg (by simp [h row (List.mem_cons_self ..)]), hrest]
    rfl

theorem stripRows_held {mid : List Row} (h : ∀ row ∈ mid, closes row = false)
    (held rest : List Row) :
    stripRows (some held) (mid ++ rest) = stripRows (some (held ++ mid)) rest := by
  induction mid generalizing held with
  | nil => rw [List.append_nil, List.nil_append]
  | cons row mid ih =>
    have hrest := ih (fun r hr => h r (List.mem_cons_of_mem _ hr)) (held ++ [row])
    rw [List.cons_append, stripRows, if_neg (by simp [h row (List.mem_cons_self ..)]), hrest,
      List.append_assoc, List.singleton_append]

/-- The first block goes, from the first row that opens the region to the next one that closes. -/
theorem stripRows_block {front mid : List Row} {first last : Row}
    (hfront : ∀ row ∈ front, opens row = false) (hfirst : opens first = true)
    (hmid : ∀ row ∈ mid, closes row = false) (hlast : closes last = true) (rest : List Row) :
    stripRows none (front ++ first :: (mid ++ last :: rest)) =
      (front ++ ((closingRest last rest.isEmpty).toList ++ (stripRows none rest).1), true) := by
  rw [stripRows_append hfront, stripRows, if_pos hfirst, stripRows_held hmid, stripRows,
    if_pos hlast]

theorem stripRows_ne_nil :
    ∀ {rows : List Row} {held : Option (List Row)}, (held = none → rows ≠ []) →
      (∀ h ∈ held, h ≠ []) → (stripRows held rows).1 ≠ []
  | [], none, h, _ => absurd rfl (h rfl)
  | [], some held, _, hheld => hheld held rfl
  | row :: rest, none, _, _ => by
    unfold stripRows
    split
    next =>
      refine stripRows_ne_nil (fun h => nomatch h) fun h hh => ?_
      cases hh
      exact List.cons_ne_nil _ _
    next => exact List.cons_ne_nil _ _
  | row :: rest, some held, _, _ => by
    unfold stripRows
    split
    next =>
      cases rest with
      | nil => simp [closingRest]
      | cons next rest =>
        have hrest : (stripRows none (next :: rest)).1 ≠ [] :=
          stripRows_ne_nil (fun _ => List.cons_ne_nil _ _) fun _ h => nomatch h
        exact fun hnil => hrest (List.append_eq_nil_iff.mp hnil).2
    next =>
      refine stripRows_ne_nil (fun h => nomatch h) fun h hh => ?_
      cases hh
      simp

theorem subset_of_closingRest {row rest : Row} {last : Bool}
    (h : closingRest row last = some rest) : rest ⊆ row := by
  unfold closingRest at h
  simp only at h
  split at h
  next => exact nomatch h
  next =>
    cases h
    exact ((List.dropWhile_sublist _).trans
      ((List.drop_sublist ..).trans (List.dropWhile_sublist _))).subset

/-- Stripping brings no character into the rows. -/
theorem not_mem_stripRows {c : Char} :
    ∀ {rows : List Row} {held : Option (List Row)}, (∀ row ∈ rows, c ∉ row) →
      (∀ h ∈ held, ∀ row ∈ h, c ∉ row) → ∀ row ∈ (stripRows held rows).1, c ∉ row
  | [], none, _, _ => fun _ h => absurd h List.not_mem_nil
  | [], some held, _, hheld => hheld held rfl
  | first :: rest, held, hrows, hheld => by
    obtain ⟨hfirst, hrest⟩ := List.forall_mem_cons.mp hrows
    have hbehind : ∀ row ∈ (stripRows none rest).1, c ∉ row :=
      not_mem_stripRows hrest fun _ h => nomatch h
    cases held with
    | none =>
      unfold stripRows
      split
      next =>
        refine not_mem_stripRows hrest fun h hh => ?_
        cases hh
        exact List.forall_mem_singleton.mpr hfirst
      next => exact List.forall_mem_cons.mpr ⟨hfirst, hbehind⟩
    | some held =>
      unfold stripRows
      split
      next =>
        intro row hrow
        rcases List.mem_append.mp hrow with hrow | hrow
        · exact fun hmem => hfirst (subset_of_closingRest (Option.mem_toList.mp hrow) hmem)
        · exact hbehind row hrow
      next =>
        refine not_mem_stripRows hrest fun h hh => ?_
        cases hh
        exact List.forall_mem_append.mpr ⟨hheld held rfl, List.forall_mem_singleton.mpr hfirst⟩

/-! ## Rendered loaders -/

/-- Texts that end a line. -/
def LineEnding (newline : String) : Prop := newline = "\n" ∨ newline = "\r\n"

/-- Names that a loader is rendered from are all on one line. -/
structure OneLine (publicDir privateDir extension : String) : Prop where
  publicDir : '\n' ∉ publicDir.toList
  privateDir : '\n' ∉ privateDir.toList
  extension : '\n' ∉ extension.toList

/-- The rows of a loader whose lines end in `ending` and a line feed. -/
def loaderRows (publicDir privateDir extension : String) (ending : Row) : List Row :=
  (lines publicDir privateDir extension).map (·.toList ++ ending)

theorem LineEnding.exists_ending {newline : String} (h : LineEnding newline) :
    ∃ ending, newline.toList = ending ++ ['\n'] ∧ ending.all Text.isBlank = true ∧
      '\n' ∉ ending ∧ closingRest (closing ++ ending) false = none := by
  rcases h with rfl | rfl
  · exact ⟨[], by decide, by decide, by decide, by decide⟩
  · exact ⟨['\r'], by decide, by decide, by decide, by decide⟩

theorem render_toList (publicDir privateDir extension : String) {newline : String} {ending : Row}
    (h : newline.toList = ending ++ ['\n']) :
    (render publicDir privateDir extension newline).toList =
      Text.endRows (loaderRows publicDir privateDir extension ending) := by
  rw [render, String.toList_join, List.flatMap_map, Text.endRows, loaderRows, List.flatMap_map]
  simp only [String.toList_append, h, List.append_assoc]

theorem not_mem_literal {text : String} (h : '\n' ∉ text.toList) :
    '\n' ∉ (literal text).toList := by
  rw [literal, String.toList_ofList]
  simp only [List.mem_cons, List.mem_append, Text.substitute, List.mem_flatMap, not_or]
  refine ⟨⟨by decide, ?_⟩, by decide⟩
  rintro ⟨c, hc, hmem⟩
  split at hmem
  next => exact absurd hmem (by decide)
  next => exact h (List.mem_singleton.mp hmem ▸ hc)

theorem not_mem_collectLine {variableName directory extension : String}
    (hname : '\n' ∉ variableName.toList) (hdirectory : '\n' ∉ directory.toList)
    (hextension : '\n' ∉ extension.toList) :
    '\n' ∉ (collectLine variableName directory extension).toList := by
  have hfilter : '\n' ∉ ("*" ++ extension).toList := by
    rw [String.toList_append, List.mem_append, not_or]
    exact ⟨by decide, hextension⟩
  simp only [collectLine, String.toList_append, List.mem_append, not_or]
  exact ⟨⟨⟨⟨⟨⟨by decide, hname⟩, by decide⟩, not_mem_literal hdirectory⟩, by decide⟩,
    not_mem_literal hfilter⟩, by decide⟩

theorem closes_collectLine (variableName directory extension : String) :
    closes (collectLine variableName directory extension).toList = false := by
  obtain ⟨rest, hrest⟩ :
      ∃ rest, (collectLine variableName directory extension).toList = '$' :: rest := by
    simp only [collectLine, String.toList_append, List.append_assoc]
    exact ⟨_, rfl⟩
  rw [hrest]
  exact closes_cons rfl (by decide) rest

variable {publicDir privateDir extension : String}

theorem not_mem_lines (h : OneLine publicDir privateDir extension) :
    ∀ line ∈ lines publicDir privateDir extension, '\n' ∉ line.toList := by
  simp only [lines, List.forall_mem_cons]
  refine ⟨?_, not_mem_collectLine (by decide) h.privateDir h.extension,
    not_mem_collectLine (by decide) h.publicDir h.extension, ?_⟩
  · decide +kernel
  · decide +kernel

theorem not_mem_loaderRows (h : OneLine publicDir privateDir extension) {ending : Row}
    (hending : '\n' ∉ ending) :
    ∀ row ∈ loaderRows publicDir privateDir extension ending, '\n' ∉ row := by
  intro row hrow
  obtain ⟨line, hline, rfl⟩ := List.mem_map.mp hrow
  rw [List.mem_append, not_or]
  exact ⟨not_mem_lines h line hline, hending⟩

/-- No line between the first and the last one closes a region. -/
theorem lines_eq (publicDir privateDir extension : String) :
    ∃ middle, lines publicDir privateDir extension =
        ("#region " ++ regionName) :: (middle ++ ["#endregion"]) ∧
      ∀ line ∈ middle, closes line.toList = false := by
  refine ⟨(lines publicDir privateDir extension).tail.dropLast, rfl, ?_⟩
  simp only [lines, List.tail_cons, List.dropLast, List.forall_mem_cons]
  exact ⟨closes_collectLine .., closes_collectLine .., by decide +kernel⟩

/-- A loader is one block: its first row opens the region, and no row before its last one closes
it. -/
theorem loaderRows_eq (publicDir privateDir extension : String) {ending : Row}
    (hending : ending.all Text.isBlank = true) :
    ∃ first mid, loaderRows publicDir privateDir extension ending =
        first :: (mid ++ [closing ++ ending]) ∧
      opens first = true ∧ ∀ row ∈ mid, closes row = false := by
  obtain ⟨middle, hlines, hmiddle⟩ := lines_eq publicDir privateDir extension
  refine ⟨("#region " ++ regionName).toList ++ ending, middle.map (·.toList ++ ending), ?_, ?_, ?_⟩
  · have hword : "#endregion".toList = closing := rfl
    rw [loaderRows, hlines, List.map_cons, List.map_append, List.map_singleton, hword]
  · rw [opens_append_blanks _ hending]
    decide
  · intro row hrow
    obtain ⟨line, hline, rfl⟩ := List.mem_map.mp hrow
    rw [closes_append_blanks _ hending]
    exact hmiddle line hline

/-- Rows without a block before a loader: what goes reaches from the first row that opens the
region, or else from the loader's first row, to the loader's last row. -/
theorem stripRows_loaderRows (publicDir privateDir extension : String)
    {before after : List Row} {ending : Row} (hbefore : BlockFree before)
    (hafter : after ≠ []) (hending : ending.all Text.isBlank = true)
    (hclosing : closingRest (closing ++ ending) false = none) :
    stripRows none (before ++ (loaderRows publicDir privateDir extension ending ++ after)) =
      (before.takeWhile (!opens ·) ++ (stripRows none after).1, true) := by
  obtain ⟨first, mid, hrows, hfirst, hmid⟩ := loaderRows_eq publicDir privateDir extension hending
  have hlast : closes (closing ++ ending) = true := by
    rw [closes_append_blanks _ hending]
    decide
  have hfront : ∀ row ∈ before.takeWhile (!opens ·), opens row = false := fun row hrow => by
    simpa using List.mem_takeWhile_imp hrow
  have hsplit : before.takeWhile (!opens ·) ++ before.dropWhile (!opens ·) = before :=
    List.takeWhile_append_dropWhile
  have hnone : closingRest (closing ++ ending) after.isEmpty = none := by
    rw [List.isEmpty_eq_false_iff.mpr hafter, hclosing]
  cases hopen : before.dropWhile (!opens ·) with
  | nil =>
    -- no region is open before the loader
    rw [hopen, List.append_nil] at hsplit
    have hblock := stripRows_block (hsplit ▸ hfront) hfirst hmid hlast after
    rw [hrows, hsplit, List.cons_append, List.append_assoc, List.singleton_append, hblock, hnone]
    rfl
  | cons opened behind =>
    have hopened : opens opened = true := by
      have hhead := List.head?_dropWhile_not (!opens ·) before
      rw [hopen] at hhead
      simpa using hhead
    have hbehind : ∀ row ∈ behind, closes row = false := by
      rw [← hsplit, hopen, BlockFree, List.pairwise_append] at hbefore
      intro row hrow
      exact (List.pairwise_cons.mp hbefore.2.1).1 row hrow hopened
    have hall : ∀ row ∈ behind ++ first :: mid, closes row = false := by
      intro row hrow
      rcases List.mem_append.mp hrow with hrow | hrow
      · exact hbehind row hrow
      · rcases List.mem_cons.mp hrow with rfl | hrow
        · exact closes_of_opens hfirst
        · exact hmid row hrow
    have hblock := stripRows_block hfront hopened hall hlast after
    rw [hnone] at hblock
    have hshape : before ++ (first :: (mid ++ [closing ++ ending]) ++ after) =
        before.takeWhile (!opens ·) ++
          opened :: (behind ++ first :: mid ++ (closing ++ ending) :: after) := by
      conv => lhs; rw [← hsplit, hopen]
      simp only [List.append_assoc, List.cons_append, List.nil_append]
    rw [hrows, hshape, hblock]
    rfl

/-! ## Stripping texts -/

theorem strip_of_no_opening {text : String}
    (h : ∀ row ∈ Text.rows text.toList, opens row = false) : strip text = (text, false) := by
  have hstrip := stripRows_append h []
  rw [List.append_nil] at hstrip
  simp only [strip, hstrip]
  rw [stripRows, List.append_nil, Text.joinRows_rows, String.ofList_toList]

theorem not_mem_strip {c : Char} (hc : c ≠ '\n') {text : String} (h : c ∉ text.toList) :
    c ∉ (strip text).1.toList := by
  have hrows : ∀ row ∈ Text.rows text.toList, c ∉ row := fun row hrow hmem =>
    h (Text.mem_of_mem_fields hrow c hmem).1
  have hstripped : ∀ row ∈ (stripRows none (Text.rows text.toList)).1, c ∉ row :=
    not_mem_stripRows hrows fun _ h => nomatch h
  simp only [strip, String.toList_ofList]
  intro hmem
  rcases Text.mem_joinRows hmem with heq | ⟨row, hrow, hmem⟩
  · exact hc heq
  · exact hstripped row hrow hmem

/-- What is left when a text is stripped has no block. -/
theorem blockFree_strip (text : String) : BlockFree (Text.rows (strip text).1.toList) := by
  have hne : (stripRows none (Text.rows text.toList)).1 ≠ [] :=
    stripRows_ne_nil (fun _ => Text.fields_ne_nil _ _) fun _ h => nomatch h
  have hfeed : ∀ row ∈ (stripRows none (Text.rows text.toList)).1, '\n' ∉ row :=
    not_mem_stripRows (fun _ hrow => Text.not_mem_of_mem_rows hrow) fun _ h => nomatch h
  simp only [strip, String.toList_ofList]
  rw [Text.rows_joinRows hne hfeed]
  exact blockFree_stripRows _ none fun _ h => nomatch h

theorem rows_endRows_render {before : List Row} {newline : String} {ending : Row}
    (hfeed : ∀ row ∈ before, '\n' ∉ row) (hnames : OneLine publicDir privateDir extension)
    (hending : newline.toList = ending ++ ['\n']) (hnone : '\n' ∉ ending) (after : String) :
    Text.rows (String.ofList (Text.endRows before) ++
        render publicDir privateDir extension newline ++ after).toList =
      before ++ (loaderRows publicDir privateDir extension ending ++ Text.rows after.toList) := by
  rw [String.toList_append, String.toList_append, String.toList_ofList,
    render_toList publicDir privateDir extension hending, List.append_assoc,
    Text.rows_endRows_append hfeed, Text.rows_endRows_append (not_mem_loaderRows hnames hnone)]

/-- A loader is removed together with a region that is still open before it. -/
theorem strip_endRows_render {before : List Row} {newline : String}
    (hfeed : ∀ row ∈ before, '\n' ∉ row) (hbefore : BlockFree before)
    (hnames : OneLine publicDir privateDir extension) (hnewline : LineEnding newline)
    (after : String) :
    strip (String.ofList (Text.endRows before) ++ render publicDir privateDir extension newline ++
        after) =
      (String.ofList (Text.endRows (before.takeWhile (!opens ·))) ++ (strip after).1, true) := by
  obtain ⟨ending, hending, hblank, hnone, hclosing⟩ := hnewline.exists_ending
  have hafter : Text.rows after.toList ≠ [] := Text.fields_ne_nil _ _
  have hstrip := stripRows_loaderRows publicDir privateDir extension hbefore hafter hblank hclosing
  have hne : (stripRows none (Text.rows after.toList)).1 ≠ [] :=
    stripRows_ne_nil (fun _ => hafter) fun _ h => nomatch h
  simp only [strip, rows_endRows_render hfeed hnames hending hnone, hstrip]
  rw [Text.joinRows_append hne, String.ofList_append]

/-- Behind rows none of which opens the loader's region, exactly the loader is removed. -/
theorem strip_endRows_render_of_not_opens {before : List Row} {newline : String}
    (hfeed : ∀ row ∈ before, '\n' ∉ row) (hopens : ∀ row ∈ before, opens row = false)
    (hnames : OneLine publicDir privateDir extension) (hnewline : LineEnding newline)
    (after : String) :
    strip (String.ofList (Text.endRows before) ++ render publicDir privateDir extension newline ++
        after) = (String.ofList (Text.endRows before) ++ (strip after).1, true) := by
  have hfree : BlockFree before := List.pairwise_of_forall_mem_list fun row hrow _ _ hopen => by
    rw [hopens row hrow] at hopen
    exact nomatch hopen
  have hall : before.takeWhile (!opens ·) = before :=
    List.takeWhile_eq_self_iff.mpr fun row hrow => by rw [hopens row hrow]; rfl
  rw [strip_endRows_render hfeed hfree hnames hnewline after, hall]

/-- The rows before the first one that opens the loader's region end before a loader. -/
theorem takeWhile_endRows_render {before : List Row} {newline : String}
    (hfeed : ∀ row ∈ before, '\n' ∉ row) (hnames : OneLine publicDir privateDir extension)
    (hnewline : LineEnding newline) (after : String) :
    (Text.rows (String.ofList (Text.endRows before) ++
        render publicDir privateDir extension newline ++ after).toList).takeWhile (!opens ·) =
      before.takeWhile (!opens ·) := by
  obtain ⟨ending, hending, hblank, hnone, -⟩ := hnewline.exists_ending
  obtain ⟨first, mid, hrows, hfirst, -⟩ := loaderRows_eq publicDir privateDir extension hblank
  rw [rows_endRows_render hfeed hnames hending hnone, hrows, List.cons_append,
    List.takeWhile_append]
  split
  next hall =>
    rw [List.takeWhile_cons_of_neg (by simp [hfirst]), List.append_nil]
    exact (List.IsPrefix.eq_of_length (List.takeWhile_prefix _) hall).symm
  next => rfl

end Unbundle.Loader
