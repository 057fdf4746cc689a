import Unbundle.Leftover.StringRows
import Unbundle.Proofs.RowLayout
import Unbundle.Proofs.Utf8

/-!
# String literals survive

The rows inside a string literal are found by counting line feeds among the bytes before it, and
rows are kept or dropped by counting them among the characters; the two counts agree
(`rowAt_encode`). A literal begins with a character that is not blank, so the row it opens on is
kept, and the further rows of it are protected. From a point in a kept row the collapsed text goes
on, `onward`: through a literal it goes on as the text itself does (`onward_append`), and whatever
comes next, it goes on to every later character that is not blank (`Reaches`). So a literal is met,
and behind it the same holds again (`Reaches.literal`), and the literals are met one after the other
(`Reaches.threaded`). Trimming the end stops at the last of them (`Text.Threaded.trimEnd`).
-/

namespace Unbundle

open Utf8 (encodeChars)

/-! ## Rows of byte offsets -/

/-- The row of an offset between two characters: the line feeds before it are counted. -/
theorem rowAt_encode (before after : List Char) :
    rowAt (encodeChars (before ++ after)) (encodeChars before).length = before.count '\n' := by
  rw [rowAt, Utf8.encodeChars_append, List.take_left, Utf8.count_feed_encodeChars]

theorem rowAt_le (source : Bytes) (offset : Nat) :
    rowAt source offset ≤ rowAt source source.length := by
  rw [rowAt, rowAt, List.take_length]
  exact (List.take_sublist offset source).count_le _

/-- The protected rows are those of the literals, without the rows that these open on. -/
theorem Node.mem_stringRows_iff {source : Bytes} {root : Node} {row : Nat} :
    row ∈ root.stringRows source ↔
      ∃ n ∈ root.strings, n.startRow source < row ∧ row ≤ n.stopRow source := by
  simp only [stringRows, List.mem_filter, List.mem_range, List.any_eq_true, coversRow,
    Bool.and_eq_true, decide_eq_true_eq]
  constructor
  · intro h
    exact h.2
  · intro h
    obtain ⟨n, hn, hstart, hstop⟩ := h
    have hle : n.stopRow source ≤ rowAt source source.length := rowAt_le source n.info.stop
    exact ⟨by omega, n, hn, hstart, hstop⟩

/-! ## From a kept row on -/

namespace BlankRows

variable {guarded : List Nat}

section Afresh

variable {row : Row} {j : Nat} (hkept : isKept guarded j row = true)
include hkept

/-- Behind a kept row the loop starts afresh, whatever it was before. -/
theorem tidyFrom_append_kept (rest : List Row) :
    ∀ (xs : List Row) (i : Nat) (run : List Row), i + xs.length = j →
      ∃ front, tidyFrom guarded i run (xs ++ row :: rest) =
        front ++ row :: tidyFrom guarded (j + 1) [] rest := by
  intro xs
  induction xs with
  | nil =>
    intro i run hi
    obtain rfl : i = j := hi
    rw [List.nil_append, tidyFrom, if_pos hkept]
    exact ⟨settle run, rfl⟩
  | cons x xs ih =>
    intro i run hi
    have hnext : i + 1 + xs.length = j := by
      rw [List.length_cons] at hi
      omega
    rw [List.cons_append, tidyFrom]
    by_cases hx : isKept guarded i x = true
    · obtain ⟨front, hfront⟩ := ih (i + 1) [] hnext
      rw [if_pos hx, hfront]
      refine ⟨settle run ++ x :: front, ?_⟩
      rw [List.append_assoc, List.cons_append]
    · rw [if_neg hx]
      exact ih (i + 1) (run ++ [x]) hnext

theorem tidy_append_kept (rest : List Row) :
    ∀ (xs : List Row) (i : Nat), i + xs.length = j →
      ∃ front, tidy guarded i (xs ++ row :: rest) =
        front ++ row :: tidyFrom guarded (j + 1) [] rest := by
  intro xs
  induction xs with
  | nil =>
    intro i hi
    obtain rfl : i = j := hi
    rw [List.nil_append, tidy, if_pos hkept]
    exact ⟨[], rfl⟩
  | cons x xs ih =>
    intro i hi
    have hnext : i + 1 + xs.length = j := by
      rw [List.length_cons] at hi
      omega
    rw [List.cons_append, tidy]
    by_cases hx : isKept guarded i x = true
    · obtain ⟨front, hfront⟩ := tidyFrom_append_kept hkept rest xs (i + 1) [] hnext
      rw [if_pos hx, hfront]
      exact ⟨x :: front, rfl⟩
    · rw [if_neg hx]
      exact ih (i + 1) hnext

end Afresh

/-- How the collapsed text goes on, its end not trimmed, from a point in row `i`, which is kept;
`cs` is the text from there on. -/
def onward (guarded : List Nat) (i : Nat) (cs : List Char) : List Char :=
  Text.joinRows ((Text.rows cs).headD [] :: tidyFrom guarded (i + 1) [] (Text.rows cs).tail)

theorem onward_of_rows {i : Nat} {cs row : List Char} {rest : List Row}
    (h : Text.rows cs = row :: rest) :
    onward guarded i cs = Text.joinRows (row :: tidyFrom guarded (i + 1) [] rest) := by
  rw [onward, h]
  rfl

/-- **Through kept rows** the collapsed text goes on as the text does. -/
theorem onward_append (after : List Char) : ∀ (mid : List Char) (i : Nat),
    (∀ k, i < k → k ≤ i + mid.count '\n' → k ∈ guarded) →
      onward guarded i (mid ++ after) = mid ++ onward guarded (i + mid.count '\n') after := by
  intro mid
  induction mid with
  | nil =>
    intro i _
    rfl
  | cons c mid ih =>
    intro i hguarded
    obtain ⟨row, rest, hrows⟩ :=
      List.exists_cons_of_ne_nil (Text.fields_ne_nil (· == '\n') (mid ++ after))
    rw [List.cons_append, List.cons_append]
    by_cases hc : c = '\n'
    · -- the next row is protected
      rw [hc, List.count_cons_self] at hguarded ⊢
      have hnext : isKept guarded (i + 1) row = true :=
        isKept_iff.mpr (Or.inl (hguarded (i + 1) (by omega) (by omega)))
      have hrest := ih (i + 1) fun k hlo hhi => hguarded k (by omega) (by omega)
      rw [onward_of_rows hrows] at hrest
      rw [onward_of_rows (Text.rows_feed _), show Text.rows (mid ++ after) = _ from hrows,
        tidyFrom, if_pos hnext]
      rw [show i + (mid.count '\n' + 1) = i + 1 + mid.count '\n' by omega, ← hrest]
      rfl
    · rw [List.count_cons_of_ne hc] at hguarded ⊢
      rw [← ih i hguarded, onward_of_rows hrows, onward_of_rows (Text.rows_cons hc hrows)]
      exact Text.joinRows_cons_cons ..

/-- A row that is kept leads on, whatever rows are shown before it. -/
theorem joinRows_onward (guarded : List Nat) (i : Nat) {cs row : List Char} {rest : List Row}
    (h : Text.rows cs = row :: rest) (front : List Row) (last : Row) :
    Text.joinRows (front ++ (last ++ row) :: tidyFrom guarded (i + 1) [] rest) =
      Text.endRows front ++ last ++ onward guarded i cs := by
  rw [Text.joinRows_append (List.cons_ne_nil _ _), Text.joinRows_append_first, onward_of_rows h,
    List.append_assoc]

/-- What is shown, `out`, goes on to every character of the text after `before` that is not
blank. -/
def Reaches (guarded : List Nat) (text before out : List Char) : Prop :=
  ∀ gap c after, text = before ++ gap ++ c :: after → Text.isBlank c = false →
    ∃ shown, out = shown ++ onward guarded ((before ++ gap).count '\n') (c :: after)

/-- The rows of a text up to a character that is not blank, and the row of that character. -/
theorem rows_before_solid {c : Char} (hc : Text.isBlank c = false) (gap after : List Char) :
    ∃ init last row rest, init.length = gap.count '\n' ∧ Text.rows (c :: after) = row :: rest ∧
      Text.rows (gap ++ c :: after) = init ++ (last ++ row) :: rest ∧ c ∈ last ++ row := by
  obtain ⟨init, last, row, rest, hgap, hrows, hjoined⟩ := Text.rows_append gap (c :: after)
  have hlength := Text.length_rows gap
  rw [hgap, List.length_append, List.length_singleton] at hlength
  refine ⟨init, last, row, rest, by omega, hrows, hjoined, ?_⟩
  obtain ⟨first, others, hafter⟩ :=
    List.exists_cons_of_ne_nil (Text.fields_ne_nil (· == '\n') after)
  have hfeed : c ≠ '\n' := by
    intro heq
    rw [heq] at hc
    exact nomatch hc
  have hrow : row = c :: first :=
    (List.cons.inj (hrows.symm.trans (Text.rows_cons hfeed hafter))).1
  rw [hrow]
  exact List.mem_append_right _ (List.mem_cons_self ..)

theorem reaches_tidy (guarded : List Nat) (text : List Char) :
    Reaches guarded text [] (Text.joinRows (tidy guarded 0 (Text.rows text))) := by
  intro gap c after htext hc
  obtain ⟨init, last, row, rest, hlength, hrows, hjoined, hmem⟩ := rows_before_solid hc gap after
  have hkept : isKept guarded (gap.count '\n') (last ++ row) = true :=
    isKept_iff.mpr (Or.inr ⟨c, hmem, hc⟩)
  obtain ⟨front, hfront⟩ := tidy_append_kept hkept rest init 0 (by omega)
  rw [htext, List.nil_append, hjoined, hfront, joinRows_onward guarded _ hrows]
  exact ⟨_, rfl⟩

/-- **From a kept row to the next literal.** -/
theorem reaches_onward (guarded : List Nat) {text before rest : List Char}
    (h : text = before ++ rest) :
    Reaches guarded text before (onward guarded (before.count '\n') rest) := by
  intro gap c after htext hc
  obtain rfl : rest = gap ++ c :: after := by
    rw [h, List.append_assoc] at htext
    exact List.append_cancel_left htext
  obtain ⟨init, last, row, rest, hlength, hrows, hjoined, hmem⟩ := rows_before_solid hc gap after
  rw [List.count_append, ← hlength, onward]
  cases init with
  | nil =>
    -- the character stands in the same row
    rw [hjoined]
    exact ⟨_, joinRows_onward guarded _ hrows [] last⟩
  | cons first init =>
    have hnumber : before.count '\n' + 1 + init.length =
        before.count '\n' + (first :: init).length := by
      rw [List.length_cons]
      omega
    have hkept : isKept guarded (before.count '\n' + (first :: init).length) (last ++ row) = true :=
      isKept_iff.mpr (Or.inr ⟨c, hmem, hc⟩)
    obtain ⟨front, hfront⟩ := tidyFrom_append_kept hkept rest init _ [] hnumber
    rw [hjoined, List.cons_append, List.headD_cons, List.tail_cons, hfront, ← List.cons_append,
      joinRows_onward guarded _ hrows]
    exact ⟨_, rfl⟩

end BlankRows

/-! ## Texts one after the other -/

namespace Text

/-- Texts that stand in a text one after the other, with anything between them. -/
def Threaded : List (List Char) → List Char → Prop
  | [], _ => True
  | t :: ts, cs => ∃ before after, cs = before ++ t ++ after ∧ Threaded ts after

/-- Trimming the end cuts off none of the texts, if each ends with a character that is not blank. -/
theorem Threaded.trimEnd {ts : List (List Char)}
    (hends : ∀ t ∈ ts, ∃ c, t.getLast? = some c ∧ isBlank c = false) :
    ∀ {cs : List Char}, Threaded ts cs → Threaded ts (trimEnd cs) := by
  induction ts with
  | nil =>
    intro cs _
    trivial
  | cons t ts ih =>
    intro cs h
    obtain ⟨before, after, rfl, hafter⟩ := h
    obtain ⟨c, hlast, hc⟩ := hends t (List.mem_cons_self ..)
    obtain ⟨init, rfl⟩ := List.getLast?_eq_some_iff.mp hlast
    refine ⟨before, Text.trimEnd after, ?_, ?_⟩
    · rw [← List.append_assoc before, trimEnd_append_of_solid hc]
    · exact ih (fun t' ht' => hends t' (List.mem_cons_of_mem _ ht')) hafter

/-- Where texts that stand one after the other are found: each from its place on, and before the
place of the next. -/
theorem Threaded.exists_places {α : Type} (chars : α → List Char) {whole : List Char}
    {xs : List α} : ∀ {front rest : List Char}, whole = front ++ rest →
      Threaded (xs.map chars) rest →
      ∃ placed : List (α × Nat), placed.map (·.1) = xs ∧
        (∀ p ∈ placed, front.length ≤ p.2 ∧ chars p.1 <+: whole.drop p.2) ∧
        placed.Pairwise fun p q => p.2 + (chars p.1).length ≤ q.2 := by
  induction xs with
  | nil =>
    intro front rest _ _
    exact ⟨[], rfl, fun p hp => absurd hp List.not_mem_nil, .nil⟩
  | cons x xs ih =>
    intro front rest hwhole h
    obtain ⟨before, after, rfl, hafter⟩ := h
    have hcut : whole = front ++ before ++ chars x ++ after := by
      rw [hwhole, List.append_assoc, List.append_assoc, List.append_assoc]
    obtain ⟨placed, hplaced, hfound, hordered⟩ := ih hcut hafter
    refine ⟨(x, (front ++ before).length) :: placed, ?_, ?_, ?_⟩
    · rw [List.map_cons, hplaced]
    · intro p hp
      rcases List.mem_cons.mp hp with rfl | hp
      · refine ⟨by simp, ?_⟩
        rw [hcut, List.append_assoc, List.drop_left]
        exact List.prefix_append ..
      · obtain ⟨hle, hprefix⟩ := hfound p hp
        simp only [List.length_append] at hle
        exact ⟨by omega, hprefix⟩
    · refine List.pairwise_cons.mpr ⟨?_, hordered⟩
      intro q hq
      have hle := (hfound q hq).1
      rwa [List.length_append] at hle

end Text

/-! ## Literals -/

namespace Node

/-- The characters that a node covers in a text. -/
def chars (n : Node) (text : String) : List Char := (n.text (Utf8.encode text)).toList

/-- A node from one character of a text to another, both of them not blank. -/
structure Delimited (n : Node) (text : String) : Prop where
  start : Utf8.IsBoundary text.toList n.info.start
  stop : Utf8.IsBoundary text.toList n.info.stop
  first : ∃ c, (n.chars text).head? = some c ∧ Text.isBlank c = false
  last : ∃ c, (n.chars text).getLast? = some c ∧ Text.isBlank c = false

variable {n : Node} {text : String}

theorem Delimited.length_pos (h : n.Delimited text) : 0 < (n.chars text).length := by
  obtain ⟨c, hfirst, -⟩ := h.first
  obtain ⟨others, hchars⟩ := List.head?_eq_some_iff.mp hfirst
  rw [hchars, List.length_cons]
  omega

theorem Delimited.start_le_stop (h : n.Delimited text) : n.info.start ≤ n.info.stop := by
  by_cases hle : n.info.start ≤ n.info.stop
  · exact hle
  · -- such a node covers no bytes
    have hbytes : n.bytes (Utf8.encode text) = [] := by
      rw [bytes, List.drop_eq_nil_iff, List.length_take]
      omega
    have hnone : n.chars text = [] := by
      rw [chars, Node.text, hbytes]
      show (Utf8.decodeLossy (encodeChars [])).toList = []
      rw [Utf8.decodeLossy_encodeChars, String.toList_ofList]
    have hpos := h.length_pos
    rw [hnone] at hpos
    exact absurd hpos (Nat.lt_irrefl 0)

/-- A literal cuts its text in three, and its rows are those of the characters before it and of its
own. -/
theorem Delimited.cut (h : n.Delimited text) :
    ∃ before after, text.toList = before ++ n.chars text ++ after ∧
      n.info.start = (encodeChars before).length ∧
      n.info.stop = (encodeChars (before ++ n.chars text)).length ∧
      n.startRow (Utf8.encode text) = before.count '\n' ∧
      n.stopRow (Utf8.encode text) = (before ++ n.chars text).count '\n' := by
  have hle := h.start_le_stop
  obtain ⟨before, after, htext, hstart, hstop⟩ :=
    Utf8.exists_cut_text h.start h.stop (by omega) (show n.text (Utf8.encode text) = _ from rfl)
  rw [Int.natCast_inj] at hstart hstop
  change text.toList = before ++ n.chars text ++ after at htext
  change n.info.stop = (encodeChars (before ++ n.chars text)).length at hstop
  have hbytes : Utf8.encode text = encodeChars (before ++ n.chars text ++ after) :=
    congrArg encodeChars htext
  refine ⟨before, after, htext, hstart, hstop, ?_, ?_⟩
  · rw [startRow, hstart, hbytes, List.append_assoc, rowAt_encode]
  · rw [stopRow, hstop]
    conv => lhs; rw [hbytes]
    exact rowAt_encode ..

end Node

namespace BlankRows

variable {text : String} {guarded : List Nat}

/-- **A literal is met**, and what is shown behind it goes on as what was shown before it did. -/
theorem Reaches.literal {n : Node} (hn : n.Delimited text)
    (hguarded : ∀ row, n.startRow (Utf8.encode text) < row →
      row ≤ n.stopRow (Utf8.encode text) → row ∈ guarded)
    {before rest out : List Char} (htext : text.toList = before ++ rest)
    (hle : (encodeChars before).length ≤ n.info.start)
    (h : Reaches guarded text.toList before out) :
    ∃ behind rest' shown out', text.toList = behind ++ rest' ∧
      n.info.stop = (encodeChars behind).length ∧ out = shown ++ n.chars text ++ out' ∧
      Reaches guarded text.toList behind out' := by
  obtain ⟨front, back, hcut, hstart, hstop, hstartRow, hstopRow⟩ := hn.cut
  obtain ⟨c, hfirst, hc⟩ := hn.first
  obtain ⟨others, hchars⟩ := List.head?_eq_some_iff.mp hfirst
  -- the literal begins behind `before`, and what is shown goes on to its first character
  rw [hstart] at hle
  obtain ⟨gap, rfl⟩ :=
    Utf8.append_of_encode_le (htext.symm.trans (hcut.trans (List.append_assoc ..))) hle
  obtain ⟨shown, rfl⟩ := h gap c (others ++ back) (by simp [hcut, hchars]) hc
  -- through the literal it goes on as the text does
  have hcount : (before ++ gap ++ n.chars text).count '\n' =
      (before ++ gap).count '\n' + (n.chars text).count '\n' := List.count_append
  have hthrough := onward_append back (n.chars text) ((before ++ gap).count '\n') fun row hlo hhi =>
    hguarded row (by omega) (by omega)
  rw [← hcount, hchars, List.cons_append] at hthrough
  refine ⟨_, back, shown, _, hcut, hstop, ?_, reaches_onward guarded hcut⟩
  rw [hthrough, ← hchars]
  exact (List.append_assoc ..).symm

/-- **Literals are met one after the other.** What goes on to every character after `before` that is
not blank has the literals after `before`, in their order, if their rows are protected. -/
theorem Reaches.threaded {nodes : List Node} (hdelimited : ∀ n ∈ nodes, n.Delimited text)
    (hguarded : ∀ n ∈ nodes, ∀ row, n.startRow (Utf8.encode text) < row →
      row ≤ n.stopRow (Utf8.encode text) → row ∈ guarded)
    (hordered : nodes.Pairwise fun m n => m.info.stop ≤ n.info.start) :
    ∀ {before rest out : List Char}, text.toList = before ++ rest →
      (∀ n ∈ nodes, (encodeChars before).length ≤ n.info.start) →
      Reaches guarded text.toList before out →
      Text.Threaded (nodes.map (·.chars text)) out := by
  induction nodes with
  | nil =>
    intro before rest out _ _ _
    trivial
  | cons n nodes ih =>
    intro before rest out htext hafter hreaches
    obtain ⟨hlater, hordered⟩ := List.pairwise_cons.mp hordered
    obtain ⟨hn, hdelimited⟩ := List.forall_mem_cons.mp hdelimited
    obtain ⟨hrows, hguarded⟩ := List.forall_mem_cons.mp hguarded
    obtain ⟨behind, rest', shown, out', hbehind, hstop, hout, hnext⟩ :=
      hreaches.literal hn hrows htext (hafter n (List.mem_cons_self ..))
    refine ⟨shown, out', hout, ih hdelimited hguarded hordered hbehind ?_ hnext⟩
    intro m hm
    rw [← hstop]
    exact hlater m hm

end BlankRows

/-- Literals of a tree, or some of them, stand in the collapsed text one after the other, if they do
so in the text. -/
theorem threaded_collapse {text : String} {root : Node} {nodes : List Node}
    (hnodes : ∀ n ∈ nodes, n ∈ root.strings) (hdelimited : ∀ n ∈ nodes, n.Delimited text)
    (hordered : nodes.Pairwise fun m n => m.info.stop ≤ n.info.start) :
    Text.Threaded (nodes.map (·.chars text))
      (BlankRows.collapse text (root.stringRows (Utf8.encode text))).toList := by
  rw [BlankRows.collapse, String.toList_ofList]
  refine Text.Threaded.trimEnd ?_ ?_
  · intro t ht
    obtain ⟨n, hn, rfl⟩ := List.mem_map.mp ht
    exact (hdelimited n hn).last
  · refine BlankRows.Reaches.threaded hdelimited ?_ hordered (List.nil_append _).symm ?_
      (BlankRows.reaches_tidy _ _)
    · intro n hn row hlo hhi
      exact Node.mem_stringRows_iff.mpr ⟨n, hnodes n hn, hlo, hhi⟩
    · intro n _
      exact Nat.zero_le _

/-- **String literals survive.** If every outermost string literal of a tree covers characters of
the text, from one that is not blank to one that is not, then collapsing the blank rows of the text
leaves each of them as it is. If they stand one after the other in the text, they do so in what it
collapses to: each is found at a place of its own, and ends before the place of the next. -/
theorem literals_survive (text : String) (root : Node)
    (h : ∀ n ∈ root.strings, n.Delimited text) :
    (∀ n ∈ root.strings, n.chars text <:+:
      (BlankRows.collapse text (root.stringRows (Utf8.encode text))).toList) ∧
    (root.strings.Pairwise (fun m n => m.info.stop ≤ n.info.start) →
      ∃ placed : List (Node × Nat), placed.map (·.1) = root.strings ∧
        (∀ p ∈ placed, p.1.chars text <+:
          (BlankRows.collapse text (root.stringRows (Utf8.encode text))).toList.drop p.2) ∧
        placed.Pairwise fun p q => p.2 < q.2 ∧ p.2 + (p.1.chars text).length ≤ q.2) := by
  constructor
  · intro n hn
    obtain ⟨before, after, hcut, -⟩ := threaded_collapse (List.forall_mem_singleton.mpr hn)
      (List.forall_mem_singleton.mpr (h n hn)) (List.pairwise_singleton _ _)
    exact ⟨before, after, hcut.symm⟩
  · intro hordered
    obtain ⟨placed, hplaced, hfound, hapart⟩ := Text.Threaded.exists_places (Node.chars · text)
      (List.nil_append _).symm (threaded_collapse (fun n hn => hn) h hordered)
    refine ⟨placed, hplaced, fun p hp => (hfound p hp).2, hapart.imp_of_mem ?_⟩
    intro p q hp _ hle
    have hp' : p.1 ∈ root.strings := hplaced ▸ List.mem_map_of_mem hp
    have hpos := (h p.1 hp').length_pos
    exact ⟨by omega, hle⟩

/-! Three literals: one over seven rows, four of them blank, one on the row where that one closes,
and one behind three blank rows, of which one is left. -/

namespace Quoted

def text : String := "$a=@'\né\n\n\n\n\n'@;'x'\n\n\n\n'w'\n\n"

def hereString : Node :=
  .mk { kind := "string_literal", start := 3, stop := 15, named := true }
    [.mk { kind := "verbatim_here_string_characters", start := 3, stop := 15, named := true } []]

def sharing : Node :=
  .mk { kind := "verbatim_string_characters", start := 16, stop := 19, named := true } []

def last : Node :=
  .mk { kind := "verbatim_string_characters", start := 23, stop := 26, named := true } []

def root : Node := .mk { kind := "program", start := 0, stop := 28, named := true }
  [hereString, .mk { kind := ";", start := 15, stop := 16 } [], sharing, last]

theorem strings_root : root.strings = [hereString, sharing, last] := rfl

theorem delimited_strings : ∀ n ∈ root.strings, n.Delimited text := by
  rw [strings_root]
  intro n hn
  simp only [List.mem_cons, List.not_mem_nil, or_false] at hn
  rcases hn with rfl | rfl | rfl
  · exact ⟨by decide +kernel, by decide +kernel,
      ⟨'@', by decide +kernel⟩, ⟨'@', by decide +kernel⟩⟩
  · exact ⟨by decide +kernel, by decide +kernel,
      ⟨'\'', by decide +kernel⟩, ⟨'\'', by decide +kernel⟩⟩
  · exact ⟨by decide +kernel, by decide +kernel,
      ⟨'\'', by decide +kernel⟩, ⟨'\'', by decide +kernel⟩⟩

end Quoted

theorem literals_survive_quoted :
    (∀ n ∈ Quoted.root.strings, n.Delimited Quoted.text) ∧
    Quoted.root.strings.Pairwise (fun m n => m.info.stop ≤ n.info.start) ∧
    (∀ n ∈ Quoted.root.strings, n.chars Quoted.text <:+:
      "$a=@'\né\n\n\n\n\n'@;'x'\n\n'w'".toList) ∧
    ∃ placed : List (Node × Nat), placed.map (·.1) = Quoted.root.strings ∧
      (∀ p ∈ placed, p.1.chars Quoted.text <+:
        "$a=@'\né\n\n\n\n\n'@;'x'\n\n'w'".toList.drop p.2) ∧
      placed.Pairwise fun p q => p.2 < q.2 ∧ p.2 + (p.1.chars Quoted.text).length ≤ q.2 := by
  have hcollapsed : BlankRows.collapse Quoted.text
      (Quoted.root.stringRows (Utf8.encode Quoted.text)) =
        "$a=@'\né\n\n\n\n\n'@;'x'\n\n'w'" := by decide +kernel
  have hordered : Quoted.root.strings.Pairwise (fun m n => m.info.stop ≤ n.info.start) := by
    rw [Quoted.strings_root]
    decide
  have h := literals_survive Quoted.text Quoted.root Quoted.delimited_strings
  rw [hcollapsed] at h
  exact ⟨Quoted.delimited_strings, hordered, h.1, h.2 hordered⟩

end Unbundle
