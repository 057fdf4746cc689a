import Unbundle.Assembly
import Unbundle.Proofs.Utf8
import Unbundle.Proofs.Work

/-!
# A text as gaps and callables

When the callables of a module are taken out, its text falls into the callables and the gaps
around them. `Weave` is such a text in pieces. Removal takes the last callable first, so the
induction runs from the back (`Weave.snoc_induction`): the bytes still to be searched encode a
front part of the text, and whatever follows them has already been dealt with.

Callables that lie in a text one after the other weave it (`Weave.exists_of_descending`), and of a
woven text the removal leaves the gaps (`Span.removeFrom_inPlace`). Removal refuses all other
callables (`Span.ordered_of_removeFrom`), so nothing is ever lost: the pieces are the whole text,
and what is left over are the gaps (`Assembly.withoutCallables_ok`).
-/

namespace Unbundle

open Utf8 (encodeChars IsBoundary)

/-- A text in pieces: gaps, each with the callable after it, and what follows the last callable. -/
structure Weave where
  pieces : List (List Char × Callable)
  last : List Char

namespace Weave

/-- The callables in their order. -/
def callables (w : Weave) : List Callable := w.pieces.map (·.2)

/-- Everything up to the last gap of some pieces. -/
def join (pieces : List (List Char × Callable)) : List Char :=
  pieces.flatMap fun (gap, c) => gap ++ c.text.toList

/-- The text. -/
def whole (w : Weave) : List Char := join w.pieces ++ w.last

/-- What the text has besides the callables. -/
def gaps (w : Weave) : List Char := w.pieces.flatMap (·.1) ++ w.last

/-- Every callable is at the bytes that it says it covers. -/
def InPlace (w : Weave) : Prop :=
  ∀ (before : List (List Char × Callable)) (gap : List Char) (c : Callable)
    (after : List (List Char × Callable)), w.pieces = before ++ (gap, c) :: after →
    c.start = (encodeChars (join before ++ gap)).length ∧
      c.stop = (encodeChars (join before ++ gap ++ c.text.toList)).length

/-- The text with one more callable and gap at its end. -/
def snoc (w : Weave) (c : Callable) (last : List Char) : Weave :=
  ⟨w.pieces ++ [(w.last, c)], last⟩

theorem callables_snoc (w : Weave) (c : Callable) (last : List Char) :
    (w.snoc c last).callables = w.callables ++ [c] := by
  simp [snoc, callables]

theorem whole_snoc (w : Weave) (c : Callable) (last : List Char) :
    (w.snoc c last).whole = w.whole ++ c.text.toList ++ last := by
  simp [snoc, whole, join]

theorem gaps_snoc (w : Weave) (c : Callable) (last : List Char) :
    (w.snoc c last).gaps = w.gaps ++ last := by
  simp [snoc, gaps]

theorem gaps_subset (w : Weave) : w.gaps ⊆ w.whole := by
  intro c hc
  rcases List.mem_append.mp hc with hc | hc
  · obtain ⟨piece, hpiece, hc⟩ := List.mem_flatMap.mp hc
    exact List.mem_append_left _ (List.mem_flatMap.mpr ⟨piece, hpiece, List.mem_append_left _ hc⟩)
  · exact List.mem_append_right _ hc

theorem text_subset {w : Weave} {c : Callable} (h : c ∈ w.callables) : c.text.toList ⊆ w.whole := by
  obtain ⟨piece, hpiece, rfl⟩ := List.mem_map.mp h
  intro d hd
  exact List.mem_append_left _ (List.mem_flatMap.mpr ⟨piece, hpiece, List.mem_append_right _ hd⟩)

theorem inPlace_gap (last : List Char) : (⟨[], last⟩ : Weave).InPlace :=
  fun _ _ _ _ hnil => absurd hnil (by simp)

theorem InPlace.snoc {w : Weave} (h : w.InPlace) {c : Callable} (last : List Char)
    (hstart : c.start = (encodeChars w.whole).length)
    (hstop : c.stop = (encodeChars (w.whole ++ c.text.toList)).length) :
    (w.snoc c last).InPlace := by
  intro before gap d after heq
  rcases List.eq_nil_or_concat after with rfl | ⟨after', x, rfl⟩
  · obtain ⟨rfl, hpair⟩ := List.append_inj' heq rfl
    cases hpair
    exact ⟨hstart, hstop⟩
  · -- the callable stands before the new one
    rw [List.concat_eq_append, ← List.cons_append, ← List.append_assoc] at heq
    exact h before gap d after' (List.append_inj' heq rfl).1

theorem InPlace.of_snoc {w : Weave} {c : Callable} {last : List Char}
    (h : (w.snoc c last).InPlace) :
    w.InPlace ∧ c.start = (encodeChars w.whole).length ∧
      c.stop = (encodeChars (w.whole ++ c.text.toList)).length := by
  refine ⟨fun before gap d after heq => ?_, h w.pieces w.last c [] rfl⟩
  refine h before gap d (after ++ [(w.last, c)]) ?_
  rw [show (w.snoc c last).pieces = w.pieces ++ [(w.last, c)] from rfl, heq]
  exact List.append_assoc ..

/-- Every text in pieces is one gap, or one callable and gap more than another one. -/
@[elab_as_elim]
theorem snoc_induction {motive : Weave → Prop} (gap : ∀ last, motive ⟨[], last⟩)
    (snoc : ∀ w c last, motive w → motive (w.snoc c last)) : ∀ w, motive w
  | ⟨pieces, last⟩ => by
    rcases List.eq_nil_or_concat pieces with hnil | ⟨front, ⟨before, c⟩, hpieces⟩
    · exact hnil ▸ gap last
    · rw [List.concat_eq_append] at hpieces
      exact hpieces ▸ snoc ⟨front, before⟩ c last (snoc_induction gap snoc ⟨front, before⟩)
  termination_by w => w.pieces.length
  decreasing_by rw [hpieces, List.length_concat]; exact Nat.lt_succ_self _

end Weave

/-- A callable lies on character boundaries of a text and holds what the text has there. -/
structure Callable.LiesIn (text : List Char) (c : Callable) : Prop where
  start : IsBoundary text c.start
  stop : IsBoundary text c.stop
  text : c.text =
    Utf8.decodeLossy (((encodeChars text).take c.stop.toNat).drop c.start.toNat)

/-- A callable that was located holds the bytes between its offsets. -/
theorem Callable.text_of_mem_locate {source : Bytes} {root : Node} {c : Callable}
    (h : c ∈ Callable.locate source root) :
    c.text = Utf8.decodeLossy ((source.take c.stop.toNat).drop c.start.toNat) := by
  obtain ⟨node, -, hnode⟩ := List.mem_filterMap.mp h
  simp only [Callable.ofNode?] at hnode
  split at hnode
  next => exact nomatch hnode
  next =>
    cases hnode
    rfl

/-- A callable in a text cuts it in three, with the callable's own text in the middle. -/
theorem Callable.LiesIn.cut {text : List Char} {c : Callable} (h : c.LiesIn text)
    (hle : c.start ≤ c.stop) :
    ∃ before after, text = before ++ c.text.toList ++ after ∧
      c.start = (encodeChars before).length ∧
      c.stop = (encodeChars (before ++ c.text.toList)).length :=
  Utf8.exists_cut_text h.start h.stop hle h.text

/-- Callables that lie in a text, last first and one after the other, are the callables of a front
part of it in pieces. -/
theorem Weave.exists_of_descending {text : List Char} :
    ∀ {cs : List Callable} {front rest : List Char}, text = front ++ rest →
      (∀ c ∈ cs, c.LiesIn text) →
      (∀ c ∈ cs, c.start ≤ c.stop ∧ c.stop ≤ (encodeChars front).length) →
      cs.Pairwise (fun c d => d.stop ≤ c.start) →
      ∃ w : Weave, w.callables = cs.reverse ∧ w.whole = front ∧ w.InPlace
  | [], front, _, _, _, _, _ =>
    ⟨⟨[], front⟩, rfl, rfl, inPlace_gap front⟩
  | c :: cs, front, rest, htext, hlies, hwithin, hordered => by
    obtain ⟨hle, hstop⟩ := hwithin c (List.mem_cons_self ..)
    obtain ⟨hbefore, hordered⟩ := List.pairwise_cons.mp hordered
    obtain ⟨before, after, hcut, hstart, hend⟩ := (hlies c (List.mem_cons_self ..)).cut hle
    -- the callable ends within the front part, so what follows it there is a gap
    obtain ⟨gap, rfl⟩ := Utf8.append_of_encode_le (hcut.symm.trans htext) (by omega)
    obtain ⟨w, hcallables, hwhole, hplace⟩ :=
      exists_of_descending (hcut.trans (List.append_assoc ..))
        (fun d hd => hlies d (List.mem_cons_of_mem _ hd))
        (fun d hd => ⟨(hwithin d (List.mem_cons_of_mem _ hd)).1, hstart ▸ hbefore d hd⟩) hordered
    refine ⟨w.snoc c gap, ?_, ?_, hplace.snoc gap (hwhole ▸ hstart) (hwhole ▸ hend)⟩
    · rw [callables_snoc, hcallables, List.reverse_cons]
    · rw [whole_snoc, hwhole]

/-- Sorting by a number puts greater ones first. -/
theorem pairwise_mergeSort_descending {α : Type} (key : α → Int) (xs : List α) :
    (xs.mergeSort fun a b => decide (key b ≤ key a)).Pairwise fun a b => key b ≤ key a := by
  refine (List.pairwise_mergeSort ?_ ?_ xs).imp fun hle => of_decide_eq_true hle
  · intro a b c hab hbc
    simp only [decide_eq_true_eq] at hab hbc ⊢
    omega
  · intro a b
    simp only [Bool.or_eq_true, decide_eq_true_eq]
    omega

namespace Span

/-- Taking the callables out of a text in pieces leaves the gaps; the bytes `tail` after it
stay. -/
theorem removeFrom_inPlace {size : Nat} {w : Weave} (h : w.InPlace) {floor : Int} {tail : Bytes}
    (hsize : (encodeChars w.whole).length ≤ size) (hfloor : (encodeChars w.whole).length ≤ floor) :
    removeFrom size floor (encodeChars w.whole ++ tail)
      (w.callables.reverse.map fun c => ⟨c.start, c.stop⟩) = .ok (encodeChars w.gaps ++ tail) := by
  induction w using Weave.snoc_induction generalizing floor tail with
  | gap last => rfl
  | snoc w c last ih =>
    obtain ⟨hplace, hstart, hstop⟩ := h.of_snoc
    have hlength : (encodeChars (w.whole ++ c.text.toList)).length
        = (encodeChars w.whole).length + (encodeChars c.text.toList).length := by
      rw [Utf8.encodeChars_append, List.length_append]
    rw [Weave.whole_snoc, Utf8.encodeChars_append, List.length_append] at hsize hfloor
    have hdata : (encodeChars (w.whole ++ c.text.toList ++ last) ++ tail).take c.start.toNat ++
        (encodeChars (w.whole ++ c.text.toList ++ last) ++ tail).drop c.stop.toNat =
          encodeChars w.whole ++ (encodeChars last ++ tail) := by
      rw [hstart, hstop, Int.toNat_natCast, Int.toNat_natCast,
        Utf8.encodeChars_append (w.whole ++ c.text.toList), List.append_assoc, List.drop_left,
        Utf8.encodeChars_append w.whole, List.append_assoc, List.take_left]
    have hrest : removeFrom size c.start (encodeChars w.whole ++ (encodeChars last ++ tail))
        (w.callables.reverse.map fun c => ⟨c.start, c.stop⟩) =
          .ok (encodeChars w.gaps ++ (encodeChars last ++ tail)) :=
      ih hplace (by omega) (by omega)
    rw [Weave.callables_snoc, List.reverse_append, List.reverse_singleton, List.singleton_append,
      List.map_cons, removeFrom, if_neg (by simp; omega), if_neg (by show ¬ floor < c.stop; omega),
      Weave.whole_snoc, hdata, hrest, Weave.gaps_snoc, Utf8.encodeChars_append, List.append_assoc]

/-- A span lies inside data of a size. -/
def Inside (size : Nat) (s : Span) : Prop := 0 ≤ s.start ∧ s.start ≤ s.stop ∧ s.stop ≤ size

/-- Removal only takes spans that lie inside the data, each before the one taken out before it. -/
theorem ordered_of_removeFrom {size : Nat} :
    ∀ {spans : List Span} {floor : Int} {data bytes : Bytes},
      removeFrom size floor data spans = .ok bytes →
      (∀ s ∈ spans, s.Inside size ∧ s.stop ≤ floor) ∧
        spans.Pairwise (fun s t => t.stop ≤ s.start)
  | [], _, _, _, _ => ⟨fun _ hs => absurd hs List.not_mem_nil, .nil⟩
  | s :: spans, floor, data, bytes, h => by
    rw [removeFrom] at h
    split at h
    next => exact nomatch h
    next hinside =>
      split at h
      next => exact nomatch h
      next hclear =>
        simp only [Bool.not_eq_true, Bool.not_eq_false', Bool.and_eq_true, decide_eq_true_eq]
          at hinside hclear
        obtain ⟨hrest, hordered⟩ := ordered_of_removeFrom h
        refine ⟨fun t ht => ?_, .cons (fun t ht => (hrest t ht).2) hordered⟩
        rcases List.mem_cons.mp ht with rfl | ht
        · exact ⟨⟨by omega, by omega, by omega⟩, by omega⟩
        · -- what is taken out later ends before the start of this span
          obtain ⟨hlater, hend⟩ := hrest t ht
          exact ⟨hlater, by omega⟩

/-- Spans with different starts have one descending order. -/
theorem descending_eq {spans sorted : List Span} (hperm : spans.Perm sorted)
    (hsorted : sorted.Pairwise fun s t => t.start < s.start) : descending spans = sorted := by
  have hperm' : (descending spans).Perm sorted := (List.mergeSort_perm ..).trans hperm
  have hle : (descending spans).Pairwise fun s t => t.start ≤ s.start :=
    pairwise_mergeSort_descending Span.start spans
  have hne : (descending spans).Pairwise fun s t => s.start ≠ t.start :=
    (hperm'.pairwise_iff fun h => h.symm).mpr (hsorted.imp fun h => by omega)
  have hlt : (descending spans).Pairwise fun s t => t.start < s.start :=
    (hle.and hne).imp fun h => by omega
  exact hperm'.eq_of_pairwise (fun s t _ _ hst hts => by omega) hlt hsorted

end Span

namespace Assembly

/-- The callables of an assembly stand in the order in which they are taken out. -/
def Ordered (a : Assembly) : Prop := a.removed.Pairwise fun c d => d.start ≤ c.start

theorem Ordered.descending_spans {a : Assembly} (h : a.Ordered) :
    Span.descending a.spans = a.spans := by
  refine List.mergeSort_of_pairwise (List.pairwise_map.mpr ?_)
  exact h.imp fun hle => decide_eq_true hle

/-- Of a text in pieces, the gaps remain when its callables are taken out last first. -/
theorem withoutCallables_weave {a : Assembly} {text : String} {w : Weave} (hplace : w.InPlace)
    (hwhole : w.whole = text.toList)
    (hspans : Span.descending a.spans = w.callables.reverse.map fun c => ⟨c.start, c.stop⟩) :
    a.withoutCallables text = .ok (String.ofList w.gaps) := by
  have hencode : Utf8.encode text = encodeChars w.whole ++ [] := by
    rw [List.append_nil, hwhole, Utf8.encode]
  have hlength : (encodeChars w.whole ++ []).length = (encodeChars w.whole).length := by
    rw [List.append_nil]
  rw [withoutCallables, Span.remove, hspans, hencode,
    Span.removeFrom_inPlace hplace (by omega) (by omega), List.append_nil]
  simp only [Utf8.decode_encodeChars]
  rfl

/-- Callables in their places are taken out, in whatever order the assembly has them, if no two of
them start at one byte. -/
theorem withoutCallables_inPlace {a : Assembly} {text : String} {w : Weave} (hplace : w.InPlace)
    (hwhole : w.whole = text.toList)
    (hstarts : w.callables.Pairwise fun c d => c.start < d.start)
    (hperm : a.removed.Perm w.callables) :
    a.withoutCallables text = .ok (String.ofList w.gaps) := by
  refine withoutCallables_weave hplace hwhole (Span.descending_eq ?_ ?_)
  · exact (hperm.trans (List.reverse_perm _).symm).map _
  · exact List.pairwise_map.mpr (List.pairwise_reverse.mpr hstarts)

/-- **Taking out callables loses nothing.** The text is woven from the callables, in the order of
their starts, and gaps; the gaps are what remains. -/
theorem withoutCallables_ok {a : Assembly} {text remaining : String} (ho : a.Ordered)
    (hlies : ∀ c ∈ a.removed, c.LiesIn text.toList)
    (h : a.withoutCallables text = .ok remaining) :
    ∃ w : Weave, w.callables = a.removed.reverse ∧ w.whole = text.toList ∧ w.InPlace ∧
      remaining = String.ofList w.gaps := by
  have hspans := ho.descending_spans
  have hremoved : ∃ bytes, Span.remove (Utf8.encode text) a.spans = .ok bytes := by
    unfold withoutCallables at h
    split at h
    next => exact nomatch h
    next bytes hbytes => exact ⟨bytes, hbytes⟩
  obtain ⟨bytes, hbytes⟩ := hremoved
  rw [Span.remove, hspans] at hbytes
  -- the removal succeeded, so the callables stand one before the other
  obtain ⟨hwithin, hordered⟩ := Span.ordered_of_removeFrom hbytes
  obtain ⟨w, hcallables, hwhole, hplace⟩ := Weave.exists_of_descending (List.append_nil _).symm
    hlies (fun c hc => (hwithin _ (List.mem_map_of_mem hc)).1.2) (List.pairwise_map.mp hordered)
  rw [withoutCallables_weave hplace hwhole (by rw [hspans, hcallables, List.reverse_reverse]; rfl)]
    at h
  exact ⟨w, hcallables, hwhole, hplace, (Except.ok.inj h).symm⟩

end Assembly

end Unbundle
