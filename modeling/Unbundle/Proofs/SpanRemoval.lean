import Unbundle.Proofs.Weave

/-!
# Removing spans exactly

Spans are taken out of a buffer that shrinks, by offsets of the data as it was. This is right
because the span with the greatest start goes first: what has been cut together lies behind
everything that is still to be taken out (`removeFrom_outside`). Spans are refused unless each lies
inside the data and ends where the one taken out before it starts, or earlier; in the words of the
list as it was given, this is `Removable` (`pairwise_descending_iff`). What remains are the bytes in
no span (`remove_eq_ok_iff`), and a removal that starts with the first span, and keeps track of how
far the later ones have moved, leaves the same bytes (`removeTracking_outside`).
-/

namespace Unbundle.Span

/-- Whether a span has the byte at an offset. -/
def covers (s : Span) (i : Nat) : Bool := s.start ≤ i && i < s.stop

/-- The bytes of `data`, which starts at the offset `k`, that are in no span. -/
def outsideFrom (k : Nat) (data : Bytes) (spans : List Span) : Bytes :=
  ((data.zipIdx k).filter fun byte => !spans.any (·.covers byte.2)).map (·.1)

/-- The bytes of `data` that are in no span, in their order. -/
def outside (data : Bytes) (spans : List Span) : Bytes := outsideFrom 0 data spans

/-- Two spans of a list, `s` before `t`, are clear of each other: the one that is taken out later
ends where the other starts, or earlier. The one with the smaller start is taken out later, and of
two with one start it is `t`. -/
def Clears (s t : Span) : Prop :=
  if t.start ≤ s.start then t.stop ≤ s.start else s.stop ≤ t.start

instance (s t : Span) : Decidable (Clears s t) :=
  inferInstanceAs (Decidable (if t.start ≤ s.start then t.stop ≤ s.start else s.stop ≤ t.start))

/-- Spans that can be taken out of data of a size. -/
structure Removable (size : Nat) (spans : List Span) : Prop where
  inside : ∀ s ∈ spans, s.Inside size
  clear : spans.Pairwise Clears

/-- How many bytes spans have together. -/
def total (spans : List Span) : Int := spans.foldr (fun s sum => s.stop - s.start + sum) 0

/-! ## Bytes in no span -/

theorem covers_iff {s : Span} {i : Nat} : s.covers i = true ↔ s.start ≤ i ∧ i < s.stop := by
  rw [covers, Bool.and_eq_true, decide_eq_true_eq, decide_eq_true_eq]

theorem outsideFrom_append (k : Nat) (xs ys : Bytes) (spans : List Span) :
    outsideFrom k (xs ++ ys) spans =
      outsideFrom k xs spans ++ outsideFrom (k + xs.length) ys spans := by
  unfold outsideFrom
  rw [List.zipIdx_append, List.filter_append, List.map_append]

theorem outsideFrom_congr {k : Nat} {data : Bytes} {spans spans' : List Span}
    (h : ∀ i, k ≤ i → i < k + data.length →
      spans.any (·.covers i) = spans'.any (·.covers i)) :
    outsideFrom k data spans = outsideFrom k data spans' := by
  unfold outsideFrom
  congr 1
  refine List.filter_congr ?_
  rintro ⟨byte, i⟩ hmem
  obtain ⟨hlow, hhigh, -⟩ := List.mem_zipIdx hmem
  show (!spans.any (·.covers i)) = !spans'.any (·.covers i)
  rw [h i hlow hhigh]

/-- Where no span reaches, everything stays. -/
theorem outsideFrom_clear {k : Nat} {data : Bytes} {spans : List Span}
    (h : ∀ i, k ≤ i → i < k + data.length → spans.any (·.covers i) = false) :
    outsideFrom k data spans = data := by
  have hall : (data.zipIdx k).filter (fun byte => !spans.any (·.covers byte.2)) =
      data.zipIdx k := by
    refine List.filter_eq_self.mpr ?_
    rintro ⟨byte, i⟩ hmem
    obtain ⟨hlow, hhigh, -⟩ := List.mem_zipIdx hmem
    show (!spans.any (·.covers i)) = true
    rw [h i hlow hhigh]
    rfl
  unfold outsideFrom
  rw [hall]
  exact List.zipIdx_map_fst k data

/-- Where a span has every byte, nothing stays. -/
theorem outsideFrom_covered {k : Nat} {data : Bytes} {spans : List Span}
    (h : ∀ i, k ≤ i → i < k + data.length → spans.any (·.covers i) = true) :
    outsideFrom k data spans = [] := by
  unfold outsideFrom
  rw [List.map_eq_nil_iff, List.filter_eq_nil_iff]
  rintro ⟨byte, i⟩ hmem
  obtain ⟨hlow, hhigh, -⟩ := List.mem_zipIdx hmem
  show ¬ (!spans.any (·.covers i)) = true
  rw [h i hlow hhigh]
  exact Bool.false_ne_true

theorem outside_perm {data : Bytes} {spans spans' : List Span} (h : spans.Perm spans') :
    outside data spans = outside data spans' :=
  outsideFrom_congr fun _ _ _ => h.any_eq

theorem outsideFrom_cons (k : Nat) (b : UInt8) (data : Bytes) (spans : List Span) :
    outsideFrom k (b :: data) spans =
      if spans.any (·.covers k) then outsideFrom (k + 1) data spans
      else b :: outsideFrom (k + 1) data spans := by
  unfold outsideFrom
  rw [List.zipIdx_cons, List.filter_cons]
  cases spans.any (·.covers k) with
  | true => rfl
  | false => rfl

/-- A byte in no span, and the bytes in no span before it, where they stand in the data. -/
theorem outsideFrom_eq_append_cons {spans : List Span} {b : UInt8} {behind : Bytes} :
    ∀ {data : Bytes} {k : Nat} {front : Bytes}, outsideFrom k data spans = front ++ b :: behind →
      ∃ before after, data = before ++ b :: after ∧ front = outsideFrom k before spans ∧
        spans.any (·.covers (k + before.length)) = false := by
  intro data
  induction data with
  | nil =>
    intro k front h
    exact absurd h (by simp [outsideFrom])
  | cons d data ih =>
    intro k front h
    rw [outsideFrom_cons] at h
    by_cases hd : spans.any (·.covers k) = true
    · rw [if_pos hd] at h
      obtain ⟨before, after, rfl, rfl, hclear⟩ := ih h
      refine ⟨d :: before, after, rfl, ?_, ?_⟩
      · rw [outsideFrom_cons, if_pos hd]
      · rw [List.length_cons, Nat.add_comm before.length, ← Nat.add_assoc, hclear]
    · rw [if_neg hd] at h
      cases front with
      | nil =>
        obtain ⟨rfl, -⟩ := List.cons.inj h
        exact ⟨[], data, rfl, rfl, Bool.eq_false_iff.mpr hd⟩
      | cons x front =>
        obtain ⟨rfl, hrest⟩ := List.cons.inj h
        obtain ⟨before, after, rfl, rfl, hclear⟩ := ih hrest
        refine ⟨d :: before, after, rfl, ?_, ?_⟩
        · rw [outsideFrom_cons, if_neg hd]
        · rw [List.length_cons, Nat.add_comm before.length, ← Nat.add_assoc, hclear]

/-- Data in three parts, the middle one a span: the other spans decide about the parts around it. -/
theorem outsideFrom_cut {k : Nat} {a b c : Bytes} {s : Span} (rest : List Span)
    (hstart : s.start = k + a.length) (hstop : s.stop = k + a.length + b.length) :
    outsideFrom k (a ++ b ++ c) (s :: rest) =
      outsideFrom k a rest ++ outsideFrom (k + a.length + b.length) c rest := by
  have hcovers : ∀ i, s.covers i = true ↔ k + a.length ≤ i ∧ i < k + a.length + b.length := by
    intro i
    rw [covers_iff]
    omega
  have hother : ∀ i, ¬ (k + a.length ≤ i ∧ i < k + a.length + b.length) →
      (s :: rest).any (·.covers i) = rest.any (·.covers i) := by
    intro i hi
    rw [List.any_cons, Bool.eq_false_iff.mpr fun hc => hi ((hcovers i).mp hc), Bool.false_or]
  have hbefore : outsideFrom k a (s :: rest) = outsideFrom k a rest :=
    outsideFrom_congr fun i hlow hhigh => hother i (by omega)
  have hmiddle : outsideFrom (k + a.length) b (s :: rest) = [] := by
    refine outsideFrom_covered fun i hlow hhigh => ?_
    rw [List.any_cons, (hcovers i).mpr ⟨hlow, hhigh⟩, Bool.true_or]
  have hafter : outsideFrom (k + a.length + b.length) c (s :: rest) =
      outsideFrom (k + a.length + b.length) c rest :=
    outsideFrom_congr fun i hlow hhigh => hother i (by omega)
  rw [outsideFrom_append, outsideFrom_append, List.length_append, ← Nat.add_assoc, hbefore,
    hmiddle, hafter, List.append_nil]

/-- A span inside data that starts at the offset `k` is the middle one of three parts. -/
theorem exists_cut {k : Nat} {data : Bytes} {s : Span} (hlow : k ≤ s.start)
    (hle : s.start ≤ s.stop) (hhigh : s.stop ≤ k + data.length) :
    ∃ a b c, data = a ++ b ++ c ∧ s.start = k + a.length ∧
      s.stop = k + a.length + b.length := by
  refine ⟨data.take (s.start - k).toNat,
    (data.drop (s.start - k).toNat).take (s.stop - s.start).toNat,
    (data.drop (s.start - k).toNat).drop (s.stop - s.start).toNat, ?_, ?_, ?_⟩
  · rw [List.append_assoc, List.take_append_drop, List.take_append_drop]
  · rw [List.length_take]
    omega
  · rw [List.length_take, List.length_take, List.length_drop]
    omega

theorem Inside.cut {data : Bytes} {s : Span} (h : s.Inside data.length) :
    ∃ a b c, data = a ++ b ++ c ∧ s.start = a.length ∧ s.stop = a.length + b.length := by
  obtain ⟨hlow, hle, hhigh⟩ := h
  have hfrom : s.stop ≤ ((0 : Nat) : Int) + data.length := by omega
  obtain ⟨a, b, c, hdata, hstart, hstop⟩ := exists_cut (k := 0) hlow hle hfrom
  exact ⟨a, b, c, hdata, by omega, by omega⟩

/-! ## From the last span to the first -/

/-- What remains when the span with the greatest start is taken out first: everything behind it
stays. -/
theorem outside_last {a b c : Bytes} {s : Span} {rest : List Span}
    (hstart : s.start = a.length) (hstop : s.stop = a.length + b.length)
    (hrest : ∀ t ∈ rest, t.stop ≤ s.start) :
    outside (a ++ b ++ c) (s :: rest) = outside a rest ++ c := by
  have hcut : outsideFrom 0 (a ++ b ++ c) (s :: rest) =
      outsideFrom 0 a rest ++ outsideFrom (0 + a.length + b.length) c rest :=
    outsideFrom_cut rest (by omega) (by omega)
  have hclear : outsideFrom (0 + a.length + b.length) c rest = c := by
    refine outsideFrom_clear fun i hlow hhigh => List.any_eq_false.mpr fun t ht hc => ?_
    have hbefore := hrest t ht
    rw [covers_iff] at hc
    omega
  rw [outside, hcut, hclear, outside]

/-- **One span after the other.** Of the data in front of what has been cut together, `tail`, the
bytes in no span remain. -/
theorem removeFrom_outside {size : Nat} :
    ∀ {spans : List Span} {floor : Int} {front tail : Bytes},
      front.length ≤ size → front.length ≤ floor → (∀ s ∈ spans, s.Inside front.length) →
      spans.Pairwise (fun s t => t.stop ≤ s.start) →
      removeFrom size floor (front ++ tail) spans = .ok (outside front spans ++ tail) := by
  intro spans
  induction spans with
  | nil =>
    intro floor front tail _ _ _ _
    rw [removeFrom, outside, outsideFrom_clear fun _ _ _ => rfl]
  | cons s rest ih =>
    intro floor front tail hsize hfloor hinside hordered
    obtain ⟨hbefore, hordered⟩ := List.pairwise_cons.mp hordered
    obtain ⟨a, b, c, rfl, hstart, hstop⟩ := (hinside s (List.mem_cons_self ..)).cut
    rw [List.length_append, List.length_append] at hsize hfloor
    have hdata : (a ++ b ++ c ++ tail).take s.start.toNat ++
        (a ++ b ++ c ++ tail).drop s.stop.toNat = a ++ (c ++ tail) := by
      have htake : s.start.toNat = a.length := by omega
      have hdrop : s.stop.toNat = (a ++ b).length := by rw [List.length_append]; omega
      rw [hdrop, List.append_assoc (a ++ b), List.drop_left, htake, List.append_assoc a,
        List.take_left]
    rw [removeFrom, if_neg (by simp; omega), if_neg (by show ¬ floor < s.stop; omega), hdata,
      ih (by omega) (by omega) ?_ hordered, outside_last hstart hstop hbefore,
      List.append_assoc]
    -- the spans that are left lie in front of this one
    intro t ht
    obtain ⟨htlow, htle, -⟩ := hinside t (List.mem_cons_of_mem _ ht)
    have hend := hbefore t ht
    exact ⟨htlow, htle, by omega⟩

theorem length_outside {front : Bytes} {spans : List Span}
    (hinside : ∀ s ∈ spans, s.Inside front.length)
    (hordered : spans.Pairwise fun s t => t.stop ≤ s.start) :
    ((outside front spans).length : Int) = front.length - total spans := by
  induction spans generalizing front with
  | nil =>
    rw [outside, outsideFrom_clear fun _ _ _ => rfl]
    exact (Int.sub_zero _).symm
  | cons s rest ih =>
    obtain ⟨hbefore, hordered⟩ := List.pairwise_cons.mp hordered
    obtain ⟨a, b, c, rfl, hstart, hstop⟩ := (hinside s (List.mem_cons_self ..)).cut
    have hrest : ((outside a rest).length : Int) = a.length - total rest := by
      refine ih (fun t ht => ?_) hordered
      obtain ⟨htlow, htle, -⟩ := hinside t (List.mem_cons_of_mem _ ht)
      have hend := hbefore t ht
      exact ⟨htlow, htle, by omega⟩
    have htotal : total (s :: rest) = s.stop - s.start + total rest := rfl
    rw [outside_last hstart hstop hbefore, htotal]
    simp only [List.length_append]
    omega

/-! ## The order of a list -/

/-- **What is checked in descending order, said of the list as it is given.** The head of a list
goes behind the spans with greater starts and before all others. -/
theorem pairwise_descending_iff (spans : List Span) :
    (descending spans).Pairwise (fun s t => t.stop ≤ s.start) ↔ spans.Pairwise Clears := by
  induction spans with
  | nil => exact iff_of_true (by simp [descending]) .nil
  | cons s rest ih =>
    have htrans : ∀ a b c : Span, decide (b.start ≤ a.start) = true →
        decide (c.start ≤ b.start) = true → decide (c.start ≤ a.start) = true := by
      intro a b c hab hbc
      rw [decide_eq_true_eq] at hab hbc ⊢
      omega
    have htotal : ∀ a b : Span,
        (decide (b.start ≤ a.start) || decide (a.start ≤ b.start)) = true := by
      intro a b
      rw [Bool.or_eq_true, decide_eq_true_eq, decide_eq_true_eq]
      omega
    obtain ⟨greater, others, hsorted, hrest, hgreater⟩ :=
      List.mergeSort_cons htrans htotal s rest
    have hdescending : (greater ++ s :: others).Pairwise fun a b => b.start ≤ a.start :=
      hsorted ▸ pairwise_mergeSort_descending Span.start (s :: rest)
    have hothers : ∀ t ∈ others, t.start ≤ s.start :=
      (List.pairwise_cons.mp (List.pairwise_append.mp hdescending).2.1).1
    have hmem : ∀ t, t ∈ rest ↔ t ∈ greater ∨ t ∈ others := by
      intro t
      rw [← List.mem_append, ← hrest, List.mem_mergeSort]
    have hclear : (∀ t ∈ rest, Clears s t) ↔
        (∀ t ∈ greater, s.stop ≤ t.start) ∧ ∀ t ∈ others, t.stop ≤ s.start := by
      have hfirst : ∀ t ∈ greater, (Clears s t ↔ s.stop ≤ t.start) := by
        intro t ht
        have hlt := hgreater t ht
        rw [Bool.not_eq_true', decide_eq_false_iff_not] at hlt
        rw [Clears, if_neg hlt]
      have hlast : ∀ t ∈ others, (Clears s t ↔ t.stop ≤ s.start) := by
        intro t ht
        rw [Clears, if_pos (hothers t ht)]
      constructor
      · intro h
        exact ⟨fun t ht => (hfirst t ht).mp (h t ((hmem t).mpr (Or.inl ht))),
          fun t ht => (hlast t ht).mp (h t ((hmem t).mpr (Or.inr ht)))⟩
      · rintro ⟨hbefore, hafter⟩ t ht
        rcases (hmem t).mp ht with ht | ht
        · exact (hfirst t ht).mpr (hbefore t ht)
        · exact (hlast t ht).mpr (hafter t ht)
    have hwithout : (greater ++ others).Pairwise (fun a b => b.stop ≤ a.start) ↔
        rest.Pairwise Clears := by
      rw [← ih, descending, hrest]
    rw [List.pairwise_cons, hclear, ← hwithout, descending, hsorted]
    simp only [List.pairwise_append, List.pairwise_cons, List.mem_cons]
    constructor
    · rintro ⟨hg, ⟨hs, ho⟩, hcross⟩
      exact ⟨⟨fun t ht => hcross t ht s (Or.inl rfl), hs⟩, hg, ho,
        fun t ht u hu => hcross t ht u (Or.inr hu)⟩
    · rintro ⟨⟨hbefore, hs⟩, hg, ho, hcross⟩
      refine ⟨hg, ⟨hs, ho⟩, fun t ht u hu => ?_⟩
      rcases hu with rfl | hu
      · exact hbefore t ht
      · exact hcross t ht u hu

theorem descending_perm (spans : List Span) : (descending spans).Perm spans :=
  List.mergeSort_perm ..

theorem mem_descending {spans : List Span} {s : Span} : s ∈ descending spans ↔ s ∈ spans :=
  (descending_perm spans).mem_iff

/-- **Removal** takes out what can be taken out, and leaves the bytes in no span. -/
theorem remove_eq_ok_iff {data bytes : Bytes} {spans : List Span} :
    remove data spans = .ok bytes ↔
      Removable data.length spans ∧ bytes = outside data spans := by
  have hremoved : Removable data.length spans →
      remove data spans = .ok (outside data spans) := by
    intro h
    have hrun : removeFrom data.length (data.length + 1) (data ++ []) (descending spans) =
        .ok (outside data (descending spans) ++ []) :=
      removeFrom_outside (Nat.le_refl _) (by omega)
        (fun s hs => h.inside s (mem_descending.mp hs))
        ((pairwise_descending_iff spans).mpr h.clear)
    rw [List.append_nil, List.append_nil] at hrun
    rw [remove, hrun, outside_perm (descending_perm spans)]
  constructor
  · intro h
    obtain ⟨hwithin, hordered⟩ := ordered_of_removeFrom h
    have hremovable : Removable data.length spans :=
      ⟨fun s hs => (hwithin s (mem_descending.mpr hs)).1,
        (pairwise_descending_iff spans).mp hordered⟩
    exact ⟨hremovable, Except.ok.inj (h.symm.trans (hremoved hremovable))⟩
  · rintro ⟨hremovable, rfl⟩
    exact hremoved hremovable

/-! ## From the first span to the last -/

/-- Takes spans out of `data` one after the other; `shift` is how many bytes have been taken out in
front of those that are left. -/
def removeTracking (shift : Int) (data : Bytes) : List Span → Bytes
  | [] => data
  | s :: rest =>
    removeTracking (shift + (s.stop - s.start))
      (data.take (s.start - shift).toNat ++ data.drop (s.stop - shift).toNat) rest

/-- The spans by ascending start, and by ascending end where the starts are equal. -/
def ascending (spans : List Span) : List Span :=
  spans.mergeSort fun a b => a.start < b.start || (a.start == b.start && a.stop ≤ b.stop)

/-- The data after the spans were taken out from the first to the last. -/
def removeAscending (data : Bytes) (spans : List Span) : Bytes :=
  removeTracking 0 data (ascending spans)

/-- Behind the bytes that were `kept`, the data is as it was from the offset `k` on. -/
theorem removeTracking_outside :
    ∀ {spans : List Span} {k : Nat} {shift : Int} {kept rest : Bytes},
      (kept.length : Int) = k - shift →
      (∀ s ∈ spans, k ≤ s.start ∧ s.start ≤ s.stop ∧ s.stop ≤ k + rest.length) →
      spans.Pairwise (fun s t => s.stop ≤ t.start) →
      removeTracking shift (kept ++ rest) spans = kept ++ outsideFrom k rest spans := by
  intro spans
  induction spans with
  | nil =>
    intro k shift kept rest _ _ _
    rw [removeTracking, outsideFrom_clear fun _ _ _ => rfl]
  | cons s spans ih =>
    intro k shift kept rest hkept hinside hordered
    obtain ⟨hlow, hle, hhigh⟩ := hinside s (List.mem_cons_self ..)
    obtain ⟨hafter, hordered⟩ := List.pairwise_cons.mp hordered
    obtain ⟨a, b, c, rfl, hstart, hstop⟩ := exists_cut hlow hle hhigh
    have hdata : (kept ++ (a ++ b ++ c)).take (s.start - shift).toNat ++
        (kept ++ (a ++ b ++ c)).drop (s.stop - shift).toNat = kept ++ a ++ c := by
      have htake : (s.start - shift).toNat = (kept ++ a).length := by
        rw [List.length_append]; omega
      have hdrop : (s.stop - shift).toNat = (kept ++ a ++ b).length := by
        rw [List.length_append, List.length_append]; omega
      rw [htake, hdrop, List.append_assoc a, ← List.append_assoc kept, List.take_left,
        ← List.append_assoc (kept ++ a), List.drop_left]
    have hclear : outsideFrom k a spans = a := by
      refine outsideFrom_clear fun i hi hia => List.any_eq_false.mpr fun t ht hc => ?_
      have hlater := hafter t ht
      rw [covers_iff] at hc
      omega
    rw [removeTracking, hdata, ih (k := k + a.length + b.length) ?_ ?_ hordered,
      outsideFrom_cut spans hstart hstop, hclear, List.append_assoc]
    · rw [List.length_append]
      omega
    · intro t ht
      obtain ⟨-, htle, hthigh⟩ := hinside t (List.mem_cons_of_mem _ ht)
      have hlater := hafter t ht
      rw [List.length_append, List.length_append] at hthigh
      omega

theorem ascending_perm (spans : List Span) : (ascending spans).Perm spans :=
  List.mergeSort_perm ..

/-- In ascending order, spans that can be taken out stand one behind the other. -/
theorem Removable.pairwise_ascending {size : Nat} {spans : List Span}
    (h : Removable size spans) : (ascending spans).Pairwise fun s t => s.stop ≤ t.start := by
  have hsorted : (ascending spans).Pairwise fun s t =>
      s.start < t.start ∨ s.start = t.start ∧ s.stop ≤ t.stop := by
    refine (List.pairwise_mergeSort ?_ ?_ spans).imp fun hle => ?_
    · intro a b c hab hbc
      simp only [Bool.or_eq_true, Bool.and_eq_true, decide_eq_true_eq, beq_iff_eq] at hab hbc ⊢
      omega
    · intro a b
      simp only [Bool.or_eq_true, Bool.and_eq_true, decide_eq_true_eq, beq_iff_eq]
      omega
    · simpa only [Bool.or_eq_true, Bool.and_eq_true, decide_eq_true_eq, beq_iff_eq] using hle
  -- which of two spans came first in the list is forgotten
  have hclear : (ascending spans).Pairwise fun s t => Clears s t ∨ Clears t s :=
    ((ascending_perm spans).pairwise_iff Or.symm).mpr (h.clear.imp Or.inl)
  refine (hsorted.and hclear).imp ?_
  intro s t ⟨hle, hclears⟩
  unfold Clears at hclears
  rcases hclears with hclears | hclears
  · split at hclears <;> omega
  · split at hclears <;> omega

theorem Removable.removeAscending_eq {data : Bytes} {spans : List Span}
    (h : Removable data.length spans) : removeAscending data spans = outside data spans := by
  have hinside : ∀ s ∈ ascending spans, ((0 : Nat) : Int) ≤ s.start ∧ s.start ≤ s.stop ∧
      s.stop ≤ ((0 : Nat) : Int) + data.length := by
    intro s hs
    obtain ⟨hlow, hle, hhigh⟩ := h.inside s ((ascending_perm spans).mem_iff.mp hs)
    exact ⟨hlow, hle, by omega⟩
  have hrun : removeTracking 0 ([] ++ data) (ascending spans) =
      [] ++ outsideFrom 0 data (ascending spans) :=
    removeTracking_outside rfl hinside h.pairwise_ascending
  rw [← outside_perm (ascending_perm spans)]
  exact hrun

/-! ## Permutations -/

theorem total_perm {spans spans' : List Span} (h : spans.Perm spans') :
    total spans = total spans' :=
  h.foldr_eq' (fun s _ t _ sum => by omega) 0

/-- Whether spans with bytes can be taken out does not depend on their order. -/
theorem Removable.perm {size : Nat} {spans spans' : List Span}
    (hbytes : ∀ s ∈ spans, s.start ≠ s.stop) (hperm : spans.Perm spans')
    (h : Removable size spans) : Removable size spans' := by
  refine ⟨fun s hs => h.inside s (hperm.mem_iff.mpr hs), ?_⟩
  -- spans with bytes that are clear of each other are so whichever comes first
  have hapart : spans.Pairwise fun s t =>
      (s.start < s.stop ∧ t.start < t.stop) ∧ (s.stop ≤ t.start ∨ t.stop ≤ s.start) := by
    refine h.clear.imp_of_mem ?_
    intro s t hs ht hclears
    have hs' := h.inside s hs
    have ht' := h.inside t ht
    have hne := hbytes s hs
    have hne' := hbytes t ht
    unfold Inside at hs' ht'
    unfold Clears at hclears
    split at hclears <;> omega
  refine ((hperm.pairwise_iff ?_).mp hapart).imp ?_
  · rintro s t ⟨⟨hs, ht⟩, hor⟩
    exact ⟨⟨ht, hs⟩, hor.symm⟩
  · rintro s t ⟨⟨hs, ht⟩, hor⟩
    unfold Clears
    split <;> omega

end Span

/-- The text of a module without its callables has the bytes in none of them. -/
theorem Assembly.withoutCallables_outside {a : Assembly} {text remaining : String}
    (h : a.withoutCallables text = .ok remaining) :
    Utf8.decode (Span.outside (Utf8.encode text) a.spans) = .ok remaining := by
  unfold withoutCallables at h
  split at h
  next => exact nomatch h
  next bytes hbytes =>
    obtain ⟨-, rfl⟩ := Span.remove_eq_ok_iff.mp hbytes
    exact mapError_eq_ok.mp h

/-- **Removal is exact.** It succeeds exactly if every span lies inside the data and any two of them
are clear of each other. It then leaves the bytes that are in no span, which is what a removal from
the first span to the last leaves too, and they are fewer by the sizes of the spans. If no span is
empty, the order of the list does not matter. -/
theorem removal_exact (data : Bytes) (spans : List Span) :
    ((∃ bytes, Span.remove data spans = .ok bytes) ↔
      (∀ s ∈ spans, 0 ≤ s.start ∧ s.start ≤ s.stop ∧ s.stop ≤ data.length) ∧
        spans.Pairwise Span.Clears) ∧
    (∀ bytes, Span.remove data spans = .ok bytes →
      bytes = Span.outside data spans ∧ bytes = Span.removeAscending data spans ∧
        (bytes.length : Int) = data.length - Span.total spans) ∧
    ((∀ s ∈ spans, s.start ≠ s.stop) → ∀ spans', spans.Perm spans' →
      ∀ bytes, Span.remove data spans' = .ok bytes ↔ Span.remove data spans = .ok bytes) := by
  refine ⟨?_, ?_, ?_⟩
  · constructor
    · rintro ⟨bytes, h⟩
      obtain ⟨hremovable, -⟩ := Span.remove_eq_ok_iff.mp h
      exact ⟨hremovable.inside, hremovable.clear⟩
    · rintro ⟨hinside, hclear⟩
      exact ⟨_, Span.remove_eq_ok_iff.mpr ⟨⟨hinside, hclear⟩, rfl⟩⟩
  · intro bytes h
    obtain ⟨hremovable, rfl⟩ := Span.remove_eq_ok_iff.mp h
    refine ⟨rfl, hremovable.removeAscending_eq.symm, ?_⟩
    have hperm := Span.descending_perm spans
    rw [← Span.outside_perm hperm, ← Span.total_perm hperm]
    exact Span.length_outside (fun s hs => hremovable.inside s (Span.mem_descending.mp hs))
      ((Span.pairwise_descending_iff spans).mpr hremovable.clear)
  · intro hbytes spans' hperm bytes
    have hbytes' : ∀ s ∈ spans', s.start ≠ s.stop := fun s hs =>
      hbytes s (hperm.mem_iff.mpr hs)
    rw [Span.remove_eq_ok_iff, Span.remove_eq_ok_iff, Span.outside_perm hperm]
    exact and_congr_left fun _ => ⟨.perm hbytes' hperm.symm, .perm hbytes hperm⟩

/-- An empty span may follow one with the same start in the list, but not come before it. Without
the empty one the order does not matter. -/
theorem removal_exact_ties :
    (∃ bytes, Span.remove [0, 1, 2, 3, 4, 5, 6, 7] [⟨4, 6⟩, ⟨2, 4⟩, ⟨4, 4⟩] = .ok bytes ∧
      bytes = [0, 1, 6, 7] ∧
      bytes = Span.removeAscending [0, 1, 2, 3, 4, 5, 6, 7] [⟨4, 6⟩, ⟨2, 4⟩, ⟨4, 4⟩]) ∧
    (¬ ∃ bytes,
      Span.remove [0, 1, 2, 3, 4, 5, 6, 7] [⟨4, 4⟩, ⟨2, 4⟩, ⟨4, 6⟩] = .ok bytes) ∧
    ∀ bytes, Span.remove [0, 1, 2, 3, 4, 5, 6, 7] [⟨2, 4⟩, ⟨4, 6⟩] = .ok bytes ↔
      Span.remove [0, 1, 2, 3, 4, 5, 6, 7] [⟨4, 6⟩, ⟨2, 4⟩] = .ok bytes := by
  refine ⟨?_, ?_, ?_⟩
  · obtain ⟨hiff, hresult, -⟩ :=
      removal_exact [0, 1, 2, 3, 4, 5, 6, 7] [⟨4, 6⟩, ⟨2, 4⟩, ⟨4, 4⟩]
    obtain ⟨bytes, hbytes⟩ := hiff.mpr (by decide)
    obtain ⟨houtside, hascending, -⟩ := hresult bytes hbytes
    exact ⟨bytes, hbytes, houtside.trans (by decide), hascending⟩
  · obtain ⟨hiff, -⟩ := removal_exact [0, 1, 2, 3, 4, 5, 6, 7] [⟨4, 4⟩, ⟨2, 4⟩, ⟨4, 6⟩]
    exact fun h => absurd (hiff.mp h).2 (by decide)
  · exact (removal_exact [0, 1, 2, 3, 4, 5, 6, 7] [⟨4, 6⟩, ⟨2, 4⟩]).2.2 (by decide)
      [⟨2, 4⟩, ⟨4, 6⟩] (.swap ..)

end Unbundle
