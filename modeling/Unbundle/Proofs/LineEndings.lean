import Unbundle.Proofs.Rerun
import Unbundle.Proofs.RowLayout
import Unbundle.Proofs.SpanRemoval

/-!
# Line endings stay

In a text whose line endings are a carriage return and a line feed, every line feed has a carriage
return right before it (`LedBy`). Its bytes say the same as its characters
(`Utf8.ledBy_encodeChars`), and so do its rows: every row with another one behind it ends in a
carriage return (`Returned`, `ledBy_iff_returned`).

Each step of an assembly is followed in the form in which it is made. Taking out spans leaves a line
feed alone only if a span ends right before it (`Span.ledBy_outside`). Stripping shortens a row that
closes a block, but not at its end (`Loader.returned_stripRows`). Collapsing shows rows in their
order, and a row that stands for others takes its ending from the first of them
(`BlankRows.returned_tidyFrom`).
-/

namespace Unbundle

/-- Every `c` in a list has `lead` right before it. -/
def LedBy {α : Type} (lead c : α) (xs : List α) : Prop :=
  ∀ front behind, xs = front ++ c :: behind → front.getLast? = some lead

section Lists

variable {α : Type} {lead c : α} {xs ys : List α}

theorem LedBy.of_not_mem (h : c ∉ xs) : LedBy lead c xs := by
  intro front behind heq
  exact absurd (heq ▸ List.mem_append_right _ (List.mem_cons_self ..)) h

theorem LedBy.of_append (h : LedBy lead c (xs ++ ys)) : LedBy lead c xs := by
  intro front behind heq
  exact h front (behind ++ ys) (by rw [heq, List.append_assoc, List.cons_append])

theorem LedBy.append (hxs : LedBy lead c xs) (hys : LedBy lead c ys) :
    LedBy lead c (xs ++ ys) := by
  intro front behind heq
  rcases List.append_eq_append_iff.mp heq with ⟨mid, rfl, hmid⟩ | ⟨mid, rfl, hmid⟩
  · rw [List.getLast?_append, hys mid behind hmid]
    rfl
  · cases mid with
    | nil =>
      -- the second list would start with a `c` that nothing leads
      have hnone := hys [] behind hmid.symm
      exact absurd hnone (by simp)
    | cons d mid =>
      obtain ⟨rfl, -⟩ := List.cons.inj hmid
      exact hxs front mid rfl

theorem LedBy.concat (hxs : LedBy lead c xs) (h : xs.getLast? = some lead) :
    LedBy lead c (xs ++ [c]) := by
  intro front behind heq
  rcases List.eq_nil_or_concat behind with rfl | ⟨init, last, rfl⟩
  · rw [← (List.append_inj' heq rfl).1]
    exact h
  · rw [List.concat_eq_append, ← List.cons_append, ← List.append_assoc] at heq
    exact hxs front init (List.append_inj' heq rfl).1

/-- The first `c` of a list cuts it in two. -/
theorem ledBy_append_cons (hne : lead ≠ c) (hxs : c ∉ xs) :
    LedBy lead c (xs ++ c :: ys) ↔ xs.getLast? = some lead ∧ LedBy lead c ys := by
  constructor
  · intro h
    refine ⟨h xs ys rfl, ?_⟩
    intro front behind heq
    have hlast := h (xs ++ c :: front) behind (by rw [heq, List.append_assoc, List.cons_append])
    cases front with
    | nil =>
      rw [List.getLast?_concat] at hlast
      exact absurd (Option.some.inj hlast).symm hne
    | cons d front =>
      rw [List.getLast?_append, List.getLast?_cons_cons, List.getLast?_cons,
        Option.some_or] at hlast
      rw [List.getLast?_cons, hlast]
  · intro h
    obtain ⟨hlast, hys⟩ := h
    rw [List.append_cons]
    exact ((LedBy.of_not_mem hxs).concat hlast).append hys

end Lists

/-! ## Rows -/

/-- Every row with another one behind it ends in a carriage return. -/
def Returned (rows : List (List Char)) : Prop :=
  rows.Pairwise fun row _ => row.getLast? = some '\r'

instance (rows : List (List Char)) : Decidable (Returned rows) :=
  inferInstanceAs (Decidable (rows.Pairwise fun row _ => row.getLast? = some '\r'))

/-- A row still ends in a carriage return when other rows stand behind it than before, if there were
any before. -/
theorem Returned.getLast?_of_mem {row : List Char} {rest out : List (List Char)}
    (h : Returned (row :: rest)) (hnil : rest = [] → out = []) :
    ∀ r ∈ out, row.getLast? = some '\r' := by
  intro r hr
  cases rest with
  | nil =>
    rw [hnil rfl] at hr
    exact absurd hr List.not_mem_nil
  | cons next rest => exact (List.pairwise_cons.mp h).1 next (List.mem_cons_self ..)

theorem ledBy_joinRows :
    ∀ {rows : List (List Char)}, (∀ row ∈ rows, '\n' ∉ row) →
      (LedBy '\r' '\n' (Text.joinRows rows) ↔ Returned rows)
  | [], _ => iff_of_true (.of_not_mem List.not_mem_nil) .nil
  | [row], h =>
    iff_of_true (.of_not_mem (h row (List.mem_cons_self ..))) (List.pairwise_singleton ..)
  | row :: next :: rest, h => by
    obtain ⟨hrow, hrest⟩ := List.forall_mem_cons.mp h
    have hcons : Returned (row :: next :: rest) ↔
        (∀ r ∈ next :: rest, row.getLast? = some '\r') ∧ Returned (next :: rest) :=
      List.pairwise_cons
    rw [Text.joinRows, ledBy_append_cons (by decide) hrow, ledBy_joinRows hrest, hcons]
    refine and_congr_left fun _ => ?_
    constructor
    · intro hlast _ _
      exact hlast
    · intro hlast
      exact hlast next (List.mem_cons_self ..)

theorem ledBy_iff_returned (cs : List Char) : LedBy '\r' '\n' cs ↔ Returned (Text.rows cs) := by
  have h := ledBy_joinRows fun row (hrow : row ∈ Text.rows cs) => Text.not_mem_of_mem_rows hrow
  rwa [Text.joinRows_rows] at h

/-! ## Bytes -/

namespace Utf8

theorem getLast?_encodeChars (cs : List Char) :
    (encodeChars cs).getLast? = some 0x0d ↔ cs.getLast? = some '\r' := by
  rcases List.eq_nil_or_concat cs with rfl | ⟨init, c, rfl⟩
  · exact iff_of_false (by decide) (by decide)
  · have hbytes : encodeChars (init.concat c) = encodeChars init ++ String.utf8EncodeChar c := by
      rw [List.concat_eq_append, encodeChars_append]
      exact congrArg (encodeChars init ++ ·) (List.flatMap_singleton ..)
    have hlast : (encodeChars (init.concat c)).getLast? = (String.utf8EncodeChar c).getLast? := by
      rw [hbytes, List.getLast?_append, List.getLast?_eq_some_getLast String.utf8EncodeChar_ne_nil,
        Option.some_or]
    rw [hlast, List.concat_eq_append, List.getLast?_concat, Option.some_inj]
    constructor
    · intro h
      exact Char.toNat_inj.mp (toNat_of_mem_encodeChar (by decide) (List.mem_of_getLast? h)).symm
    · intro h
      rw [h]
      decide

/-- A byte that is a line feed is a character that is one. -/
theorem exists_feed {before after : Bytes} :
    ∀ {cs : List Char}, encodeChars cs = before ++ 0x0a :: after →
      ∃ front behind, cs = front ++ '\n' :: behind ∧ before = encodeChars front := by
  intro cs h
  obtain ⟨front, c, behind, rfl, hcode, hfront⟩ := exists_ascii (by decide) h
  obtain rfl : c = '\n' := Char.toNat_inj.mp hcode
  exact ⟨front, behind, rfl, hfront⟩

theorem ledBy_encodeChars (cs : List Char) :
    LedBy 0x0d 0x0a (encodeChars cs) ↔ LedBy '\r' '\n' cs := by
  constructor
  · intro h front behind heq
    refine (getLast?_encodeChars front).mp (h _ (encodeChars behind) ?_)
    rw [heq, encodeChars_append]
    rfl
  · intro h before after heq
    obtain ⟨front, behind, hcs, rfl⟩ := exists_feed heq
    exact (getLast?_encodeChars front).mpr (h front behind hcs)

end Utf8

namespace Span

/-- An offset between a carriage return and the line feed that it leads. -/
def PartsPair (data : Bytes) (offset : Int) : Prop :=
  0 < offset ∧ data[(offset - 1).toNat]? = some 0x0d ∧ data[offset.toNat]? = some 0x0a

instance (data : Bytes) (offset : Int) : Decidable (PartsPair data offset) :=
  inferInstanceAs (Decidable (0 < offset ∧ data[(offset - 1).toNat]? = some 0x0d ∧
    data[offset.toNat]? = some 0x0a))

/-- **Taking out spans** leaves no line feed alone, unless one of them ends right before it. -/
theorem ledBy_outside {data : Bytes} {spans : List Span} (h : LedBy 0x0d 0x0a data)
    (hspans : ∀ s ∈ spans, ¬ PartsPair data s.stop) : LedBy 0x0d 0x0a (outside data spans) := by
  intro front behind heq
  obtain ⟨before, after, hdata, rfl, hclear⟩ := outsideFrom_eq_append_cons heq
  obtain ⟨init, rfl⟩ := List.getLast?_eq_some_iff.mp (h before after hdata)
  -- a span that has the carriage return and not the line feed would end between them
  have hreturn : outsideFrom (0 + init.length) [0x0d] spans = [0x0d] := by
    refine outsideFrom_clear fun i hlow hhigh => List.any_eq_false.mpr fun s hs hcovers => ?_
    have hfeed := List.any_eq_false.mp hclear s hs
    rw [covers_iff] at hcovers hfeed
    rw [List.length_append, List.length_singleton] at hfeed
    rw [List.length_singleton] at hhigh
    have hstop : s.stop = init.length + 1 := by omega
    refine hspans s hs ⟨by omega, ?_, ?_⟩
    · rw [hdata, hstop, List.append_assoc, List.getElem?_append_right (by omega)]
      simp
    · rw [hdata, hstop, List.getElem?_append_right (by simp)]
      simp
  rw [outsideFrom_append, hreturn, List.getLast?_concat]

end Span

/-! ## Stripping and collapsing -/

namespace Loader

/-- What stays of a row that closes a block ends as the row does. -/
theorem getLast?_closingRest {row rest : Row} {last : Bool} (hcloses : closes row = true)
    (hrow : row.getLast? = some '\r') (h : closingRest row last = some rest) :
    rest.getLast? = some '\r' := by
  obtain ⟨lead, behind, hlead, hends⟩ := closes_iff.mp hcloses
  obtain rfl : row = lead ++ closing ++ behind := hends
  have hbehind : behind.getLast? = some '\r' := by
    rcases List.eq_nil_or_concat behind with rfl | ⟨init, c, rfl⟩
    · rw [List.append_nil, List.getLast?_append, show closing.getLast? = some 'n' by decide,
        Option.some_or] at hrow
      exact absurd hrow (by decide)
    · rw [List.concat_eq_append, ← List.append_assoc, List.getLast?_concat] at hrow
      rw [List.concat_eq_append, List.getLast?_concat, hrow]
  have hdrop : ((lead ++ closing ++ behind).dropWhile isGap).drop closing.length = behind := by
    rw [List.append_assoc, List.dropWhile_append_of_pos (List.all_eq_true.mp hlead)]
    exact List.drop_left
  unfold closingRest at h
  simp only [hdrop] at h
  split at h
  next => exact nomatch h
  next =>
    obtain ⟨init, rfl⟩ := List.getLast?_eq_some_iff.mp hbehind
    cases h
    rw [List.dropWhile_append]
    split
    next => rfl
    next => exact List.getLast?_concat

/-- **Stripping** keeps the endings of rows. The rows that are held stand before those to come. -/
theorem returned_stripRows :
    ∀ {rows : List Row} {held : Option (List Row)}, Returned (held.getD [] ++ rows) →
      Returned (stripRows held rows).1
  | [], none, h => h
  | [], some held, h => by
    rw [Option.getD_some, List.append_nil] at h
    exact h
  | row :: rest, held, h => by
    obtain ⟨-, hrows, -⟩ := List.pairwise_append.mp h
    have hbehind : Returned (stripRows none rest).1 :=
      returned_stripRows (List.pairwise_cons.mp hrows).2
    have hreturn : ∀ r ∈ (stripRows none rest).1, row.getLast? = some '\r' :=
      Returned.getLast?_of_mem hrows fun hnil => by rw [hnil]; rfl
    cases held with
    | none =>
      unfold stripRows
      split
      next => exact returned_stripRows h
      next => exact List.pairwise_cons.mpr ⟨hreturn, hbehind⟩
    | some held =>
      unfold stripRows
      split
      next hcloses =>
        cases hclosing : closingRest row rest.isEmpty with
        | none => exact hbehind
        | some front =>
          refine List.pairwise_cons.mpr ⟨fun r hr => ?_, hbehind⟩
          exact getLast?_closingRest hcloses (hreturn r hr) hclosing
      next =>
        refine returned_stripRows ?_
        rw [Option.getD_some, List.append_assoc, List.singleton_append]
        exact h

theorem ledBy_strip {text : String} (h : LedBy '\r' '\n' text.toList) :
    LedBy '\r' '\n' (strip text).1.toList := by
  have hfeed : ∀ row ∈ (stripRows none (Text.rows text.toList)).1, '\n' ∉ row :=
    not_mem_stripRows (fun _ hrow => Text.not_mem_of_mem_rows hrow) fun _ h => nomatch h
  have hrows : Returned (stripRows none (Text.rows text.toList)).1 :=
    returned_stripRows ((ledBy_iff_returned _).mp h)
  simp only [strip, String.toList_ofList]
  exact (ledBy_joinRows hfeed).mpr hrows

end Loader

namespace BlankRows

/-- What is left of a run whose rows all end in carriage returns does so, too. -/
theorem getLast?_settle {run : List Row} (h : ∀ row ∈ run, row.getLast? = some '\r') :
    ∀ row ∈ settle run, row.getLast? = some '\r' := by
  rw [settle_eq_between]
  unfold between
  split
  next => exact h
  next hlong =>
    cases run with
    | nil => exact absurd (Nat.zero_le 2) hlong
    | cons first run =>
      have hfirst := h first (List.mem_cons_self ..)
      rw [List.headD_cons, if_pos hfirst]
      exact List.forall_mem_singleton.mpr rfl

theorem returned_settle {run : List Row} (h : Returned run) : Returned (settle run) := by
  rw [settle_eq_between]
  unfold between
  split
  next => exact h
  next =>
    split
    next => exact List.pairwise_singleton ..
    next => exact List.pairwise_singleton ..

variable {guarded : List Nat}

/-- **Collapsing** keeps the endings of rows, those that are pending with them. -/
theorem returned_tidyFrom :
    ∀ {rows run : List Row} {i : Nat}, Returned (run ++ rows) →
      Returned (tidyFrom guarded i run rows)
  | [], run, i, h => by
    rw [List.append_nil] at h
    exact returned_settle h
  | row :: rest, run, i, h => by
    unfold tidyFrom
    split
    next =>
      obtain ⟨hrun, hrows, hcross⟩ := List.pairwise_append.mp h
      have hrest : Returned (tidyFrom guarded (i + 1) [] rest) :=
        returned_tidyFrom (List.pairwise_cons.mp hrows).2
      have hreturn : ∀ r ∈ tidyFrom guarded (i + 1) [] rest, row.getLast? = some '\r' :=
        Returned.getLast?_of_mem hrows fun hnil => by rw [hnil]; rfl
      refine List.pairwise_append.mpr
        ⟨returned_settle hrun, List.pairwise_cons.mpr ⟨hreturn, hrest⟩, ?_⟩
      -- the run stands before a row, so all of its rows end in carriage returns
      intro r hr _ _
      exact getLast?_settle (fun r hr => hcross r hr row (List.mem_cons_self ..)) r hr
    next =>
      refine returned_tidyFrom ?_
      rw [List.append_assoc, List.singleton_append]
      exact h

theorem returned_tidy :
    ∀ {rows : List Row} {i : Nat}, Returned rows → Returned (tidy guarded i rows)
  | [], _, h => h
  | row :: rest, i, h => by
    obtain ⟨-, hrest⟩ := List.pairwise_cons.mp h
    unfold tidy
    split
    next =>
      refine List.pairwise_cons.mpr ⟨h.getLast?_of_mem fun hnil => ?_, returned_tidyFrom hrest⟩
      rw [hnil]
      rfl
    next => exact returned_tidy hrest

theorem ledBy_collapse {text : String} (h : LedBy '\r' '\n' text.toList) (guarded : List Nat) :
    LedBy '\r' '\n' (collapse text guarded).toList := by
  have hfeed : ∀ row ∈ tidy guarded 0 (Text.rows text.toList), '\n' ∉ row :=
    forall_tidy List.not_mem_nil (by decide) fun row hrow => Text.not_mem_of_mem_rows hrow
  have hrows : Returned (tidy guarded 0 (Text.rows text.toList)) :=
    returned_tidy ((ledBy_iff_returned _).mp h)
  have hjoined := (ledBy_joinRows hfeed).mpr hrows
  obtain ⟨blanks, htrim, -⟩ :=
    Text.trimEnd_append_blanks (Text.joinRows (tidy guarded 0 (Text.rows text.toList)))
  rw [htrim] at hjoined
  rw [collapse, String.toList_ofList]
  exact hjoined.of_append

end BlankRows

/-! ## Modules put together -/

theorem newlineOf_of_ledBy {text : String} (hfeed : '\n' ∈ text.toList)
    (h : LedBy '\r' '\n' text.toList) : newlineOf text = "\r\n" := by
  obtain ⟨front, behind, htext⟩ := List.append_of_mem hfeed
  obtain ⟨init, rfl⟩ := List.getLast?_eq_some_iff.mp (h front behind htext)
  have hcontains := Text.contains_append ['\r', '\n'] init behind
  rw [newlineOf, htext, if_pos]
  simpa using hcontains

/-- Rows that are ended by line feeds have to end in carriage returns, all of them. -/
theorem ledBy_endRows :
    ∀ {rows : List (List Char)}, (∀ row ∈ rows, '\n' ∉ row ∧ row.getLast? = some '\r') →
      LedBy '\r' '\n' (Text.endRows rows)
  | [], _ => .of_not_mem List.not_mem_nil
  | row :: rest, h => by
    obtain ⟨hrow, hrest⟩ := List.forall_mem_cons.mp h
    rw [Text.endRows_cons]
    exact (ledBy_append_cons (by decide) hrow.1).mpr ⟨hrow.2, ledBy_endRows hrest⟩

theorem Loader.ledBy_render {publicDir privateDir extension : String}
    (hnames : OneLine publicDir privateDir extension) :
    LedBy '\r' '\n' (render publicDir privateDir extension "\r\n").toList := by
  have hreturn : "\r\n".toList = ['\r'] ++ ['\n'] := by decide
  rw [render_toList publicDir privateDir extension hreturn]
  refine ledBy_endRows fun row hrow => ⟨not_mem_loaderRows hnames (by decide) row hrow, ?_⟩
  obtain ⟨line, -, rfl⟩ := List.mem_map.mp hrow
  exact List.getLast?_concat

/-- Taking out callables keeps the line endings, if none of them ends between the two characters of
one. -/
theorem Assembly.ledBy_withoutCallables {a : Assembly} {text remaining : String}
    (h : LedBy '\r' '\n' text.toList)
    (hspans : ∀ c ∈ a.removed, ¬ Span.PartsPair (Utf8.encode text) c.stop)
    (hremaining : a.withoutCallables text = .ok remaining) :
    LedBy '\r' '\n' remaining.toList := by
  have hbytes : LedBy 0x0d 0x0a (Span.outside (Utf8.encode text) a.spans) := by
    refine Span.ledBy_outside ((Utf8.ledBy_encodeChars _).mpr h) fun s hs => ?_
    obtain ⟨c, hc, rfl⟩ := List.mem_map.mp hs
    exact hspans c hc
  rw [← Utf8.encode_of_decode (withoutCallables_outside hremaining)] at hbytes
  exact (Utf8.ledBy_encodeChars _).mp hbytes

/-- **Line endings stay.** If every line feed of a module is led by a carriage return, so is every
line feed of the module that is put together from it, whatever trees the later parses give. -/
theorem line_endings_kept {plan : Plan} {a : Assembly} {trees : TreeSource} {text : String}
    {publicDir privateDir extension : String} {result : Assembly.Result}
    (hfeed : '\n' ∈ text.toList) (htext : LedBy '\r' '\n' text.toList)
    (hnames : Loader.OneLine publicDir privateDir extension)
    (hplan : Assembly.ofPlan plan
      (Loader.render publicDir privateDir extension (newlineOf text)) = .ok a)
    (hspans : ∀ o ∈ plan.outcomes, ¬ Span.PartsPair (Utf8.encode text) o.callable.stop)
    (happly : (a.apply trees text).result = .ok result) :
    LedBy '\r' '\n' result.text.toList := by
  obtain ⟨hloader, -, hremoved⟩ := Assembly.ofPlan_ok hplan
  obtain ⟨remaining, guarded, hremaining, hresult⟩ := Assembly.apply_leftover happly
  have hremaining' : LedBy '\r' '\n' remaining.toList := by
    refine Assembly.ledBy_withoutCallables htext (fun c hc => ?_) hremaining
    obtain ⟨o, ho, rfl⟩ := List.mem_map.mp (hremoved.mem_iff.mp hc)
    exact hspans o ho
  have hleftover := BlankRows.ledBy_collapse (Loader.ledBy_strip hremaining') guarded
  have hnewline := newlineOf_of_ledBy hfeed htext
  have hend : LedBy '\r' '\n' "\r\n".toList := (ledBy_iff_returned _).mpr (by decide)
  rw [hresult, hloader, hnewline, Assembly.appendLoader_eq_append, String.toList_append]
  refine LedBy.append ?_ (Loader.ledBy_render hnames)
  unfold Assembly.beforeLoader
  split
  next => exact .of_not_mem List.not_mem_nil
  next =>
    rw [String.toList_append, String.toList_append]
    exact (hleftover.append hend).append hend

namespace LineEndings

/-- A callable whose bytes begin between the two characters of a line ending. -/
def cut : Callable := { name := "A", start := 7, stop := 21, text := "\nfunction A \x7b\x7d" }

def plan : Plan := ⟨[.write cut {}]⟩

def text : String := "$a = 1\r\nfunction A \x7b\x7d\r\n\r\n \r\n\r\n$b = 'é'\r\n"

def loader : String := Loader.render "Public" "Private" ".ps1" (newlineOf text)

def tree : Node := .mk { kind := "program", start := 0, stop := 0 } []

theorem ofPlan_plan : Assembly.ofPlan plan loader = .ok ⟨[cut], loader⟩ := by
  have hwrites : plan.writes.map (·.callable) = [cut] := by decide
  rw [Assembly.ofPlan, if_neg (by decide), hwrites, List.mergeSort_singleton]

theorem apply_text :
    ∃ lines, ((⟨[cut], loader⟩ : Assembly).apply (.always fun _ _ => tree) text).result =
      .ok ⟨"$a = 1\r\r\n\r\n$b = 'é'\r\n\r\n" ++ loader, lines, false⟩ := by
  have hremoved : (⟨[cut], loader⟩ : Assembly).withoutCallables text =
      .ok "$a = 1\r\r\n\r\n \r\n\r\n$b = 'é'\r\n" := eq_ok_of_toOption (by decide +kernel)
  have hstrip : Loader.strip "$a = 1\r\r\n\r\n \r\n\r\n$b = 'é'\r\n" =
      ("$a = 1\r\r\n\r\n \r\n\r\n$b = 'é'\r\n", false) := by decide +kernel
  have hcollapse : BlankRows.collapse "$a = 1\r\r\n\r\n \r\n\r\n$b = 'é'\r\n"
      (Node.stringRows (Utf8.encode "$a = 1\r\r\n\r\n \r\n\r\n$b = 'é'\r\n") tree) =
        "$a = 1\r\r\n\r\n$b = 'é'" := by decide +kernel
  have hbefore : Assembly.beforeLoader "$a = 1\r\r\n\r\n$b = 'é'" (newlineOf text) =
      "$a = 1\r\r\n\r\n$b = 'é'\r\n\r\n" := by decide +kernel
  obtain ⟨lines, happly⟩ := Assembly.apply_of_removed (fun _ _ => tree) hremoved
  simp only [hstrip, hcollapse, Assembly.appendLoader_eq_append, hbefore] at happly
  exact ⟨lines, happly⟩

end LineEndings

/-- The callable goes with the second half of one line ending, and three blank rows behind it become
one. -/
theorem line_endings_kept_sample :
    ∃ result, ((⟨[LineEndings.cut], LineEndings.loader⟩ : Assembly).apply
        (.always fun _ _ => LineEndings.tree) LineEndings.text).result = .ok result ∧
      result.text = "$a = 1\r\r\n\r\n$b = 'é'\r\n\r\n" ++ LineEndings.loader ∧
      LedBy '\r' '\n' result.text.toList := by
  obtain ⟨lines, happly⟩ := LineEndings.apply_text
  have htext : LedBy '\r' '\n' LineEndings.text.toList :=
    (ledBy_iff_returned _).mpr (by decide +kernel)
  have hspans : ∀ o ∈ LineEndings.plan.outcomes,
      ¬ Span.PartsPair (Utf8.encode LineEndings.text) o.callable.stop := by decide +kernel
  exact ⟨_, happly, rfl, line_endings_kept (by decide +kernel) htext Loader.oneLine_sample
    LineEndings.ofPlan_plan hspans happly⟩

end Unbundle
