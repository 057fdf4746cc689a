import Unbundle.Proofs.Assembly
import Unbundle.Proofs.LoaderBlock

/-!
# Splitting a module again

A module that was split ends in a loader, and the next split removes that loader again. If nothing
in the leftover opens the loader's region, exactly the loader goes (`Loader.strip_beforeLoader`), so
a module to which callables were added since gets its leftover back as it was, whatever blanks
stand around the callables (`rerun_does_not_drift`).

A leftover may hold a row that opens the region and is never closed. The loader's last row then
closes it, and everything from that row on goes with the loader (`next_strip_removes`,
`open_region_swallows_leftover`).
-/

namespace Unbundle

open Loader (Row LineEnding OneLine)

/-! ## What stands before a loader -/

theorem lineEnding_newlineOf (text : String) : LineEnding (newlineOf text) := by
  unfold newlineOf
  split
  next => exact Or.inr rfl
  next => exact Or.inl rfl

/-- What stands before the loader in a module with this leftover. -/
def Assembly.beforeLoader (leftover newline : String) : String :=
  if leftover = "" then "" else leftover ++ newline ++ newline

theorem Assembly.appendLoader_eq_append (leftover newline loader : String) :
    appendLoader leftover newline loader = beforeLoader leftover newline ++ loader := by
  simp only [appendLoader, beforeLoader, String.isEmpty_iff]
  split
  next => rw [String.empty_append]
  next => rfl

theorem Assembly.beforeLoader_eq_append {newline : String} (h : LineEnding newline)
    (leftover : String) : ∃ blanks, beforeLoader leftover newline = leftover ++ blanks ∧
      blanks.toList.all Text.isBlank = true := by
  unfold beforeLoader
  split
  next hempty =>
    rw [hempty]
    exact ⟨"", rfl, rfl⟩
  next =>
    refine ⟨newline ++ newline, String.append_assoc .., ?_⟩
    rcases h with rfl | rfl
    · decide
    · decide

/-- Before a loader stand whole rows, with the marks of the leftover. -/
theorem Assembly.beforeLoader_rows {newline : String} (h : LineEnding newline) (leftover : String) :
    ∃ rows : List Row, beforeLoader leftover newline = String.ofList (Text.endRows rows) ∧
      (∀ row ∈ rows, '\n' ∉ row) ∧ rows.flatMap Loader.markOf = Loader.marks leftover.toList := by
  by_cases hempty : leftover = ""
  · refine ⟨[], ?_, fun _ hrow => absurd hrow List.not_mem_nil, ?_⟩
    · rw [beforeLoader, if_pos hempty]
      rfl
    · rw [hempty]
      decide +kernel
  · obtain ⟨ending, hnewline, hblank, -, -⟩ := h.exists_ending
    have hblanks : (ending ++ ['\n'] ++ ending).all Text.isBlank = true := by
      rw [List.all_append, List.all_append, hblank]
      decide
    refine ⟨Text.rows (leftover.toList ++ (ending ++ ['\n'] ++ ending)), ?_,
      fun row hrow => Text.not_mem_of_mem_rows hrow, Loader.marks_append_blanks _ hblanks⟩
    rw [beforeLoader, if_neg hempty, Text.endRows_rows]
    apply String.toList_inj.mp
    simp only [String.toList_append, String.toList_ofList, hnewline, List.append_assoc]

namespace Loader

variable {publicDir privateDir extension newline : String}

/-- Nothing but the loader is removed behind rows that do not open its region. -/
theorem strip_beforeLoader {ending leftover : String}
    (hopens : ∀ row ∈ Text.rows leftover.toList, opens row = false) (hending : LineEnding ending)
    (hnames : OneLine publicDir privateDir extension) (hnewline : LineEnding newline)
    (after : String) :
    strip (Assembly.beforeLoader leftover ending ++ render publicDir privateDir extension newline ++
        after) =
      (Assembly.beforeLoader leftover ending ++ (strip after).1, true) := by
  obtain ⟨rows, hbefore, hfeed, hmarks⟩ := Assembly.beforeLoader_rows hending leftover
  have hrows : ∀ row ∈ rows, opens row = false := by
    rw [← opening_not_mem, hmarks]
    exact opening_not_mem.mpr hopens
  rw [hbefore, strip_endRows_render_of_not_opens hfeed hrows hnames hnewline after]

end Loader

/-! ## Modules with callables added -/

namespace Weave

/-- The text with `front` before it. -/
def after (front : List Char) : Weave → Weave
  | ⟨[], last⟩ => ⟨[], front ++ last⟩
  | ⟨(gap, c) :: rest, last⟩ => ⟨(front ++ gap, c) :: rest, last⟩

theorem callables_after (front : List Char) : ∀ w : Weave, (w.after front).callables = w.callables
  | ⟨[], _⟩ => rfl
  | ⟨_ :: _, _⟩ => rfl

theorem whole_after (front : List Char) :
    ∀ w : Weave, (w.after front).whole = front ++ w.whole
  | ⟨[], _⟩ => rfl
  | ⟨_ :: _, _⟩ => by simp [after, whole, join]

theorem gaps_after (front : List Char) : ∀ w : Weave, (w.after front).gaps = front ++ w.gaps
  | ⟨[], _⟩ => rfl
  | ⟨_ :: _, _⟩ => by simp [after, gaps]

end Weave

/-- A module that a split left with a leftover and a loader, and to which callables were added since
with nothing but blanks around them. -/
structure Regrown (leftover loader : String) (added : Weave) (text : String) : Prop where
  whole : text = Assembly.beforeLoader leftover (newlineOf text) ++ loader ++
    String.ofList added.whole
  blank : added.gaps.all Text.isBlank = true
  inPlace : (added.after
    (Assembly.beforeLoader leftover (newlineOf text) ++ loader).toList).InPlace
  ascending : added.callables.Pairwise fun c d => c.start < d.start

/-- When the added callables are taken out, the blanks around them stay behind the loader. -/
theorem Regrown.withoutCallables {a : Assembly} {leftover loader text : String} {added : Weave}
    (h : Regrown leftover loader added text) (hremoved : a.removed.Perm added.callables) :
    a.withoutCallables text = .ok (Assembly.beforeLoader leftover (newlineOf text) ++ loader ++
      String.ofList added.gaps) := by
  have hwhole : (added.after
      (Assembly.beforeLoader leftover (newlineOf text) ++ loader).toList).whole = text.toList := by
    have htext := congrArg String.toList h.whole
    rw [String.toList_append, String.toList_ofList] at htext
    exact (Weave.whole_after ..).trans htext.symm
  rw [Assembly.withoutCallables_inPlace h.inPlace hwhole
    ((Weave.callables_after ..).symm ▸ h.ascending)
    ((Weave.callables_after ..).symm ▸ hremoved),
    Weave.gaps_after, String.ofList_append, String.ofList_toList]

/-- **Splitting again does not drift.** Callables are added behind the loader of an earlier split.
When they are split off too, the leftover is as it was and the new loader stands in the place of
the old one. -/
theorem rerun_does_not_drift {a : Assembly} {publicDir privateDir extension leftover text : String}
    {added : Weave} {parser : Nat → String → Node} {stripped : String}
    (hnames : OneLine publicDir privateDir extension)
    (hmodule : Regrown leftover
      (Loader.render publicDir privateDir extension (newlineOf text)) added text)
    (hopens : ∀ row ∈ Text.rows leftover.toList, Loader.opens row = false)
    (hremoved : a.removed.Perm added.callables)
    (hstripped : stripped =
      Assembly.beforeLoader leftover (newlineOf text) ++ String.ofList added.gaps)
    (hstable : BlankRows.collapse leftover
      (Node.stringRows (Utf8.encode stripped) (parser 1 stripped)) = leftover) :
    ∃ lines, (a.apply (.always parser) text).result = .ok
      ⟨Assembly.beforeLoader leftover (newlineOf text) ++ a.loader, lines, true⟩ := by
  have hgaps : Loader.strip (String.ofList added.gaps) = (String.ofList added.gaps, false) := by
    refine Loader.strip_of_no_opening fun row hrow => ?_
    rw [String.toList_ofList] at hrow
    exact Loader.opens_append_blanks [] (Text.all_blank_of_mem_rows hmodule.blank hrow)
  have hstrip := Loader.strip_beforeLoader hopens (lineEnding_newlineOf text) hnames
    (lineEnding_newlineOf text) (String.ofList added.gaps)
  rw [hgaps, ← hstripped] at hstrip
  -- the blanks that stood around the callables are now the end of the leftover
  have hcollapse : BlankRows.collapse stripped
      (Node.stringRows (Utf8.encode stripped) (parser 1 stripped)) = leftover := by
    obtain ⟨blanks, hbefore, hblanks⟩ :=
      Assembly.beforeLoader_eq_append (lineEnding_newlineOf text) leftover
    have hend : (blanks ++ String.ofList added.gaps).toList.all Text.isBlank = true := by
      rw [String.toList_append, List.all_append, hblanks, String.toList_ofList, hmodule.blank]
      rfl
    conv => lhs; arg 1; rw [hstripped, hbefore, String.append_assoc]
    rw [BlankRows.collapse_append_blanks _ hend, hstable]
  obtain ⟨lines, happly⟩ := Assembly.apply_of_removed parser (hmodule.withoutCallables hremoved)
  rw [hstrip] at happly
  simp only [hcollapse, Assembly.appendLoader_eq_append] at happly
  exact ⟨lines, happly⟩

theorem Loader.oneLine_sample : OneLine "Public" "Private" ".ps1" :=
  ⟨by decide, by decide, by decide⟩

namespace Regrown

/-- A leftover with blank rows inside a string, which a split must keep. -/
def sampleLeftover : String := "$x = @'\r\n\r\n\r\n\r\n'@"

def sampleTree : Node :=
  .mk { kind := "program", start := 0, stop := 17, named := true } [
    .mk { kind := "verbatim_here_string_literal", start := 5, stop := 17, named := true } []]

/-- A callable that stands behind `front`. -/
def sampleCallable (front : List Char) (name text : String) : Callable :=
  { name, text
    start := (Utf8.encodeChars front).length
    stop := (Utf8.encodeChars (front ++ text.toList)).length }

/-- Two callables that are added behind `front`. -/
def sampleAdded (front : List Char) : Weave :=
  let function := sampleCallable (front ++ ['\n']) "B" "function B \x7b\x7d"
  let filter := sampleCallable
    (front ++ ['\n'] ++ function.text.toList ++ ['\n', ' ', '\n']) "C" "filter C \x7b\x7d"
  ⟨[(['\n'], function), (['\n', ' ', '\n'], filter)], ['\r', '\n']⟩

theorem inPlace_sampleAdded (front : List Char) : ((sampleAdded front).after front).InPlace :=
  ((Weave.inPlace_gap (front ++ ['\n'])).snoc ['\n', ' ', '\n'] rfl rfl).snoc ['\r', '\n']
    (by simp [sampleCallable, Weave.snoc, Weave.whole, Weave.join])
    (by simp [sampleCallable, Weave.snoc, Weave.whole, Weave.join])

theorem ascending_sampleAdded (front : List Char) :
    (sampleAdded front).callables.Pairwise fun c d => c.start < d.start := by
  refine List.pairwise_pair.mpr ?_
  have hgap : (Utf8.encodeChars ['\n', ' ', '\n']).length = 3 := by decide
  simp only [sampleCallable, Utf8.encodeChars_append, List.length_append, hgap]
  omega

def sampleFront : String :=
  Assembly.beforeLoader sampleLeftover "\r\n" ++ Loader.render "Public" "Private" ".ps1" "\r\n"

def sampleText : String := sampleFront ++ String.ofList (sampleAdded sampleFront.toList).whole

theorem newlineOf_sampleText : newlineOf sampleText = "\r\n" := by
  have hfirst : ∃ rest, sampleText.toList = "$x = @'\r\n".toList ++ rest := by
    simp only [sampleText, sampleFront, String.toList_append]
    exact ⟨_, rfl⟩
  obtain ⟨rest, hrest⟩ := hfirst
  rw [newlineOf, hrest]
  rfl

theorem sample : Regrown sampleLeftover
    (Loader.render "Public" "Private" ".ps1" (newlineOf sampleText))
    (sampleAdded sampleFront.toList) sampleText := by
  rw [newlineOf_sampleText]
  refine ⟨?_, rfl, ?_, ascending_sampleAdded _⟩
  · rw [newlineOf_sampleText]
    rfl
  · rw [newlineOf_sampleText]
    exact inPlace_sampleAdded _

end Regrown

/-- Two callables are split off, in whatever order they are taken out; the string keeps its blank
rows. -/
theorem rerun_does_not_drift_sample :
    ∃ lines, (Assembly.apply
        ⟨(Regrown.sampleAdded Regrown.sampleFront.toList).callables.reverse, "new loader"⟩
        (.always fun _ _ => Regrown.sampleTree) Regrown.sampleText).result = .ok
      ⟨"$x = @'\r\n\r\n\r\n\r\n'@\r\n\r\nnew loader", lines, true⟩ := by
  have htext : Assembly.beforeLoader Regrown.sampleLeftover (newlineOf Regrown.sampleText) ++
      "new loader" = "$x = @'\r\n\r\n\r\n\r\n'@\r\n\r\nnew loader" := by
    rw [Regrown.newlineOf_sampleText]
    decide +kernel
  rw [← htext]
  exact rerun_does_not_drift Loader.oneLine_sample Regrown.sample (by decide +kernel)
    (List.reverse_perm _) rfl (by rw [Regrown.newlineOf_sampleText]; decide +kernel)

/-! ## Regions left open -/

/-- What is left of a module before its loader has no block. -/
theorem Assembly.blockFree_leftover {a : Assembly} {trees : TreeSource} {text : String}
    {result : Result} (h : (a.apply trees text).result = .ok result) :
    ∃ leftover, result.text = beforeLoader leftover (newlineOf text) ++ a.loader ∧
      Loader.BlockFree (Text.rows leftover.toList) := by
  obtain ⟨remaining, guarded, -, htext⟩ := apply_leftover h
  refine ⟨_, htext.trans (appendLoader_eq_append ..), ?_⟩
  have hmarks := Loader.marks_collapse (Loader.strip remaining).1 guarded
  rw [Loader.blockFree_iff, ← Loader.marks, hmarks]
  exact Loader.blockFree_iff.mp (Loader.blockFree_strip remaining)

/-- **What the next split strips** is everything from the first row that opens the loader's region
on. That is the loader alone if and only if no row of the leftover opens the region. -/
theorem next_strip_removes {a : Assembly} {trees : TreeSource} {text : String}
    {result : Assembly.Result} {publicDir privateDir extension newline : String}
    (hnames : OneLine publicDir privateDir extension) (hnewline : LineEnding newline)
    (hloader : a.loader = Loader.render publicDir privateDir extension newline)
    (happly : (a.apply trees text).result = .ok result) :
    ∃ leftover, result.text = Assembly.beforeLoader leftover (newlineOf text) ++ a.loader ∧
      Loader.strip result.text = (String.ofList (Text.endRows
        ((Text.rows result.text.toList).takeWhile (!Loader.opens ·))), true) ∧
      ((Loader.strip result.text).1 = Assembly.beforeLoader leftover (newlineOf text) ↔
        ∀ row ∈ Text.rows leftover.toList, Loader.opens row = false) := by
  obtain ⟨leftover, htext, hfree⟩ := Assembly.blockFree_leftover happly
  obtain ⟨rows, hbefore, hfeed, hmarks⟩ :=
    Assembly.beforeLoader_rows (lineEnding_newlineOf text) leftover
  have hrows : Loader.BlockFree rows := by
    rw [Loader.blockFree_iff, hmarks]
    exact Loader.blockFree_iff.mp hfree
  have hstrip := Loader.strip_endRows_render hfeed hrows hnames hnewline ""
  have hwhile := Loader.takeWhile_endRows_render hfeed hnames hnewline ""
  rw [String.append_empty, ← hbefore, ← hloader, ← htext] at hstrip hwhile
  rw [show Loader.strip "" = ("", false) by decide +kernel, String.append_empty, ← hwhile] at hstrip
  refine ⟨leftover, htext, hstrip, ?_⟩
  rw [hstrip, hbefore, String.ofList_inj, hwhile, Text.endRows_takeWhile_eq_iff]
  have hopens : (∀ row ∈ rows, Loader.opens row = false) ↔
      ∀ row ∈ Text.rows leftover.toList, Loader.opens row = false := by
    rw [← Loader.opening_not_mem, hmarks]
    exact Loader.opening_not_mem
  rw [← hopens]
  simp only [Bool.not_eq_true']

namespace OpenRegion

/-- What opens the loader's region here is never closed. -/
def leftover : String := "#region " ++ Loader.regionName ++ "\n$Keep = 1"

def text : String := leftover ++ "\nfunction A \x7b\x7d\n"

def loader : String := Loader.render "Public" "Private" ".ps1" "\n"

def assembly : Assembly :=
  ⟨[{ name := "A", start := 63, stop := 76, text := "function A \x7b\x7d" }], loader⟩

def trees : TreeSource := .always fun _ _ => .mk { kind := "program", start := 0, stop := 0 } []

theorem apply_text : ∃ lines, (assembly.apply trees text).result =
    .ok ⟨Assembly.beforeLoader leftover "\n" ++ loader, lines, false⟩ := by
  have hremoved : assembly.withoutCallables text = .ok (leftover ++ "\n\n") :=
    eq_ok_of_toOption (by decide +kernel)
  have hstrip : Loader.strip (leftover ++ "\n\n") = (leftover ++ "\n\n", false) := by
    decide +kernel
  have hcollapse : BlankRows.collapse (leftover ++ "\n\n") (Node.stringRows
      (Utf8.encode (leftover ++ "\n\n")) (.mk { kind := "program", start := 0, stop := 0 } [])) =
        leftover := by decide +kernel
  have hnewline : newlineOf text = "\n" := by decide +kernel
  obtain ⟨lines, happly⟩ := Assembly.apply_of_removed
    (fun _ _ => .mk { kind := "program", start := 0, stop := 0 } []) hremoved
  simp only [hstrip, hcollapse, hnewline, Assembly.appendLoader_eq_append] at happly
  exact ⟨lines, happly⟩

end OpenRegion

theorem next_strip_removes_openRegion :
    ∃ result leftover, (OpenRegion.assembly.apply OpenRegion.trees OpenRegion.text).result =
        .ok result ∧
      result.text = Assembly.beforeLoader leftover (newlineOf OpenRegion.text) ++
        OpenRegion.loader ∧
      Loader.strip result.text = (String.ofList (Text.endRows
        ((Text.rows result.text.toList).takeWhile (!Loader.opens ·))), true) ∧
      ((Loader.strip result.text).1 =
          Assembly.beforeLoader leftover (newlineOf OpenRegion.text) ↔
        ∀ row ∈ Text.rows leftover.toList, Loader.opens row = false) := by
  obtain ⟨lines, happly⟩ := OpenRegion.apply_text
  have hloader : OpenRegion.assembly.loader = Loader.render "Public" "Private" ".ps1" "\n" := rfl
  obtain ⟨leftover, hremoves⟩ :=
    next_strip_removes Loader.oneLine_sample (Or.inl rfl) hloader happly
  exact ⟨_, leftover, happly, hremoves⟩

/-- The leftover holds `$Keep = 1`, and the next split strips it together with the loader. -/
theorem open_region_swallows_leftover :
    ∃ result, (OpenRegion.assembly.apply OpenRegion.trees OpenRegion.text).result = .ok result ∧
      result.text = OpenRegion.leftover ++ "\n\n" ++ OpenRegion.loader ∧
      Loader.strip result.text = ("", true) := by
  obtain ⟨lines, happly⟩ := OpenRegion.apply_text
  have hbefore : Assembly.beforeLoader OpenRegion.leftover "\n" =
      OpenRegion.leftover ++ "\n\n" := by decide +kernel
  have hrows : OpenRegion.leftover ++ "\n\n" =
      String.ofList (Text.endRows (Text.rows (OpenRegion.leftover ++ "\n").toList)) := by
    decide +kernel
  have hfree : Loader.BlockFree (Text.rows (OpenRegion.leftover ++ "\n").toList) := by
    decide +kernel
  have hnothing : String.ofList (Text.endRows
      ((Text.rows (OpenRegion.leftover ++ "\n").toList).takeWhile (!Loader.opens ·))) ++
        (Loader.strip "").1 = "" := by decide +kernel
  have hstrip := Loader.strip_endRows_render (fun _ => Text.not_mem_of_mem_rows) hfree
    Loader.oneLine_sample (Or.inl rfl : LineEnding "\n") ""
  rw [hnothing, ← hrows, String.append_empty] at hstrip
  exact ⟨_, happly, congrArg (· ++ OpenRegion.loader) hbefore, hbefore ▸ hstrip⟩

end Unbundle
