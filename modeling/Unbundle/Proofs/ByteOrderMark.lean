import Unbundle.Proofs.Conservation
import Unbundle.Proofs.LoaderBlock

/-!
# Byte order marks

The mark of a module is split off when it is read and put back when its parts are written. But a
text that begins with the character of the mark is, once it is written, a file that begins with the
mark. A split moves such a character to the front of a file if a callable begins with it, or if
nothing but callables, an old loader and blank rows stand before it. So the parts are marked like
the module, or begin with the character (`marks_follow`); without the character in the module the
marks are kept.
-/

namespace Unbundle

open Utf8 (byteOrderMark markChar)

/-- A text that begins with the character of the byte order mark. -/
def BeginsMarked (text : String) : Prop := text.toList.head? = some markChar

instance (text : String) : Decidable (BeginsMarked text) := inferInstanceAs (Decidable (_ = _))

/-- The file at a path begins with a byte order mark exactly if `condition` holds. -/
def MarkedIff (s : FileStore) (path : Path) (condition : Prop) : Prop :=
  ∃ content, s.read path.toString = .ok content ∧ (byteOrderMark <+: content ↔ condition)

/-- A file with one part of a module is marked like the module, or begins with the character. -/
theorem markedIff_of_read {s : FileStore} {path : Path} {raw : Bytes} {text part : String}
    {bom : Bool} (htext : Utf8.decodeFile raw = .ok (text, bom))
    (h : s.read path.toString = .ok (Utf8.encodeFile part bom)) :
    MarkedIff s path (byteOrderMark <+: raw ∨ BeginsMarked part) := by
  refine ⟨_, h, ?_⟩
  rw [Utf8.mark_encodeFile_iff, Utf8.mark_of_decodeFile htext]
  rfl

theorem MarkedIff.of_not {s : FileStore} {path : Path} {condition other : Prop}
    (h : MarkedIff s path (condition ∨ other)) (hother : ¬ other) : MarkedIff s path condition := by
  obtain ⟨content, hread, hiff⟩ := h
  exact ⟨content, hread, hiff.trans (or_iff_left hother)⟩

theorem not_beginsMarked {text : String} (h : markChar ∉ text.toList) : ¬ BeginsMarked text :=
  fun hhead => h (List.mem_of_head? hhead)

/-- A loader begins with the marker of its region. -/
theorem not_beginsMarked_loader {config : Config} {newline loader : String}
    (h : Split.loaderFor config newline = .ok loader) : ¬ BeginsMarked loader := by
  obtain ⟨privateDir, -, h⟩ := except_bind_ok h
  obtain ⟨publicDir, -, h⟩ := except_bind_ok h
  obtain rfl := Except.ok.inj h
  unfold BeginsMarked
  rw [Loader.render, String.toList_join, Loader.lines, List.map_cons, List.flatMap_cons,
    String.toList_append, String.toList_append, List.head?_append, List.head?_append,
    List.head?_append]
  intro hhead
  exact absurd (Option.some.inj (show some '#' = some markChar from hhead)) (by decide)

/-- What stands before the loader decides about the front of the module. -/
theorem beginsMarked_appendLoader {leftover newline loader : String}
    (hloader : ¬ BeginsMarked loader) :
    BeginsMarked (Assembly.appendLoader leftover newline loader) ↔ BeginsMarked leftover := by
  rw [appendLoader_eq]
  by_cases hempty : leftover = ""
  · -- the loader is the whole text then, and neither begins with the character
    rw [if_pos hempty, hempty]
    exact iff_of_false hloader (not_beginsMarked (by decide))
  · rw [if_neg hempty]
    obtain ⟨c, cs, hcs⟩ := List.exists_cons_of_ne_nil (mt String.toList_eq_nil_iff.mp hempty)
    unfold BeginsMarked
    rw [String.toList_append, String.toList_append, String.toList_append, hcs]
    exact Iff.rfl

/-- The new module is marked like the module, or what is left begins with the character. -/
theorem Split.Prepared.markedIff_module {trees : TreeSource} {config : Config} {s : FileStore}
    {path : Path} {job : Job} {g : Grounds} {raw : Bytes} {leftover : String}
    (hg : Prepared trees config s path job g) (htext : Utf8.decodeFile raw = .ok (g.text, job.bom))
    (hnew : job.text = Assembly.appendLoader leftover (newlineOf g.text) g.loader) {t : FileStore}
    (hread : t.read job.report.module.toString = .ok (Utf8.encodeFile job.text job.bom)) :
    MarkedIff t job.report.module (byteOrderMark <+: raw ∨ BeginsMarked leftover) := by
  have hmarked := markedIff_of_read htext hread
  rwa [hnew, beginsMarked_appendLoader (not_beginsMarked_loader hg.loader)] at hmarked

/-- Without the character of the mark in a text, neither what is left of it nor a callable begins
with it. -/
theorem Weave.parts_not_beginsMarked {w : Weave} {leftover : String} (h : markChar ∉ w.whole)
    (hwords : Text.words leftover.toList =
      Text.words (Loader.strip (String.ofList w.gaps)).1.toList) :
    ¬ BeginsMarked leftover ∧ ∀ c ∈ w.callables, ¬ BeginsMarked c.text := by
  refine ⟨not_beginsMarked ?_, fun c hc => not_beginsMarked fun hmem => ?_⟩
  · refine Text.not_mem_of_words_eq (by decide) hwords (Loader.not_mem_strip (by decide) ?_)
    rw [String.toList_ofList]
    exact fun hmem => h (w.gaps_subset hmem)
  · exact h (text_subset hc hmem)

/-- How the files that a split leaves are marked, for a module with the bytes `raw` and the given
text and tree. -/
structure MarksFollow (config : Config) (source : Path) (raw : Bytes) (text : String) (root : Node)
    (report : Report) (after : FileStore) : Prop where
  /-- The new module is a leftover of the gaps between the callables and a loader. -/
  module : ∃ (w : Weave) (leftover loader : String),
    w.callables.Perm (Callable.locate (Utf8.encode text) root) ∧ w.whole = text.toList ∧
    Text.words leftover.toList = Text.words (Loader.strip (String.ofList w.gaps)).1.toList ∧
    Split.loaderFor config (newlineOf text) = .ok loader ∧
    after.read source.toString = .ok (markedLike raw (Utf8.encode
      (Assembly.appendLoader leftover (newlineOf text) loader))) ∧
    MarkedIff after source (byteOrderMark <+: raw ∨ BeginsMarked leftover)
  files : ∀ o ∈ report.outcomes,
    MarkedIff after (o.path.getD {}) (byteOrderMark <+: raw ∨ BeginsMarked o.callable.text)
  /-- Without the character in the module, marks are kept. -/
  kept : markChar ∉ text.toList → MarkedIff after source (byteOrderMark <+: raw) ∧
    ∀ o ∈ report.outcomes, MarkedIff after (o.path.getD {}) (byteOrderMark <+: raw)

/-- **Byte order marks after a split.** Whatever trees the later parses give, the new module begins
with a byte order mark exactly if the module did or its leftover begins with the character of the
mark, and an extracted file exactly if the module did or its callable begins with it. If the module
does not hold the character, all of them are marked exactly if the module was. -/
theorem marks_follow {trees : TreeSource} {config : Config} {path source : Path} {s : FileStore}
    {raw : Bytes} {text : String} {bom : Bool} {root : Node} {report : Report}
    (hsource : ModuleFile.resolve s path = .ok source) (hraw : s.read source.toString = .ok raw)
    (htext : Utf8.decodeFile raw = .ok (text, bom)) (hroot : trees 0 text = some root)
    (haligned : Aligned text root) (hrun : (split trees config path s).result = .ok report)
    (hreplaced : report.replaced = true) :
    MarksFollow config source raw text root report (split trees config path s).store := by
  rcases Split.split_ok hrun with ⟨hnot, -⟩ | ⟨job, g, hg, hcommit, hstore⟩
  · exact nomatch hreplaced.symm.trans hnot
  · obtain ⟨rfl, rfl, rfl, rfl⟩ := hg.names hsource hraw htext hroot
    obtain ⟨l, hstat⟩ := FileStore.read_eq_ok_iff.mp hraw
    obtain ⟨hmodule, ⟨m, -, -, hplaces⟩, rfl⟩ := Split.commit_places hstat hg.skipFree hcommit
    obtain ⟨w, leftover, hperm, -, hwhole, -, hwords, hnew⟩ := hg.weave haligned
    have hread := FileStore.read_eq_ok_iff.mpr ⟨l, hmodule⟩
    have hleftover := hg.markedIff_module htext hnew hread
    have hfiles : ∀ o ∈ job.report.outcomes, MarkedIff (Split.commit job s).store (o.path.getD {})
        (byteOrderMark <+: raw ∨ BeginsMarked o.callable.text) := by
      intro o ho
      rw [hg.reportOutcomes] at ho
      obtain ⟨k, -, -, hfile⟩ := hplaces o ho
      exact markedIff_of_read htext (FileStore.read_eq_ok_iff.mpr ⟨k, hfile⟩)
    rw [hstore]
    refine ⟨⟨w, leftover, g.loader, hperm, hwhole, hwords, hg.loader, ?_, hleftover⟩, hfiles,
      fun hfree => ?_⟩
    · rw [hread, hnew, encodeFile_eq_markedLike htext]
    · -- the parts have no other characters than the text they are cut from
      rw [← hwhole] at hfree
      obtain ⟨hfront, hcallables⟩ := Weave.parts_not_beginsMarked hfree hwords
      refine ⟨hleftover.of_not hfront, fun o ho => (hfiles o ho).of_not ?_⟩
      have hcallable : o.callable ∈ g.callables := by
        rw [← hg.outcomes_callables, ← hg.reportOutcomes]
        exact List.mem_map_of_mem ho
      exact hcallables _ (hperm.mem_iff.mpr hcallable)

theorem marks_follow_sample :
    byteOrderMark <+: Sample.raw ∧
      ∃ report, (split Sample.trees {} Sample.path Sample.store).result = .ok report ∧
        MarkedIff (split Sample.trees {} Sample.path Sample.store).store Sample.path
          (byteOrderMark <+: Sample.raw) ∧
        ∀ o ∈ report.outcomes, MarkedIff (split Sample.trees {} Sample.path Sample.store).store
          (o.path.getD {}) (byteOrderMark <+: Sample.raw) := by
  have hany : (split Sample.trees {} Sample.path Sample.store).result.toOption.any (·.replaced) =
      true := by decide +kernel
  obtain ⟨report, hrun, hreplaced⟩ := exists_ok_of_any hany
  have hsource : ModuleFile.resolve Sample.store Sample.path = .ok Sample.path := by decide +kernel
  have htext : Utf8.decodeFile Sample.raw = .ok (Sample.text, true) := by decide +kernel
  have hfollow := marks_follow hsource (by decide +kernel) htext (congrArg some (if_pos rfl))
    aligned_sample hrun hreplaced
  exact ⟨List.prefix_append .., report, hrun, hfollow.kept (by decide)⟩

/-! ## A mark that comes to the front

A function, and after it a line that begins with the character of the mark. -/

namespace Inner

def text : String := "function A \x7b\x7d\n\uFEFF$x = 1\n"

def root : Node :=
  .mk { kind := "program", start := 0, stop := 24, named := true } [
    .mk { kind := "statement_list", start := 0, stop := 23, named := true } [
      .mk { kind := "function_statement", start := 0, stop := 13, named := true } [
        .mk { kind := "function", start := 0, stop := 8 } [],
        .mk { kind := "function_name", start := 9, stop := 10, named := true } [],
        .mk { kind := "\x7b", start := 11, stop := 12 } [],
        .mk { kind := "\x7d", start := 12, stop := 13 } []]]]

/-- The tree of what is left. -/
def rest : Node := .mk { kind := "program", start := 0, stop := 11, named := true } []

def parser : Nat → String → Node := fun _ given => if given = text then root else rest

def store : FileStore := { entries := [(["M.psm1"], .file (Utf8.encode text))] }

theorem spans_locate :
    (Callable.locate (Utf8.encode text) root).map (fun c => Span.mk c.start c.stop) =
      [⟨0, 13⟩] := by
  decide +kernel

theorem aligned : Aligned text root := by
  intro c hc
  have hmem : Span.mk c.start c.stop ∈ [Span.mk 0 13] := by
    rw [← spans_locate]
    exact List.mem_map_of_mem hc
  obtain ⟨hstart, hstop⟩ := Span.mk.inj (List.mem_singleton.mp hmem)
  rw [hstart, hstop]
  exact ⟨⟨[], text.toList, rfl, rfl⟩,
    ⟨"function A \x7b\x7d".toList, "\n\uFEFF$x = 1\n".toList, by decide +kernel, by decide +kernel⟩⟩

theorem withoutCallables_eq {a : Assembly}
    (h : a.removed.Perm (Callable.locate (Utf8.encode text) root)) :
    a.withoutCallables text = .ok "\n\uFEFF$x = 1\n" := by
  have hspans : a.spans = [⟨0, 13⟩] := by
    rw [← List.perm_singleton, ← spans_locate]
    exact h.map _
  unfold Assembly.withoutCallables
  rw [hspans]
  decide +kernel

/-- The function goes, and the empty row that it leaves. -/
theorem text_eq {s : FileStore} {job : Job} {g : Split.Grounds}
    (hg : Split.Prepared (.always parser) {} s Sample.path job g) (htext : g.text = text)
    (hroot : g.root = root) :
    job.text = Assembly.appendLoader "\uFEFF$x = 1" (newlineOf g.text) g.loader := by
  obtain ⟨hloader, -, hperm⟩ := Assembly.ofPlan_ok hg.assembly
  rw [hg.outcomes_callables, Split.Grounds.callables, htext, hroot] at hperm
  obtain ⟨lines, happly⟩ := Assembly.apply_of_removed parser (withoutCallables_eq hperm)
  have hresult := hg.applied
  rw [htext, happly] at hresult
  have hleftover : BlankRows.collapse (Loader.strip "\n\uFEFF$x = 1\n").1
      (Node.stringRows (Utf8.encode (Loader.strip "\n\uFEFF$x = 1\n").1)
        (parser 1 (Loader.strip "\n\uFEFF$x = 1\n").1)) = "\uFEFF$x = 1" := by decide +kernel
  rw [hg.text, htext, ← hloader, ← Except.ok.inj hresult, hleftover]

end Inner

/-- The module has no mark, and with the function before it gone the new module begins with one. -/
theorem mark_comes_to_front :
    Inner.store.read Sample.path.toString = .ok (Utf8.encode Inner.text) ∧
      ¬ byteOrderMark <+: Utf8.encode Inner.text ∧ Aligned Inner.text Inner.root ∧
      ∃ report content,
        (split (.always Inner.parser) {} Sample.path Inner.store).result = .ok report ∧
        report.replaced = true ∧
        (split (.always Inner.parser) {} Sample.path Inner.store).store.read Sample.path.toString =
          .ok content ∧ byteOrderMark <+: content := by
  have hraw : Inner.store.read Sample.path.toString = .ok (Utf8.encode Inner.text) := by
    decide +kernel
  refine ⟨hraw, by decide +kernel, Inner.aligned, ?_⟩
  have hany : (split (.always Inner.parser) {} Sample.path
      Inner.store).result.toOption.any (·.replaced) = true := by decide +kernel
  obtain ⟨report, hrun, hreplaced⟩ := exists_ok_of_any hany
  rcases Split.split_ok hrun with ⟨hnot, -⟩ | ⟨job, g, hg, hcommit, hstore⟩
  · exact nomatch hreplaced.symm.trans hnot
  · have hsource : ModuleFile.resolve Inner.store Sample.path = .ok Sample.path := by
      decide +kernel
    have htext : Utf8.decodeFile (Utf8.encode Inner.text) = .ok (Inner.text, false) := by
      decide +kernel
    obtain ⟨hmodule, hbom, hgiven, hroot⟩ := hg.names hsource hraw htext
      (congrArg some (if_pos rfl))
    -- the loader is long: the front of the new text is found without evaluating the rest
    obtain ⟨l, hstat⟩ := FileStore.read_eq_ok_iff.mp hraw
    obtain ⟨hplace, -, -⟩ := Split.commit_places (hmodule ▸ hstat) hg.skipFree hcommit
    have hdecoded : Utf8.decodeFile (Utf8.encode Inner.text) = .ok (g.text, job.bom) := by
      rw [hgiven, hbom, htext]
    obtain ⟨content, hread, hiff⟩ := hg.markedIff_module hdecoded (Inner.text_eq hg hgiven hroot)
      (FileStore.read_eq_ok_iff.mpr ⟨l, hplace⟩)
    refine ⟨report, content, hrun, hreplaced, ?_, hiff.mpr (Or.inr (by decide))⟩
    rw [hstore, ← hmodule]
    exact hread

end Unbundle
