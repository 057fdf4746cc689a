import Unbundle.Proofs.DirectiveSearch
import Unbundle.Proofs.Positions
import Unbundle.Proofs.Rerun

/-!
# The lines that are warned of

Directives are looked for in what is left of a module, and their lines are told of the module that
is put together from it. The two agree, because nothing comes before the leftover and the loader
begins on a line of its own. The line of a directive is that of the first byte of its node
(`Directive.exists_place`). If the node has no line feed, the name of the directive stands on this
line, and the same line of the new module has it, too (`Directive.onLine`). There is one line for
each outermost name of a command that is the directive, in document order (`Directive.linesIn_eq`),
and one warning for each line (`directive_lines_told`). Blanks around a name do not count
(`blank_behind_name_told`).
-/

namespace Unbundle

open Utf8 (encode encodeChars)
open Loader (LineEnding)

/-- The bytes of a node follow those before its start. -/
theorem Node.take_append_bytes (source : Bytes) {node : Node}
    (h : node.info.start ≤ node.info.stop) :
    source.take node.info.start ++ node.bytes source ++ source.drop node.info.stop = source := by
  have htake := List.take_append_drop node.info.start (source.take node.info.stop)
  rw [List.take_take, Nat.min_eq_left h] at htake
  rw [Node.bytes, htake, List.take_append_drop]

namespace Directive

/-- Whether what follows the last backslash of a name is the command, in any case. -/
def Names (name : List Char) : Prop :=
  Text.lowerChars (Text.afterLast '\\' name) = command.toList

instance {name : List Char} : Decidable (Names name) := inferInstanceAs (Decidable (_ = _))

/-- The node `n` at `p` is the name of a command and nothing above it is, and the name, blanks
around it apart, is that of the directive. -/
def StandsAt (source : Bytes) (root : Node) (p : Position) (n : Node) : Prop :=
  n.info.kind = commandKind ∧ (∀ q m, root.Above p q m → m.info.kind ≠ commandKind) ∧
    Names (Text.trim (n.text source).toList)

/-- No name of a command in a tree goes over the end of a line. -/
def OnOneLine (source : Bytes) (root : Node) : Prop :=
  root.Throughout fun n => n.info.kind = commandKind → '\n' ∉ (n.text source).toList

instance {source : Bytes} {root : Node} : Decidable (OnOneLine source root) :=
  inferInstanceAs (Decidable (root.Throughout _))

/-- The line `n` of `before ++ after`, counted from one, ends in `before` and has the name of the
directive, in any case. -/
structure OnLine (before after : List Char) (n : Nat) : Prop where
  pos : 1 ≤ n
  within : n ≤ before.count '\n'
  named : ∃ row, (Text.rows (before ++ after))[n - 1]? = some row ∧
    Text.contains command.toList (Text.lowerChars row) = true

/-! ## Nodes -/

theorem isDirective_iff {name : String} :
    isDirective name = true ↔ Names (Text.trim name.toList) := beq_iff_eq

theorem visit_eq_take_iff {info : NodeInfo} : visit info = .take ↔ info.kind = commandKind := by
  unfold visit
  by_cases hkind : info.kind = commandKind
  · simp [hkind]
  · simp [hkind]

theorem visit_eq_enter_iff {info : NodeInfo} : visit info = .enter ↔ info.kind ≠ commandKind := by
  unfold visit
  by_cases hkind : info.kind = commandKind
  · simp [hkind]
  · simp [hkind]

/-- **The lines of a tree** are those of the outermost names of commands that are the directive. -/
theorem linesIn_eq (source : Bytes) (root : Node) :
    ∃ sites, root.InPreorder (StandsAt source root) sites ∧
      linesIn source root = sites.map fun s => s.2.startRow source + 1 := by
  have hsites := (root.inPreorder_taken visit).filter fun s => isDirective (s.2.text source)
  refine ⟨_, hsites.congr fun p n _ => ?_, ?_⟩
  · simp only [Node.Takes, StandsAt, visit_eq_take_iff, visit_eq_enter_iff, isDirective_iff,
      and_assoc]
  · rw [linesIn, ← Node.map_taken, List.filter_map, List.map_map]
    rfl

/-! ## Lines -/

theorem command_ne_nil : command.toList ≠ [] := by decide

theorem feed_not_mem_word {word : List Char} (h : word.map Text.lowerChar = command.toList) :
    '\n' ∉ word := by
  intro hfeed
  have hmem := List.mem_map_of_mem (f := Text.lowerChar) hfeed
  rw [h] at hmem
  exact absurd hmem (by decide)

/-- A directive whose node has no line feed stands in its text as a word of ASCII, behind as many
line feeds as its node. -/
theorem exists_place {text : String} {node : Node}
    (hdirective : isDirective (node.text (encode text)) = true)
    (hline : '\n' ∉ (node.text (encode text)).toList) :
    ∃ front word back, text.toList = front ++ word ++ back ∧
      front.count '\n' = node.startRow (encode text) ∧ (∀ c ∈ word, c.toNat < 0x80) ∧
      word.map Text.lowerChar = command.toList := by
  obtain ⟨word, hword, hascii, hlower⟩ := exists_word_of_isDirective hdirective
  have hne : word ≠ [] := by
    intro hnil
    rw [hnil] at hlower
    exact command_ne_nil hlower.symm
  -- the node may begin inside a character, so the word is looked for in its bytes
  obtain ⟨before, behind, hbytes⟩ := Utf8.infix_of_decodeLossy hascii hword
  have hfeed : 0x0a ∉ before := by
    intro hmem
    refine Utf8.feed_not_mem_of_decodeLossy hline ?_
    rw [← hbytes, List.append_assoc]
    exact List.mem_append_left _ hmem
  have hforward : node.info.start ≤ node.info.stop := by
    have hlength := congrArg List.length hbytes
    have hpos := Utf8.encodeChars_length_pos hne
    rw [Node.bytes, List.length_drop, List.length_take, List.length_append,
      List.length_append] at hlength
    omega
  have hcut : encode text = ((encode text).take node.info.start ++ before) ++
      encodeChars word ++ (behind ++ (encode text).drop node.info.stop) := by
    have hsource := Node.take_append_bytes (encode text) hforward
    rw [← hbytes] at hsource
    simpa only [List.append_assoc] using hsource.symm
  obtain ⟨front, back, htext, hfront⟩ := Utf8.exists_cut_ascii hascii hne hcut
  refine ⟨front, word, back, htext, ?_, hascii, hlower⟩
  rw [← Utf8.count_feed_encodeChars, hfront, List.count_append, List.count_eq_zero.mpr hfeed]
  rfl

/-- **The line that is told holds the directive**, if at least one more line end follows the
text. -/
theorem onLine {text : String} {node : Node}
    (hdirective : isDirective (node.text (encode text)) = true)
    (hline : '\n' ∉ (node.text (encode text)).toList) {between : List Char} (hend : '\n' ∈ between)
    (after : List Char) :
    OnLine (text.toList ++ between) after (node.startRow (encode text) + 1) := by
  obtain ⟨front, word, back, htext, hcount, hascii, hlower⟩ := exists_place hdirective hline
  refine ⟨Nat.le_add_left .., ?_, ?_⟩
  · have hpos := List.count_pos_iff.mpr hend
    rw [htext, List.count_append, List.count_append, List.count_append, hcount]
    omega
  · obtain ⟨row, hrow, left, right, hpart⟩ :=
      Text.exists_row_of_part front (back ++ between ++ after) (feed_not_mem_word hlower)
    refine ⟨row, ?_, ?_⟩
    · rw [htext, Nat.add_sub_cancel, ← hcount, ← hrow]
      simp only [List.append_assoc]
    · have hlowered := Text.map_lowerChar_infix hascii [] left right
      rw [hpart, hlower] at hlowered
      exact Text.contains_of_infix hlowered

/-- A text with a directive is not empty. -/
theorem text_ne_empty {text : String} {node : Node}
    (hdirective : isDirective (node.text (encode text)) = true)
    (hline : '\n' ∉ (node.text (encode text)).toList) : text ≠ "" := by
  intro hempty
  obtain ⟨front, word, back, htext, -, -, hlower⟩ := exists_place hdirective hline
  rw [hempty] at htext
  obtain ⟨hparts, -⟩ := List.append_eq_nil_iff.mp htext.symm
  obtain ⟨-, hword⟩ := List.append_eq_nil_iff.mp hparts
  rw [hword] at hlower
  exact command_ne_nil hlower.symm

end Directive

/-! ## Assemblies -/

namespace Assembly

variable {a : Assembly} {trees : TreeSource} {text : String} {result : Result}

/-- What is left of a module before the loader is appended. -/
def leftover (a : Assembly) (trees : TreeSource) (text : String) : Except Error String := do
  let remaining ← a.withoutCallables text
  let guarded ← stringRows trees 1 (Loader.strip remaining).1
  return BlankRows.collapse (Loader.strip remaining).1 guarded

/-- What comes of putting a module together, if each step comes to something. -/
theorem apply_eq {remaining : String} {guarded lines : List Nat}
    (hremaining : a.withoutCallables text = .ok remaining)
    (hguarded : stringRows trees 1 (Loader.strip remaining).1 = .ok guarded)
    (hlines : directiveLines trees 2
      (BlankRows.collapse (Loader.strip remaining).1 guarded) = .ok lines) :
    a.apply trees text =
      ⟨(if (Loader.strip remaining).2 then [.replacingLoader] else []) ++ lines.map .exportLeft,
        .ok ⟨appendLoader (BlankRows.collapse (Loader.strip remaining).1 guarded) (newlineOf text)
          a.loader, lines, (Loader.strip remaining).2⟩⟩ := by
  simp only [apply, hremaining, Bind.bind, Attempt.bind, Attempt.ofExcept, Attempt.tellAll,
    hguarded, hlines, Pure.pure, List.nil_append, List.append_nil]

/-- A module that was put together: what was left of it, which was searched for directives, and what
was told. -/
theorem apply_told (h : (a.apply trees text).result = .ok result) :
    ∃ left, a.leftover trees text = .ok left ∧
      directiveLines trees 2 left = .ok result.directiveLines ∧
      result.text = appendLoader left (newlineOf text) a.loader ∧
      (a.apply trees text).notices =
        (if result.replacedLoader then [.replacingLoader] else []) ++
          result.directiveLines.map .exportLeft := by
  have hsteps := h
  obtain ⟨remaining, hremaining, hsteps⟩ := Attempt.bind_ok hsteps
  simp only [Attempt.tellAll_bind_result] at hsteps
  obtain ⟨guarded, hguarded, hsteps⟩ := Attempt.bind_ok hsteps
  obtain ⟨lines, hlines, -⟩ := Attempt.bind_ok hsteps
  simp only [Attempt.ofExcept_result] at hremaining hguarded hlines
  have happly := apply_eq hremaining hguarded hlines
  rw [happly] at h
  obtain rfl := Except.ok.inj h
  refine ⟨BlankRows.collapse (Loader.strip remaining).1 guarded, ?_, hlines, ?_, ?_⟩
  · rw [leftover, hremaining, except_ok_bind, hguarded, except_ok_bind]
    rfl
  · dsimp only
  · rw [happly]

/-- The lines that are found in what is left of a module are those of its tree. -/
theorem directiveLines_ok {k : Nat} {left : String} {lines : List Nat}
    (h : directiveLines trees k left = .ok lines) :
    (∀ tree, trees k left = some tree → lines = Directive.linesIn (encode left) tree) ∧
      (trees k left = none → lines = []) := by
  unfold directiveLines at h
  cases hmentioned : Directive.mentioned left with
  | true =>
    rw [if_pos hmentioned, TreeSource.parse] at h
    cases htree : trees k left with
    | none =>
      rw [htree] at h
      cases h
    | some tree =>
      rw [htree] at h
      obtain rfl := Except.ok.inj h
      refine ⟨fun tree' htree' => ?_, fun hnone => ?_⟩
      · rw [Option.some.inj htree']
      · cases hnone
  | false =>
    rw [if_neg (by rw [hmentioned]; exact Bool.false_ne_true)] at h
    obtain rfl := Except.ok.inj h
    exact ⟨fun tree _ => (Directive.linesIn_of_not_mentioned hmentioned tree).symm, fun _ => rfl⟩

/-- The lines of the leftover are lines of the module, before its loader. -/
theorem onLine_beforeLoader {left newline : String} (hnewline : LineEnding newline) {root : Node}
    (hnames : Directive.OnOneLine (encode left) root) (loader : List Char) {n : Nat}
    (hn : n ∈ Directive.linesIn (encode left) root) :
    Directive.OnLine (beforeLoader left newline).toList loader n := by
  obtain ⟨sites, hsites, hlines⟩ := Directive.linesIn_eq (encode left) root
  rw [hlines] at hn
  obtain ⟨⟨p, node⟩, hmem, rfl⟩ := List.mem_map.mp hn
  obtain ⟨hat, hkind, -, hdirective⟩ := (hsites.complete p node).mp hmem
  have hdirective := Directive.isDirective_iff.mpr hdirective
  have hline := hnames p node hat hkind
  rw [beforeLoader, if_neg (Directive.text_ne_empty hdirective hline), String.append_assoc,
    String.toList_append]
  refine Directive.onLine hdirective hline ?_ loader
  rw [String.toList_append]
  refine List.mem_append_left _ ?_
  obtain rfl | rfl := hnewline
  · decide
  · decide

end Assembly

/-- **The lines that are warned of** are lines of the new module. If no name of a command in the
last tree goes over the end of a line, each of them comes before the loader and has the name of the
directive. There is one for each outermost name of a command that is the directive, blanks around it
apart, and one warning for each of them, in this order. -/
theorem directive_lines_told {a : Assembly} {trees : TreeSource} {text left : String}
    {result : Assembly.Result} (hresult : (a.apply trees text).result = .ok result)
    (hleft : a.leftover trees text = .ok left)
    (hnames : ∀ tree, trees 2 left = some tree → Directive.OnOneLine (encode left) tree) :
    (∃ before, result.text.toList = before ++ a.loader.toList ∧
      ∀ n ∈ result.directiveLines, Directive.OnLine before a.loader.toList n) ∧
    (∀ tree, trees 2 left = some tree →
      ∃ sites, tree.InPreorder (Directive.StandsAt (encode left) tree) sites ∧
        result.directiveLines = sites.map fun s => s.2.startRow (encode left) + 1) ∧
    (trees 2 left = none → result.directiveLines = []) ∧
    result.warnings = result.directiveLines.map exportLeftMessage ∧
    (a.apply trees text).notices =
      (if result.replacedLoader then [.replacingLoader] else []) ++
        result.directiveLines.map .exportLeft := by
  obtain ⟨left', hleft', hlines, htext, hnotices⟩ := Assembly.apply_told hresult
  obtain rfl := Except.ok.inj (hleft.symm.trans hleft')
  obtain ⟨hsome, hnone⟩ := Assembly.directiveLines_ok hlines
  refine ⟨⟨(Assembly.beforeLoader left (newlineOf text)).toList, ?_, ?_⟩, ?_, hnone, rfl, hnotices⟩
  · rw [htext, Assembly.appendLoader_eq_append, String.toList_append]
  · intro n hn
    cases htree : trees 2 left with
    | none =>
      rw [hnone htree] at hn
      exact absurd hn List.not_mem_nil
    | some tree =>
      rw [hsome tree htree] at hn
      exact Assembly.onLine_beforeLoader (lineEnding_newlineOf text) (hnames tree htree) _ hn
  · intro tree htree
    rw [hsome tree htree]
    exact Directive.linesIn_eq (encode left) tree

namespace Directive

/-- What is left of `sampleText`. -/
def sampleLeft : String :=
  "Core\\export-modulemember A\nif ($x) \x7b\n  Export-ModuleMember B\n\x7d"

def sampleText : String := "function A \x7b\x7d\n" ++ sampleLeft ++ "\n"

/-- The callable goes, and the loader has a directive of its own. -/
def sample : Assembly :=
  ⟨[{ name := "A", text := "function A \x7b\x7d", start := 0, stop := 13 }],
    "Export-ModuleMember C\n"⟩

def sampleTree : Node :=
  .mk { kind := "program", start := 0, stop := 60, named := true } [
    .mk { kind := "command_name", start := 0, stop := 24, named := true } [],
    .mk { kind := "if_statement", start := 27, stop := 60, named := true } [
      .mk { kind := "command_name", start := 39, stop := 58, named := true } []]]

def sampleTrees : TreeSource := .always fun _ _ => sampleTree

end Directive

/-- Two directives, one of them with the name of its module, are told on lines that they did not
stand on before the callable went. The directive of the loader is not told. -/
theorem directive_lines_told_sample :
    (∃ before, before ++ "Export-ModuleMember C\n".toList =
        (Directive.sampleLeft ++ "\n\nExport-ModuleMember C\n").toList ∧
      ∀ n ∈ [1, 3], Directive.OnLine before "Export-ModuleMember C\n".toList n) ∧
    (Directive.sample.apply Directive.sampleTrees Directive.sampleText).notices =
      [.exportLeft 1, .exportLeft 3] := by
  have hresult : (Directive.sample.apply Directive.sampleTrees Directive.sampleText).result =
      .ok ⟨Directive.sampleLeft ++ "\n\nExport-ModuleMember C\n", [1, 3], false⟩ :=
    eq_ok_of_toOption (by decide +kernel)
  have hleft : Directive.sample.leftover Directive.sampleTrees Directive.sampleText =
      .ok Directive.sampleLeft := eq_ok_of_toOption (by decide +kernel)
  have hnames : Directive.OnOneLine (encode Directive.sampleLeft) Directive.sampleTree := by
    decide +kernel
  obtain ⟨⟨before, htext, hlines⟩, -, -, -, hnotices⟩ := directive_lines_told hresult hleft
    fun tree htree => Option.some.inj htree ▸ hnames
  exact ⟨⟨before, htext.symm, hlines⟩, hnotices⟩

namespace Directive

/-- A tree whose name of a command has the blank behind it. -/
def blankTree : Node :=
  .mk { kind := "program", start := 0, stop := 21, named := true } [
    .mk { kind := "command_name", start := 0, stop := 20, named := true } []]

end Directive

/-- **A blank behind a name does not count.** The name of a command here begins and ends between
characters, does not begin with a blank and has no line feed. It is not the directive as it stands,
and it is told. -/
theorem blank_behind_name_told :
    (∃ result, (Assembly.apply ⟨[], "\n"⟩ (.always fun _ _ => Directive.blankTree)
        "Export-ModuleMember A").result = .ok result ∧ result.directiveLines = [1]) ∧
    Assembly.leftover ⟨[], "\n"⟩ (.always fun _ _ => Directive.blankTree)
      "Export-ModuleMember A" = .ok "Export-ModuleMember A" ∧
    (Directive.blankTree.Throughout fun n => n.info.kind = Directive.commandKind →
      Utf8.IsBoundary "Export-ModuleMember A".toList n.info.start ∧
      Utf8.IsBoundary "Export-ModuleMember A".toList n.info.stop ∧
      (n.text (encode "Export-ModuleMember A")).toList.head?.any Text.isBlank = false ∧
      '\n' ∉ (n.text (encode "Export-ModuleMember A")).toList) ∧
    ¬ Directive.blankTree.Somewhere fun n => n.info.kind = Directive.commandKind ∧
      Directive.Names (n.text (encode "Export-ModuleMember A")).toList := by
  refine ⟨⟨⟨"Export-ModuleMember A\n\n\n", [1], false⟩, ?_, rfl⟩, ?_, ?_, ?_⟩
  · exact eq_ok_of_toOption (by decide +kernel)
  · exact eq_ok_of_toOption (by decide +kernel)
  · decide +kernel
  · decide +kernel

end Unbundle
