import Unbundle.Assembly
import Unbundle.Proofs.Lowercase
import Unbundle.Proofs.Words

/-!
# A text that mentions no directive has none

Directives are looked for in the tree of a text only if the text mentions the command, in any case.
Nothing is missed by that (`directive_shortcut_agrees`), whatever the tree is and even if its nodes
cut characters. The name of a directive has its lower case in ASCII and without a `k`, so it is in
ASCII itself. It is part of what is read leniently from some bytes of the text, and so its
characters are part of the text; and their lower case does not depend on where they stand.
-/

namespace Unbundle

/-! ## Parts of a text -/

namespace Text

theorem trim_infix (cs : List Char) : trim cs <:+: cs := by
  obtain ⟨blanks, hblanks, -⟩ := trimEnd_append_blanks (trimStart cs)
  have hend : trim cs <+: trimStart cs := ⟨blanks, hblanks.symm⟩
  exact hend.isInfix.trans (List.dropWhile_suffix _).isInfix

theorem afterLast_suffix (sep : Char) (cs : List Char) : afterLast sep cs <:+ cs := by
  have h := List.reverse_suffix.mpr (List.takeWhile_prefix (p := (· != sep)) (l := cs.reverse))
  rwa [List.reverse_reverse] at h

theorem contains_of_infix {needle cs : List Char} (h : needle <:+: cs) :
    contains needle cs = true := by
  obtain ⟨front, behind, rfl⟩ := h
  exact contains_append needle front behind

end Text

theorem Node.bytes_infix (source : Bytes) (node : Node) : node.bytes source <:+: source :=
  (List.drop_suffix ..).isInfix.trans (List.take_prefix ..).isInfix

/-! ## Directives -/

namespace Directive

theorem ascii_of_mem_command {d : Char} (h : d ∈ command.toList) : d.toNat < 0x80 ∧ d ≠ 'k' := by
  have hall : (command.toList.all fun d => decide (d.toNat < 0x80 ∧ d ≠ 'k')) = true := by decide
  exact of_decide_eq_true (List.all_eq_true.mp hall d h)

/-- A name that is the directive ends in a word of ASCII whose lower case is the command. -/
theorem exists_word_of_isDirective {name : String} (h : isDirective name = true) :
    ∃ word, word <:+: name.toList ∧ (∀ c ∈ word, c.toNat < 0x80) ∧
      word.map Text.lowerChar = command.toList := by
  have hlower := eq_of_beq h
  have hascii := Text.ascii_of_lowerFrom (hlower.symm ▸ fun _ => ascii_of_mem_command)
  refine ⟨_, (Text.afterLast_suffix ..).isInfix.trans (Text.trim_infix _), hascii, ?_⟩
  have hmap := Text.lowerFrom_append_ascii hascii [] []
  rw [List.append_nil, Text.lowerFrom, List.append_nil] at hmap
  exact hmap.symm.trans hlower

/-- **A directive is mentioned**, wherever its node starts and ends. -/
theorem mentioned_of_isDirective {text : String} {node : Node}
    (h : isDirective (node.text (Utf8.encode text)) = true) : mentioned text = true := by
  obtain ⟨word, hword, hascii, hlower⟩ := exists_word_of_isDirective h
  have hbytes : Utf8.encodeChars word <:+: Utf8.encode text :=
    (Utf8.infix_of_decodeLossy hascii hword).trans (node.bytes_infix _)
  obtain ⟨front, back, htext⟩ := Utf8.infix_of_encodeChars hascii hbytes
  have hmentioned := Text.map_lowerChar_infix hascii [] front back
  rw [htext, hlower] at hmentioned
  exact Text.contains_of_infix hmentioned

theorem linesIn_of_not_mentioned {text : String} (h : mentioned text = false) (root : Node) :
    linesIn (Utf8.encode text) root = [] := by
  have hnone : ∀ node ∈ root.gather visit, ¬ isDirective (node.text (Utf8.encode text)) = true := by
    intro node _ hdirective
    exact Bool.false_ne_true (h.symm.trans (mentioned_of_isDirective hdirective))
  rw [linesIn, List.filter_eq_nil_iff.mpr hnone]
  rfl

end Directive

/-- **Looking at the text is enough.** If the lower case of a text does not have the command, then a
search of any tree finds no directive in the text. So the lines that are found are those of the
tree, whether it was searched or not. -/
theorem directive_shortcut_agrees (text : String) (root : Node) :
    (Directive.mentioned text = false → Directive.linesIn (Utf8.encode text) root = []) ∧
    ∀ (source : TreeSource) (k : Nat), source k text = some root →
      directiveLines source k text = .ok (Directive.linesIn (Utf8.encode text) root) := by
  refine ⟨fun h => Directive.linesIn_of_not_mentioned h root, fun source k hroot => ?_⟩
  rw [directiveLines]
  cases hmentioned : Directive.mentioned text with
  | true =>
    rw [if_pos rfl, TreeSource.parse, hroot]
    rfl
  | false => rw [if_neg Bool.false_ne_true, Directive.linesIn_of_not_mentioned hmentioned]

/-- A name of a command that begins inside a character: the rest of it is not the directive. -/
theorem directive_shortcut_agrees_cut :
    Directive.mentioned "Éxport-ModuleMember" = false ∧
    Directive.linesIn (Utf8.encode "Éxport-ModuleMember")
      (.mk { kind := "command_name", start := 1, stop := 20, named := true } []) = [] := by
  have hmentioned : Directive.mentioned "Éxport-ModuleMember" = false := by decide +kernel
  exact ⟨hmentioned, (directive_shortcut_agrees _ _).1 hmentioned⟩

end Unbundle
