import Mathlib.Data.List.Basic
import Unbundle.Loader

/-!
# Names are read back from a loader

A name stands in a loader as a literal in single quotes. Whoever reads the literal goes on to the
first quote that is not one of a pair, and that is the quote the literal was closed with, whatever
quotes the name has: reading gives back the name and stops right behind its literal
(`readLiteral_eq_some_iff`).

Around its literals a loader is always the same text, and none of them is followed by a quote
(`form`, `render_toList_eq_fill`). So the literals are found one after the other
(`Form.readParts_eq_some_iff`), each in its place, and the names can be told from the loader
(`names_read_back`).
-/

namespace Unbundle.Loader

/-! ## Reading a literal -/

/-- Reads on inside a literal. Two quotes stand for one, and the first quote that is not one of a
pair closes the literal. Gives what the literal stands for and what follows it. -/
def readOn : List Char → Option (List Char × List Char)
  | [] => none
  | '\'' :: '\'' :: rest => (readOn rest).map fun read => ('\'' :: read.1, read.2)
  | '\'' :: rest => some ([], rest)
  | c :: rest => (readOn rest).map fun read => (c :: read.1, read.2)

/-- Reads a literal in single quotes at the front of a text. -/
def readLiteral : List Char → Option (String × List Char)
  | '\'' :: rest => (readOn rest).map fun read => (String.ofList read.1, read.2)
  | _ => none

/-- A text with its quotes written twice. -/
def doubled (cs : List Char) : List Char := Text.substitute '\'' ['\'', '\''] cs

theorem doubled_quote (cs : List Char) : doubled ('\'' :: cs) = '\'' :: '\'' :: doubled cs := rfl

theorem doubled_cons {c : Char} (hc : c ≠ '\'') (cs : List Char) :
    doubled (c :: cs) = c :: doubled cs := by
  rw [doubled, Text.substitute, List.flatMap_cons, if_neg (by simp [hc])]
  rfl

theorem literal_toList (value : String) :
    (literal value).toList = '\'' :: (doubled value.toList ++ ['\'']) := by
  rw [literal, String.toList_ofList, List.cons_append, doubled]

theorem readOn_closing {rest : List Char} (h : rest.head? ≠ some '\'') :
    readOn ('\'' :: rest) = some ([], rest) := by
  rw [readOn]
  intro behind hquote
  rw [hquote] at h
  exact h rfl

theorem readOn_cons {c : Char} (hc : c ≠ '\'') (rest : List Char) :
    readOn (c :: rest) = (readOn rest).map fun read => (c :: read.1, read.2) := by
  rw [readOn]
  · intro _ hquote
    exact absurd hquote hc
  · exact hc

/-- No quote of the value is taken for the one that closes the literal: each is met with its
double. -/
theorem readOn_doubled (value : List Char) {rest : List Char} (h : rest.head? ≠ some '\'') :
    readOn (doubled value ++ '\'' :: rest) = some (value, rest) := by
  induction value with
  | nil => exact readOn_closing h
  | cons c value ih =>
    by_cases hc : c = '\''
    · rw [hc, doubled_quote, List.cons_append, List.cons_append, readOn, ih]
      rfl
    · rw [doubled_cons hc, List.cons_append, readOn_cons hc, ih]
      rfl

/-- What is read was written with its quotes doubled. -/
theorem eq_of_readOn {text value rest : List Char} (h : readOn text = some (value, rest)) :
    text = doubled value ++ '\'' :: rest ∧ rest.head? ≠ some '\'' := by
  fun_induction readOn text generalizing value with
  | case1 => cases h
  | case2 behind ih =>
    obtain ⟨read, hread, heq⟩ := Option.map_eq_some_iff.mp h
    obtain ⟨rfl, rfl⟩ := Prod.mk.inj heq
    obtain ⟨hbehind, hrest⟩ := ih hread
    exact ⟨by rw [hbehind, doubled_quote]; rfl, hrest⟩
  | case3 behind hpair =>
    cases h
    -- a quote right behind the closing one would have made a pair with it
    refine ⟨rfl, fun hquote => ?_⟩
    obtain ⟨rest', rfl⟩ := List.head?_eq_some_iff.mp hquote
    exact hpair rest' rfl
  | case4 c behind _ hc ih =>
    obtain ⟨read, hread, heq⟩ := Option.map_eq_some_iff.mp h
    obtain ⟨rfl, rfl⟩ := Prod.mk.inj heq
    obtain ⟨hbehind, hrest⟩ := ih hread
    exact ⟨by rw [hbehind, doubled_cons hc]; rfl, hrest⟩

/-- Reading a literal undoes writing one, and accepts nothing else. -/
theorem readLiteral_eq_some_iff {text rest : List Char} {value : String} :
    readLiteral text = some (value, rest) ↔
      text = (literal value).toList ++ rest ∧ rest.head? ≠ some '\'' := by
  rw [literal_toList]
  constructor
  · intro h
    unfold readLiteral at h
    split at h
    next behind =>
      obtain ⟨read, hread, heq⟩ := Option.map_eq_some_iff.mp h
      obtain ⟨rfl, rfl⟩ := Prod.mk.inj heq
      obtain ⟨hbehind, hrest⟩ := eq_of_readOn hread
      refine ⟨?_, hrest⟩
      rw [String.toList_ofList, hbehind, List.cons_append, List.append_assoc, List.singleton_append]
    next => cases h
  · intro h
    obtain ⟨htext, hrest⟩ := h
    rw [htext, List.cons_append, List.append_assoc, List.singleton_append, readLiteral,
      readOn_doubled _ hrest, Option.map_some, String.ofList_toList]

example : readLiteral "'''a''''') -Filter '*'".toList = some ("'a''", ") -Filter '*'".toList) := by
  decide

/-! ## Texts with literals in them -/

/-- What may follow a literal: text that goes on with something else than a quote, which would be
read as the second of a pair. -/
structure Part where
  text : String
  apart : text.toList.head?.any (· != '\'') = true

theorem Part.head_append (part : Part) (rest : List Char) :
    (part.text.toList ++ rest).head? ≠ some '\'' := by
  have hapart := part.apart
  cases htext : part.text.toList with
  | nil => simp [htext] at hapart
  | cons c cs => simpa [htext] using hapart

/-- A text with places for literals: what stands before the first one, and what follows each. -/
structure Form where
  front : String
  parts : List Part

namespace Form

/-- The parts, each behind the literal of its value. -/
def fillParts : List Part → List String → List Char
  | part :: parts, value :: values =>
    (literal value).toList ++ (part.text.toList ++ fillParts parts values)
  | _, _ => []

/-- The text with literals in its places. -/
def fill (form : Form) (values : List String) : List Char :=
  form.front.toList ++ fillParts form.parts values

/-- Reads a literal before each of the parts, up to the end of the text. -/
def readParts : List Part → List Char → Option (List String)
  | [], text => if text = [] then some [] else none
  | part :: parts, text =>
    (readLiteral text).bind fun read =>
      (read.2.dropPrefix? part.text.toList).bind fun rest =>
        (readParts parts rest).map (read.1 :: ·)

/-- The values of the literals in the places of a text, if it has this form. -/
def read (form : Form) (text : List Char) : Option (List String) :=
  (text.dropPrefix? form.front.toList).bind (readParts form.parts)

/-- One literal after the other is read, since no part goes on with a quote. -/
theorem readParts_eq_some_iff {parts : List Part} {text : List Char} {values : List String} :
    readParts parts text = some values ↔
      values.length = parts.length ∧ text = fillParts parts values := by
  induction parts generalizing text values with
  | nil => cases values <;> simp [readParts, fillParts]
  | cons part parts ih =>
    simp only [readParts, Option.bind_eq_some_iff, Option.map_eq_some_iff, Prod.exists,
      readLiteral_eq_some_iff, List.dropPrefix?_eq_some_iff, beq_iff_eq, exists_eq_right, ih]
    constructor
    · intro h
      obtain ⟨value, behind, ⟨htext, -⟩, rest, hbehind, others, ⟨hlength, hrest⟩, hvalues⟩ := h
      rw [← hvalues, htext, hbehind, hrest, fillParts]
      exact ⟨congrArg Nat.succ hlength, rfl⟩
    · intro h
      obtain ⟨hlength, htext⟩ := h
      rw [htext]
      cases values with
      | nil => cases hlength
      | cons value values =>
        -- the part keeps the literal apart from what is read next
        exact ⟨value, _, ⟨rfl, part.head_append _⟩, _, rfl, values,
          ⟨Nat.succ.inj hlength, rfl⟩, rfl⟩

theorem read_eq_some_iff {form : Form} {text : List Char} {values : List String} :
    form.read text = some values ↔
      values.length = form.parts.length ∧ text = form.fill values := by
  simp only [read, fill, Option.bind_eq_some_iff, List.dropPrefix?_eq_some_iff, beq_iff_eq,
    exists_eq_right, readParts_eq_some_iff]
  constructor
  · intro h
    obtain ⟨behind, htext, hlength, hbehind⟩ := h
    exact ⟨hlength, by rw [htext, hbehind]⟩
  · intro h
    obtain ⟨hlength, htext⟩ := h
    exact ⟨_, htext, hlength, rfl⟩

end Form

/-! ## The literals of a loader -/

/-- What stands before the directory in a line that collects script files. -/
def beforeDirectory (variableName : String) : String :=
  "$" ++ variableName ++ " = @(Get-ChildItem -Path (Join-Path -Path $PSScriptRoot -ChildPath "

/-- What stands between the directory and the pattern of its files. -/
def beforePattern : String := ") -Filter "

/-- What follows the pattern. -/
def behindPattern : String := " -File -ErrorAction SilentlyContinue | Sort-Object -Property Name)"

/-- What follows the lines that collect script files: the lines that have no name in them. -/
def importing (newline : String) : String :=
  String.join (((lines "" "" "").drop 3).map (· ++ newline))

/-- A loader without its names. The places are those of the private directory, its pattern, the
public directory and its pattern. -/
def form (newline : String) : Form where
  front := "#region " ++ regionName ++ newline ++ beforeDirectory "Private"
  parts := [
    ⟨beforePattern, by decide⟩,
    ⟨behindPattern ++ newline ++ beforeDirectory "Public", by simp [behindPattern]⟩,
    ⟨beforePattern, by decide⟩,
    ⟨behindPattern ++ newline ++ importing newline, by simp [behindPattern]⟩]

theorem collectLine_eq (variableName directory extension : String) :
    collectLine variableName directory extension =
      beforeDirectory variableName ++ literal directory ++ beforePattern ++
        literal ("*" ++ extension) ++ behindPattern :=
  rfl

theorem lines_eq_cons (publicDir privateDir extension : String) :
    lines publicDir privateDir extension =
      ("#region " ++ regionName) :: collectLine "Private" privateDir extension ::
        collectLine "Public" publicDir extension :: (lines "" "" "").drop 3 :=
  rfl

theorem render_toList_eq_fill (publicDir privateDir extension newline : String) :
    (render publicDir privateDir extension newline).toList =
      (form newline).fill [privateDir, "*" ++ extension, publicDir, "*" ++ extension] := by
  rw [render, lines_eq_cons, List.map_cons, List.map_cons, List.map_cons, collectLine_eq,
    collectLine_eq, String.toList_join, List.flatMap_cons, List.flatMap_cons, List.flatMap_cons,
    ← String.toList_join, ← importing]
  simp only [Form.fill, Form.fillParts, form, String.toList_append, List.append_assoc,
    List.append_nil]

theorem read_form_iff {publicDir privateDir extension newline : String} {text : List Char} :
    (form newline).read text = some [privateDir, "*" ++ extension, publicDir, "*" ++ extension] ↔
      text = (render publicDir privateDir extension newline).toList := by
  rw [Form.read_eq_some_iff, render_toList_eq_fill]
  exact and_iff_right rfl

theorem render_inj {publicDir privateDir extension publicDir' privateDir' extension'
    newline : String} :
    render publicDir privateDir extension newline =
        render publicDir' privateDir' extension' newline ↔
      publicDir = publicDir' ∧ privateDir = privateDir' ∧ extension = extension' := by
  constructor
  · intro h
    have hread := read_form_iff.mpr (congrArg String.toList h)
    rw [read_form_iff.mpr rfl] at hread
    simp only [Option.some.injEq, List.cons.injEq, String.append_right_inj] at hread
    exact ⟨hread.2.2.1, hread.1, hread.2.1⟩
  · intro h
    obtain ⟨hpublic, hprivate, hextension⟩ := h
    rw [hpublic, hprivate, hextension]

/-- **Quoted names are read back.** A literal with a certain value and rest is read from exactly one
text, the value's own literal with the rest behind it, and from that unless the rest goes on with
another quote. The places of a loader hold the private directory, its pattern, the public directory
and its pattern in exactly one text, the loader rendered from them; so loaders with the same line
ending differ as soon as a name does. -/
theorem names_read_back (newline : String) :
    (∀ (text rest : List Char) (value : String), readLiteral text = some (value, rest) ↔
      text = (literal value).toList ++ rest ∧ rest.head? ≠ some '\'') ∧
    (∀ (text : List Char) (publicDir privateDir extension : String),
      (form newline).read text =
          some [privateDir, "*" ++ extension, publicDir, "*" ++ extension] ↔
        text = (render publicDir privateDir extension newline).toList) ∧
    ∀ publicDir privateDir extension publicDir' privateDir' extension' : String,
      render publicDir privateDir extension newline =
          render publicDir' privateDir' extension' newline ↔
        publicDir = publicDir' ∧ privateDir = privateDir' ∧ extension = extension' :=
  ⟨fun _ _ _ => readLiteral_eq_some_iff, fun _ _ _ _ => read_form_iff,
    fun _ _ _ _ _ _ => render_inj⟩

end Unbundle.Loader
