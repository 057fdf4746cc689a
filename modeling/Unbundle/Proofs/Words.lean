import Unbundle.Text.Blank

/-!
# Rows and words

A text is its rows joined again (`joinRows_rows`), and its words are the words of its rows, one
row after the other (`words_eq_flatMap_rows`): a line feed is blank, so no word reaches over the
end of a row. Rows of blanks have no words, and blanks at the end of a text can go without a word
being lost (`words_append_blanks`); they are all that trimming takes (`trimEnd_append_blanks`).
-/

namespace Unbundle.Text

/-! ## Fields -/

theorem fields_ne_nil (sep : Char → Bool) (cs : List Char) : fields sep cs ≠ [] := by
  cases cs with
  | nil => simp [fields]
  | cons c cs =>
    unfold fields
    split
    next => simp
    next => split <;> simp

/-- A text falls into the fields on both sides of any of its separators. -/
theorem fields_append_cons {sep : Char → Bool} {c : Char} (hc : sep c = true)
    (xs ys : List Char) : fields sep (xs ++ c :: ys) = fields sep xs ++ fields sep ys := by
  induction xs with
  | nil => simp [fields, hc]
  | cons x xs ih =>
    rw [List.cons_append, fields, fields, ih]
    by_cases hx : sep x = true
    · rw [if_pos hx, if_pos hx]
      rfl
    · rw [if_neg hx, if_neg hx]
      cases hxs : fields sep xs with
      | nil => exact absurd hxs (fields_ne_nil sep xs)
      | cons w ws => rfl

theorem fields_of_all_sep {sep : Char → Bool} :
    ∀ {cs : List Char}, cs.all sep = true → ∀ w ∈ fields sep cs, w = []
  | [], _, w, hw => by simpa [fields] using hw
  | c :: cs, h, w, hw => by
    simp only [List.all_cons, Bool.and_eq_true] at h
    rw [fields, if_pos h.1] at hw
    rcases List.mem_cons.mp hw with rfl | hw'
    · rfl
    · exact fields_of_all_sep h.2 w hw'

/-- The fields of a text hold only its characters, and no separators. -/
theorem mem_of_mem_fields {sep : Char → Bool} :
    ∀ {cs w : List Char}, w ∈ fields sep cs → ∀ c ∈ w, c ∈ cs ∧ ¬ sep c = true
  | [], w, hw, c, hc => by
    obtain rfl : w = [] := by simpa [fields] using hw
    exact absurd hc List.not_mem_nil
  | d :: cs, w, hw, c, hc => by
    have hlater : ∀ {v}, v ∈ fields sep cs → c ∈ v → c ∈ d :: cs ∧ ¬ sep c = true :=
      fun hv hc => (mem_of_mem_fields hv c hc).imp_left (List.mem_cons_of_mem _)
    unfold fields at hw
    split at hw
    next =>
      rcases List.mem_cons.mp hw with rfl | hw'
      · exact absurd hc List.not_mem_nil
      · exact hlater hw' hc
    next hsep =>
      split at hw
      next hnil => exact absurd hnil (fields_ne_nil sep cs)
      next v vs hfields =>
        rcases List.mem_cons.mp hw with rfl | hw'
        · rcases List.mem_cons.mp hc with rfl | hc'
          · exact ⟨List.mem_cons_self .., hsep⟩
          · exact hlater (hfields ▸ List.mem_cons_self ..) hc'
        · exact hlater (hfields ▸ List.mem_cons_of_mem _ hw') hc

/-- Every character of a text that is no separator is in a field. -/
theorem exists_field_of_mem {sep : Char → Bool} {c : Char} (hc : ¬ sep c = true) :
    ∀ {cs : List Char}, c ∈ cs → ∃ w ∈ fields sep cs, c ∈ w
  | [], h => absurd h List.not_mem_nil
  | d :: cs, h => by
    unfold fields
    split
    next hd =>
      rcases List.mem_cons.mp h with rfl | h
      · exact absurd hd hc
      · obtain ⟨w, hw, hmem⟩ := exists_field_of_mem hc h
        exact ⟨w, List.mem_cons_of_mem _ hw, hmem⟩
    next =>
      cases hfields : fields sep cs with
      | nil => exact absurd hfields (fields_ne_nil sep cs)
      | cons v vs =>
        rcases List.mem_cons.mp h with rfl | h
        · exact ⟨c :: v, List.mem_cons_self .., List.mem_cons_self ..⟩
        · -- the character is in the field that grows, or in a later one
          obtain ⟨w, hw, hmem⟩ := exists_field_of_mem hc h
          rw [hfields] at hw
          rcases List.mem_cons.mp hw with rfl | hw
          · exact ⟨d :: w, List.mem_cons_self .., List.mem_cons_of_mem _ hmem⟩
          · exact ⟨w, List.mem_cons_of_mem _ hw, hmem⟩

/-! ## Rows -/

theorem mem_joinRows {c : Char} :
    ∀ {rows : List (List Char)}, c ∈ joinRows rows → c = '\n' ∨ ∃ row ∈ rows, c ∈ row
  | [], h => absurd h List.not_mem_nil
  | [row], h => Or.inr ⟨row, List.mem_singleton_self row, h⟩
  | row :: next :: rest, h => by
    rw [joinRows] at h
    rcases List.mem_append.mp h with h | h
    · exact Or.inr ⟨row, List.mem_cons_self .., h⟩
    · rcases List.mem_cons.mp h with rfl | h
      · exact Or.inl rfl
      · refine (mem_joinRows h).imp_right ?_
        rintro ⟨row', hrow', hc⟩
        exact ⟨row', List.mem_cons_of_mem _ hrow', hc⟩

/-- Putting the first character back in front of its row. -/
theorem joinRows_cons_cons (c : Char) (row : List Char) (rest : List (List Char)) :
    joinRows ((c :: row) :: rest) = c :: joinRows (row :: rest) := by
  cases rest <;> rfl

theorem joinRows_rows (cs : List Char) : joinRows (rows cs) = cs := by
  induction cs with
  | nil => rfl
  | cons c cs ih =>
    unfold rows at ih ⊢
    unfold fields
    split
    next hc =>
      -- a line feed starts a new row; any other character joins the row after it
      have hline : c = '\n' := by simpa using hc
      cases hf : fields (· == '\n') cs with
      | nil => exact absurd hf (fields_ne_nil _ cs)
      | cons w ws => rw [joinRows, ← hf, ih, hline, List.nil_append]
    next =>
      cases hf : fields (· == '\n') cs with
      | nil => exact absurd hf (fields_ne_nil _ cs)
      | cons w ws => rw [joinRows_cons_cons, ← hf, ih]

/-! ## Words -/

/-- A text has the words on both sides of any of its blanks. -/
theorem words_append_cons {c : Char} (hc : isBlank c = true) (xs ys : List Char) :
    words (xs ++ c :: ys) = words xs ++ words ys := by
  rw [words, fields_append_cons hc, List.filter_append]
  rfl

theorem words_of_all_blank {cs : List Char} (h : cs.all isBlank = true) : words cs = [] := by
  rw [words, List.filter_eq_nil_iff]
  intro w hw
  simp [fields_of_all_sep h w hw]

theorem words_append_blanks (cs : List Char) {blanks : List Char}
    (h : blanks.all isBlank = true) : words (cs ++ blanks) = words cs := by
  cases blanks with
  | nil => rw [List.append_nil]
  | cons b blanks =>
    simp only [List.all_cons, Bool.and_eq_true] at h
    rw [words_append_cons h.1, words_of_all_blank h.2, List.append_nil]

/-- A text has no character that is neither blank nor in a text with the same words. -/
theorem not_mem_of_words_eq {c : Char} (hc : ¬ isBlank c = true) {xs ys : List Char}
    (hwords : words xs = words ys) (h : c ∉ ys) : c ∉ xs := by
  intro hmem
  obtain ⟨w, hw, hcw⟩ := exists_field_of_mem hc hmem
  have hword : w ∈ words xs := by
    refine List.mem_filter.mpr ⟨hw, ?_⟩
    simpa using List.ne_nil_of_mem hcw
  rw [hwords] at hword
  exact h (mem_of_mem_fields (List.mem_filter.mp hword).1 c hcw).1

/-- The words of rows joined by line feeds are the words of the rows. -/
theorem words_joinRows : ∀ rows : List (List Char), words (joinRows rows) = rows.flatMap words
  | [] => rfl
  | [row] => by simp [joinRows]
  | row :: next :: rest => by
    rw [joinRows, words_append_cons (by decide), words_joinRows (next :: rest)]
    rfl

theorem words_eq_flatMap_rows (cs : List Char) : words cs = (rows cs).flatMap words := by
  rw [← words_joinRows, joinRows_rows]

/-- What trimming takes from the end of a text is blank. -/
theorem trimEnd_append_blanks (cs : List Char) :
    ∃ blanks, cs = trimEnd cs ++ blanks ∧ blanks.all isBlank = true := by
  refine ⟨(cs.reverse.takeWhile isBlank).reverse, ?_, ?_⟩
  · have h := congrArg List.reverse
      (List.takeWhile_append_dropWhile (p := isBlank) (l := cs.reverse))
    rw [List.reverse_append, List.reverse_reverse] at h
    exact h.symm
  · rw [List.all_reverse]
    exact List.all_takeWhile

/-! ## Occurrences -/

theorem contains_append (needle : List Char) :
    ∀ front behind : List Char, contains needle (front ++ needle ++ behind) = true
  | [], behind => by
    cases hcs : needle ++ behind with
    | nil =>
      rw [List.nil_append, hcs, (List.append_eq_nil_iff.mp hcs).1]
      rfl
    | cons c cs =>
      rw [List.nil_append, hcs, contains, List.isPrefixOf_iff_prefix.mpr ⟨behind, hcs⟩,
        Bool.true_or]
  | c :: front, behind => by
    rw [List.cons_append, List.cons_append, contains, contains_append needle front behind,
      Bool.or_true]

end Unbundle.Text
