import Unbundle.Proofs.Utf8
import Unbundle.Text.Lowercase

/-!
# Lower case and ASCII

The lower case of a character of ASCII does not depend on its neighbours (`lowerAt_ascii`), so it is
found wherever the character stands (`map_lowerChar_infix`). The other way round, a lower case in
ASCII comes from ASCII (`ascii_of_lowerFrom`), with one exception: the Kelvin sign becomes a `k`.
The other characters that lie beyond ASCII stay there, which is checked along the table of shifts
(`stays_of_mem`).
-/

namespace Unbundle.Text

/-! ## Tables -/

/-- What is found in a table is an entry of it that covers the code point. -/
theorem findRange_eq_some {α : Type} {bounds : α → CodeRange} {table : Array α} {cp lo hi : Nat}
    {entry : α} (h : findRange bounds table cp lo hi = some entry) :
    entry ∈ table ∧ (bounds entry).1 ≤ cp ∧ cp ≤ (bounds entry).2 := by
  fun_induction findRange bounds table cp lo hi with
  | case1 => cases h
  | case2 lo hi hlt mid found hfound hbelow ih => exact ih h
  | case3 lo hi hlt mid found hfound hbelow habove ih => exact ih h
  | case4 lo hi hlt mid found hfound hbelow habove =>
    cases h
    exact ⟨Array.mem_of_getElem? hfound, by omega, by omega⟩
  | case5 => cases h

/-- The code points of an entry lie in ASCII, or those that they are shifted to are characters
beyond it, or the entry is that of the Kelvin sign. -/
def CaseShift.Stays (s : CaseShift) : Prop :=
  s.last < 0x80 ∨ (s.first = 0x212a ∧ s.last = 0x212a ∧ s.shift = -0x20bf) ∨
    (0x80 ≤ s.first + s.shift ∧
      (s.last + s.shift < 0xd800 ∨ (0xdfff < s.first + s.shift ∧ s.last + s.shift < 0x110000)))

instance {s : CaseShift} : Decidable s.Stays := inferInstanceAs (Decidable (_ ∨ _))

theorem stays_of_mem {s : CaseShift} (h : s ∈ lowerShifts) : s.Stays := by
  have hall : ∀ s ∈ lowerShifts.toList, s.Stays := by decide +kernel
  exact hall s (Array.mem_toList_iff.mpr h)

/-! ## Characters -/

/-- Beyond ASCII a character stays as it is or is shifted as an entry of the table says. -/
theorem lowerChar_cases {c : Char} (hc : ¬ c.toNat < 0x80) :
    lowerChar c = c ∨ ∃ s ∈ lowerShifts, s.first ≤ c.toNat ∧ c.toNat ≤ s.last ∧
      lowerChar c = Char.ofNat (c.toNat + s.shift).toNat := by
  unfold lowerChar
  simp only [if_neg hc]
  cases hfind : findRange (fun s : CaseShift => (s.first, s.last)) lowerShifts c.toNat 0
      lowerShifts.size with
  | none => exact Or.inl rfl
  | some s =>
    obtain ⟨hmem, hfirst, hlast⟩ := findRange_eq_some hfind
    by_cases hstep : (c.toNat - s.first) % s.step = 0
    · exact Or.inr ⟨s, hmem, hfirst, hlast, if_pos hstep⟩
    · exact Or.inl (if_neg hstep)

/-- **A lower case in ASCII** is that of a character of ASCII, or a `k`. -/
theorem ascii_of_lowerChar {c : Char} (h : (lowerChar c).toNat < 0x80) :
    c.toNat < 0x80 ∨ lowerChar c = 'k' := by
  by_cases hc : c.toNat < 0x80
  · exact Or.inl hc
  · rcases lowerChar_cases hc with hself | ⟨s, hs, hfirst, hlast, hshift⟩
    · rw [hself] at h
      exact Or.inl h
    · rcases stays_of_mem hs with hlow | ⟨hkelvin, hkelvin', hback⟩ | ⟨hhigh, hvalid⟩
      · omega
      · have hcode : (c.toNat + s.shift).toNat = 0x6b := by omega
        rw [hshift, hcode]
        exact Or.inr rfl
      · have hcode : (Char.ofNat (c.toNat + s.shift).toNat).toNat = (c.toNat + s.shift).toNat :=
          Utf8.toNat_char (by unfold Nat.isValidChar; omega)
        rw [hshift, hcode] at h
        omega

/-! ## Texts -/

/-- The lower case of a character of ASCII does not depend on what is around it. -/
theorem lowerAt_ascii {c : Char} (hc : c.toNat < 0x80) (before after : List Char) :
    lowerAt before c after = [lowerChar c] := by
  have hne : ∀ d : Char, 0x80 ≤ d.toNat → c ≠ d := by
    rintro d hd rfl
    omega
  rw [lowerAt, if_neg (hne _ (by decide)), if_neg (hne _ (by decide))]

theorem lowerFrom_append_ascii {cs : List Char} (hcs : ∀ c ∈ cs, c.toNat < 0x80)
    (before after : List Char) :
    lowerFrom before (cs ++ after) =
      cs.map lowerChar ++ lowerFrom (cs.reverse ++ before) after := by
  induction cs generalizing before with
  | nil => rfl
  | cons c cs ih =>
    obtain ⟨hc, hrest⟩ := List.forall_mem_cons.mp hcs
    rw [List.cons_append, lowerFrom, lowerAt_ascii hc, ih hrest, List.map_cons,
      List.reverse_cons, List.append_assoc]
    rfl

/-- Characters of ASCII in a text have their lower case in the lower case of the text. -/
theorem map_lowerChar_infix {cs : List Char} (hcs : ∀ c ∈ cs, c.toNat < 0x80)
    (before front back : List Char) :
    cs.map lowerChar <:+: lowerFrom before (front ++ cs ++ back) := by
  induction front generalizing before with
  | nil =>
    rw [List.nil_append, lowerFrom_append_ascii hcs]
    exact (List.prefix_append ..).isInfix
  | cons c front ih =>
    rw [List.cons_append, List.cons_append, lowerFrom]
    exact (ih _).trans (List.suffix_append ..).isInfix

/-- A text whose lower case is in ASCII and has no `k` is in ASCII. -/
theorem ascii_of_lowerFrom {before cs : List Char}
    (h : ∀ d ∈ lowerFrom before cs, d.toNat < 0x80 ∧ d ≠ 'k') : ∀ c ∈ cs, c.toNat < 0x80 := by
  induction cs generalizing before with
  | nil => exact fun c hc => absurd hc List.not_mem_nil
  | cons c cs ih =>
    rw [lowerFrom, List.forall_mem_append] at h
    refine List.forall_mem_cons.mpr ⟨?_, ih h.2⟩
    have hfirst := h.1
    unfold lowerAt at hfirst
    split at hfirst
    next => exact absurd (hfirst '\u0307' (by decide)).1 (by decide)
    next =>
      split at hfirst
      next =>
        have hsigma := (List.forall_mem_singleton.mp hfirst).1
        split at hsigma
        next => exact absurd hsigma (by decide)
        next => exact absurd hsigma (by decide)
      next =>
        obtain ⟨hlow, hk⟩ := List.forall_mem_singleton.mp hfirst
        exact (ascii_of_lowerChar hlow).resolve_right hk

end Unbundle.Text
