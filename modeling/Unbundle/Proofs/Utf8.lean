import Unbundle.Text.Utf8

/-!
# Reading back what was encoded

Every encoded text falls into its characters again, whatever follows it: the bytes of one
character are read by `front` as that character (`front_encodeChar`, one lemma for each number of
bytes), so `pieces` yields the characters of an encoded list one by one
(`pieces_encodeChars_append`). Hence the strict and the lenient reading both give back what was
written (`decode_encodeChars`, `decodeLossy_encodeChars`). Nothing else is read strictly: what
`front` takes for a character are the bytes of that character (`encodeChar_of_front`), so bytes that
are read are the encoded form of what was read (`encode_of_decode`). Whatever the bytes are, their
pieces make them up (`flatMap_pieces`). A byte of ASCII is a character wherever it stands, so
characters of ASCII that are read leniently from some bytes of a text stand in the text
(`infix_of_decodeLossy`, `infix_of_encodeChars`), at the place of these bytes (`exists_cut_ascii`),
and bytes that are read without a line feed have none (`feed_not_mem_of_decodeLossy`).

An offset is a *boundary* of a text when it is the size of some front part of it. Two boundaries
in order cut a text into three parts (`exists_cut`), the middle one of which is what the bytes
between them say (`exists_cut_text`); this is how byte offsets and characters are brought together.
Rows are, too: the bytes of a text have the line feeds of its characters
(`count_feed_encodeChars`).
-/

namespace Unbundle.Utf8

/-! ## One character -/

/-- A number below 256 is kept by the step to a byte. -/
theorem toNat_byte {n : Nat} (h : n < 256) : (UInt8.ofNat n).toNat = n := by
  rw [UInt8.toNat_ofNat', Nat.mod_eq_of_lt h]

/-- A further byte inside its range is taken into the character. -/
theorem follow_cons {need lo hi value : Nat} {seen rest : Bytes} {b : UInt8}
    (hlo : lo ≤ b.toNat) (hhi : b.toNat ≤ hi) :
    follow (need + 1) lo hi value seen (b :: rest)
      = follow need 0x80 0xbf (value * 64 + b.toNat % 64) (seen ++ [b]) rest := by
  rw [follow, if_pos (by simp [hlo, hhi])]

theorem front_one {n : Nat} (h : n < 0x80) (rest : Bytes) :
    front (UInt8.ofNat n) rest = (.char (Char.ofNat n), 0) := by
  simp only [front, toNat_byte (show n < 256 by omega)]
  rw [if_pos h]

theorem front_two {n : Nat} (hlo : 0x80 ≤ n) (hhi : n < 0x800) (rest : Bytes) :
    front (UInt8.ofNat (n / 64 % 0x20 + 0xc0)) (UInt8.ofNat (n % 0x40 + 0x80) :: rest)
      = (.char (Char.ofNat n), 1) := by
  have hlead := toNat_byte (show n / 64 % 0x20 + 0xc0 < 256 by omega)
  have hlast := toNat_byte (show n % 0x40 + 0x80 < 256 by omega)
  simp only [front, hlead]
  rw [if_neg (by omega), if_neg (by omega), if_pos (by omega),
    follow_cons (by omega) (by omega), follow, hlast]
  have hvalue : (n / 64 % 0x20 + 0xc0) % 32 * 64 + (n % 0x40 + 0x80) % 64 = n := by omega
  rw [hvalue]
  rfl

/-- Three bytes: the first of the further bytes leaves out what two bytes can say and the halves of
surrogate pairs. -/
theorem front_three {n : Nat} (hlo : 0x800 ≤ n) (hhi : n < 0x10000)
    (hscalar : n < 0xd800 ∨ 0xdfff < n) (rest : Bytes) :
    front (UInt8.ofNat (n / 4096 % 0x10 + 0xe0))
        (UInt8.ofNat (n / 64 % 0x40 + 0x80) :: UInt8.ofNat (n % 0x40 + 0x80) :: rest)
      = (.char (Char.ofNat n), 2) := by
  have hlead := toNat_byte (show n / 4096 % 0x10 + 0xe0 < 256 by omega)
  have hnext := toNat_byte (show n / 64 % 0x40 + 0x80 < 256 by omega)
  have hlast := toNat_byte (show n % 0x40 + 0x80 < 256 by omega)
  simp only [front, hlead]
  rw [if_neg (by omega), if_neg (by omega), if_neg (by omega), if_pos (by omega),
    follow_cons (by rw [hnext]; split <;> omega) (by rw [hnext]; split <;> omega),
    follow_cons (by omega) (by omega), follow, hnext, hlast]
  have hvalue : ((n / 4096 % 0x10 + 0xe0) % 16 * 64 + (n / 64 % 0x40 + 0x80) % 64) * 64
      + (n % 0x40 + 0x80) % 64 = n := by omega
  rw [hvalue]
  rfl

theorem front_four {n : Nat} (hlo : 0x10000 ≤ n) (hhi : n < 0x110000) (rest : Bytes) :
    front (UInt8.ofNat (n / 262144 % 0x08 + 0xf0))
        (UInt8.ofNat (n / 4096 % 0x40 + 0x80) :: UInt8.ofNat (n / 64 % 0x40 + 0x80)
          :: UInt8.ofNat (n % 0x40 + 0x80) :: rest)
      = (.char (Char.ofNat n), 3) := by
  have hlead := toNat_byte (show n / 262144 % 0x08 + 0xf0 < 256 by omega)
  have hnext := toNat_byte (show n / 4096 % 0x40 + 0x80 < 256 by omega)
  have hthird := toNat_byte (show n / 64 % 0x40 + 0x80 < 256 by omega)
  have hlast := toNat_byte (show n % 0x40 + 0x80 < 256 by omega)
  simp only [front, hlead]
  rw [if_neg (by omega), if_neg (by omega), if_neg (by omega), if_neg (by omega),
    if_pos (by omega),
    follow_cons (by rw [hnext]; split <;> omega) (by rw [hnext]; split <;> omega),
    follow_cons (by omega) (by omega), follow_cons (by omega) (by omega), follow, hnext, hthird,
    hlast]
  have hvalue : (((n / 262144 % 0x08 + 0xf0) % 8 * 64 + (n / 4096 % 0x40 + 0x80) % 64) * 64
      + (n / 64 % 0x40 + 0x80) % 64) * 64 + (n % 0x40 + 0x80) % 64 = n := by omega
  rw [hvalue]
  rfl

/-- The bytes of a character are read as that character, whatever follows them. -/
theorem front_encodeChar (c : Char) (rest : Bytes) :
    ∃ b tail, String.utf8EncodeChar c = b :: tail ∧
      front b (tail ++ rest) = (.char c, tail.length) := by
  have hscalar : c.toNat < 0xd800 ∨ (0xdfff < c.toNat ∧ c.toNat < 0x110000) := c.valid
  have hchar : Char.ofNat c.toNat = c := Char.ofNat_toNat c
  unfold String.utf8EncodeChar
  rw [show c.val.toNat = c.toNat from rfl]
  simp only
  split
  next h1 =>
    exact ⟨_, _, rfl, by simpa [hchar] using front_one (n := c.toNat) (by omega) rest⟩
  next h1 =>
    split
    next h2 =>
      exact ⟨_, _, rfl, by
        simpa [hchar] using front_two (n := c.toNat) (by omega) (by omega) rest⟩
    next h2 =>
      split
      next h3 =>
        exact ⟨_, _, rfl, by
          simpa [hchar] using front_three (n := c.toNat) (by omega) (by omega) (by omega) rest⟩
      next h3 =>
        exact ⟨_, _, rfl, by
          simpa [hchar] using front_four (n := c.toNat) (by omega) (by omega) rest⟩

/-! ## Whole texts -/

theorem encodeChars_append (xs ys : List Char) :
    encodeChars (xs ++ ys) = encodeChars xs ++ encodeChars ys :=
  List.flatMap_append

/-- An encoded list of characters falls into these characters, whatever follows. -/
theorem pieces_encodeChars_append (cs : List Char) (rest : Bytes) :
    pieces (encodeChars cs ++ rest) = cs.map .char ++ pieces rest := by
  induction cs with
  | nil => rfl
  | cons c cs ih =>
    obtain ⟨b, tail, hbytes, hfront⟩ := front_encodeChar c (encodeChars cs ++ rest)
    have hcons : encodeChars (c :: cs) ++ rest = b :: (tail ++ (encodeChars cs ++ rest)) := by
      simp [encodeChars, hbytes]
    rw [hcons, pieces, hfront]
    simp [ih]

theorem pieces_encodeChars (cs : List Char) : pieces (encodeChars cs) = cs.map .char := by
  have h := pieces_encodeChars_append cs []
  rwa [List.append_nil, show pieces [] = [] by rw [pieces], List.append_nil] at h

theorem charsOf_map_char (cs : List Char) :
    ∀ position, charsOf position (cs.map .char) = .ok cs := by
  induction cs with
  | nil => intro position; rfl
  | cons c cs ih =>
    intro position
    rw [List.map_cons, charsOf, ih]
    rfl

/-- Strict reading gives back the characters that were encoded. -/
theorem decode_encodeChars (cs : List Char) :
    decode (encodeChars cs) = .ok (String.ofList cs) := by
  rw [decode, pieces_encodeChars, charsOf_map_char]
  rfl

/-- Lenient reading gives back the characters that were encoded. -/
theorem decodeLossy_encodeChars (cs : List Char) :
    decodeLossy (encodeChars cs) = String.ofList cs := by
  rw [decodeLossy, pieces_encodeChars, List.map_map]
  congr 1
  exact List.map_id cs

/-- The flag of a file that was read says whether a byte order mark stands before its text. -/
theorem mark_of_decodeFile {raw : Bytes} {text : String} {bom : Bool}
    (h : decodeFile raw = .ok (text, bom)) : bom = true ↔ byteOrderMark <+: raw := by
  have hbom : bom = (splitMark raw).1 := by
    unfold decodeFile at h
    cases hd : decode (splitMark raw).2 with
    | error e => rw [hd] at h; exact absurd h (by simp [Except.map])
    | ok t =>
      rw [hd] at h
      simp only [Except.map, Except.ok.injEq, Prod.mk.injEq] at h
      exact h.2.symm
  rw [hbom, splitMark, ← List.isPrefixOf_iff_prefix]
  split
  next hmark => simp [hmark]
  next hmark => simp [hmark]

/-- The character whose encoded form is the byte order mark. -/
def markChar : Char := '\uFEFF'

/-- An encoded text begins with the byte order mark exactly if the text begins with `markChar`. -/
theorem mark_encode_iff {text : String} :
    byteOrderMark <+: encode text ↔ text.toList.head? = some markChar := by
  have hmark : byteOrderMark = encodeChars [markChar] := by decide
  constructor
  · rintro ⟨rest, hrest⟩
    have hpieces := congrArg pieces hrest
    rw [hmark, pieces_encodeChars_append, encode, pieces_encodeChars] at hpieces
    cases htext : text.toList with
    | nil => rw [htext] at hpieces; exact nomatch hpieces
    | cons c cs =>
      rw [htext] at hpieces
      rw [List.head?_cons, Piece.char.inj (List.cons.inj hpieces).1]
  · intro hhead
    obtain ⟨rest, hrest⟩ := List.head?_eq_some_iff.mp hhead
    refine ⟨encodeChars rest, ?_⟩
    rw [encode, hrest, hmark, ← encodeChars_append]
    rfl

/-- A file is written with a byte order mark at its front if one is asked for, or if its text begins
with the character of the mark. -/
theorem mark_encodeFile_iff {text : String} {bom : Bool} :
    byteOrderMark <+: encodeFile text bom ↔ bom = true ∨ text.toList.head? = some markChar := by
  cases bom with
  | true => exact iff_of_true (List.prefix_append ..) (Or.inl rfl)
  | false =>
    rw [← mark_encode_iff]
    exact ⟨Or.inr, fun h => h.resolve_left Bool.noConfusion⟩

/-! ## Reading back -/

/-- A character that needs a further byte takes the next one, which is inside its range. -/
theorem follow_char {need lo hi value : Nat} {seen bytes : Bytes} {c : Char} {k : Nat}
    (h : follow (need + 1) lo hi value seen bytes = (.char c, k)) :
    ∃ b rest, bytes = b :: rest ∧ lo ≤ b.toNat ∧ b.toNat ≤ hi ∧
      follow need 0x80 0xbf (value * 64 + b.toNat % 64) (seen ++ [b]) rest = (.char c, k) := by
  cases bytes with
  | nil => exact nomatch h
  | cons b rest =>
    rw [follow] at h
    by_cases hrange : (decide (lo ≤ b.toNat) && decide (b.toNat ≤ hi)) = true
    · rw [if_pos hrange] at h
      rw [Bool.and_eq_true, decide_eq_true_eq, decide_eq_true_eq] at hrange
      exact ⟨b, rest, rfl, hrange.1, hrange.2, h⟩
    · rw [if_neg hrange] at h
      exact nomatch h

theorem follow_done {lo hi value : Nat} {seen bytes : Bytes} {c : Char} {k : Nat}
    (h : follow 0 lo hi value seen bytes = (.char c, k)) :
    c = Char.ofNat value ∧ k = seen.length - 1 := by
  rw [follow] at h
  cases h
  exact ⟨rfl, rfl⟩

theorem eq_byte {b : UInt8} {n : Nat} (h : b.toNat = n) : UInt8.ofNat n = b := by
  rw [← h, UInt8.ofNat_toNat]

theorem toNat_char {n : Nat} (h : n.isValidChar) : (Char.ofNat n).toNat = n := by
  rw [Char.ofNat, dif_pos h]
  rfl

theorem encodeChar_two {b c₁ : UInt8} (hlo : 0xc2 ≤ b.toNat) (hhi : b.toNat < 0xe0)
    (h₁ : 0x80 ≤ c₁.toNat) (h₁' : c₁.toNat ≤ 0xbf) :
    String.utf8EncodeChar (Char.ofNat (b.toNat % 32 * 64 + c₁.toNat % 64)) = [b, c₁] := by
  have hn := toNat_char (n := b.toNat % 32 * 64 + c₁.toNat % 64) (Or.inl (by omega))
  unfold String.utf8EncodeChar
  rw [show (Char.ofNat _).val.toNat = _ from hn]
  simp only
  rw [if_neg (by omega), if_pos (by omega), eq_byte (b := b) (by omega),
    eq_byte (b := c₁) (by omega)]

theorem encodeChar_three {b c₁ c₂ : UInt8} (hlo : 0xe0 ≤ b.toNat) (hhi : b.toNat < 0xf0)
    (h₁ : (if b.toNat = 0xe0 then 0xa0 else 0x80) ≤ c₁.toNat)
    (h₁' : c₁.toNat ≤ (if b.toNat = 0xed then 0x9f else 0xbf))
    (h₂ : 0x80 ≤ c₂.toNat) (h₂' : c₂.toNat ≤ 0xbf) :
    String.utf8EncodeChar
        (Char.ofNat ((b.toNat % 16 * 64 + c₁.toNat % 64) * 64 + c₂.toNat % 64)) = [b, c₁, c₂] := by
  have hrange : 0x80 ≤ c₁.toNat ∧ c₁.toNat ≤ 0xbf ∧ (b.toNat = 0xe0 → 0xa0 ≤ c₁.toNat) ∧
      (b.toNat = 0xed → c₁.toNat ≤ 0x9f) := by
    split at h₁ <;> split at h₁' <;> omega
  have hn := toNat_char (n := (b.toNat % 16 * 64 + c₁.toNat % 64) * 64 + c₂.toNat % 64)
    (by unfold Nat.isValidChar; omega)
  unfold String.utf8EncodeChar
  rw [show (Char.ofNat _).val.toNat = _ from hn]
  simp only
  rw [if_neg (by omega), if_neg (by omega), if_pos (by omega), eq_byte (b := b) (by omega),
    eq_byte (b := c₁) (by omega), eq_byte (b := c₂) (by omega)]

theorem encodeChar_four {b c₁ c₂ c₃ : UInt8} (hlo : 0xf0 ≤ b.toNat) (hhi : b.toNat < 0xf5)
    (h₁ : (if b.toNat = 0xf0 then 0x90 else 0x80) ≤ c₁.toNat)
    (h₁' : c₁.toNat ≤ (if b.toNat = 0xf4 then 0x8f else 0xbf))
    (h₂ : 0x80 ≤ c₂.toNat) (h₂' : c₂.toNat ≤ 0xbf) (h₃ : 0x80 ≤ c₃.toNat)
    (h₃' : c₃.toNat ≤ 0xbf) :
    String.utf8EncodeChar (Char.ofNat
        (((b.toNat % 8 * 64 + c₁.toNat % 64) * 64 + c₂.toNat % 64) * 64 + c₃.toNat % 64)) =
      [b, c₁, c₂, c₃] := by
  have hrange : 0x80 ≤ c₁.toNat ∧ c₁.toNat ≤ 0xbf ∧ (b.toNat = 0xf0 → 0x90 ≤ c₁.toNat) ∧
      (b.toNat = 0xf4 → c₁.toNat ≤ 0x8f) := by
    split at h₁ <;> split at h₁' <;> omega
  have hn := toNat_char
    (n := ((b.toNat % 8 * 64 + c₁.toNat % 64) * 64 + c₂.toNat % 64) * 64 + c₃.toNat % 64)
    (by unfold Nat.isValidChar; omega)
  unfold String.utf8EncodeChar
  rw [show (Char.ofNat _).val.toNat = _ from hn]
  simp only
  rw [if_neg (by omega), if_neg (by omega), if_neg (by omega), eq_byte (b := b) (by omega),
    eq_byte (b := c₁) (by omega), eq_byte (b := c₂) (by omega), eq_byte (b := c₃) (by omega)]

/-- What is read as a character are the bytes of that character. -/
theorem encodeChar_of_front {b : UInt8} {rest : Bytes} {c : Char} {k : Nat}
    (h : front b rest = (.char c, k)) : String.utf8EncodeChar c = b :: rest.take k := by
  unfold front at h
  simp only at h
  split at h
  next hascii =>
    cases h
    have hn := toNat_char (n := b.toNat) (Or.inl (by omega))
    unfold String.utf8EncodeChar
    rw [show (Char.ofNat _).val.toNat = _ from hn, if_pos (by omega), UInt8.ofNat_toNat,
      List.take_zero]
  next =>
    split at h
    next => exact nomatch h
    next =>
      split at h
      next htwo =>
        obtain ⟨c₁, rest₁, rfl, h₁, h₁', h⟩ := follow_char h
        obtain ⟨rfl, rfl⟩ := follow_done h
        exact encodeChar_two (by omega) htwo h₁ h₁'
      next =>
        split at h
        next hthree =>
          obtain ⟨c₁, rest₁, rfl, h₁, h₁', h⟩ := follow_char h
          obtain ⟨c₂, rest₂, rfl, h₂, h₂', h⟩ := follow_char h
          obtain ⟨rfl, rfl⟩ := follow_done h
          exact encodeChar_three (by omega) hthree h₁ h₁' h₂ h₂'
        next =>
          split at h
          next hfour =>
            obtain ⟨c₁, rest₁, rfl, h₁, h₁', h⟩ := follow_char h
            obtain ⟨c₂, rest₂, rfl, h₂, h₂', h⟩ := follow_char h
            obtain ⟨c₃, rest₃, rfl, h₃, h₃', h⟩ := follow_char h
            obtain ⟨rfl, rfl⟩ := follow_done h
            exact encodeChar_four (by omega) hfour h₁ h₁' h₂ h₂' h₃ h₃'
          next => exact nomatch h

theorem encodeChars_of_charsOf : ∀ {bytes : Bytes} {position : Nat} {cs : List Char},
    charsOf position (pieces bytes) = .ok cs → encodeChars cs = bytes
  | [], position, cs, h => by
    rw [pieces] at h
    cases h
    rfl
  | b :: rest, position, cs, h => by
    rw [pieces] at h
    cases hfront : front b rest with
    | mk piece k =>
      rw [hfront] at h
      cases piece with
      | bad run flaw => cases h
      | char c =>
        rw [charsOf] at h
        cases hcs : charsOf (position + (String.utf8EncodeChar c).length)
            (pieces (rest.drop k)) with
        | error e =>
          rw [hcs] at h
          cases h
        | ok others =>
          rw [hcs] at h
          cases h
          have ih := encodeChars_of_charsOf hcs
          rw [encodeChars, List.flatMap_cons, ← encodeChars, ih, encodeChar_of_front hfront,
            List.cons_append, List.take_append_drop]
  termination_by bytes => bytes.length
  decreasing_by
    rw [List.length_drop, List.length_cons]
    omega

/-- Strict reading succeeds only on the bytes of what it reads. -/
theorem encode_of_decode {bytes : Bytes} {text : String} (h : decode bytes = .ok text) :
    encode text = bytes := by
  unfold decode at h
  cases hcs : charsOf 0 (pieces bytes) with
  | error e =>
    rw [hcs] at h
    exact nomatch h
  | ok cs =>
    rw [hcs] at h
    cases h
    rw [encode, String.toList_ofList]
    exact encodeChars_of_charsOf hcs

/-! ## Pieces -/

/-- A faulty run is what was read of a character that did not come about. -/
theorem follow_bad {need lo hi value : Nat} {seen bytes run : Bytes} {flaw : Flaw} {k : Nat}
    (h : follow need lo hi value seen bytes = (.bad run flaw, k)) :
    ∃ more, run = seen ++ more ∧ more <+: bytes ∧ k = run.length - 1 := by
  induction need generalizing lo hi value seen bytes with
  | zero => cases h
  | succ need ih =>
    cases bytes with
    | nil =>
      cases h
      exact ⟨[], (List.append_nil _).symm, List.nil_prefix, rfl⟩
    | cons b rest =>
      rw [follow] at h
      by_cases hrange : (decide (lo ≤ b.toNat) && decide (b.toNat ≤ hi)) = true
      · rw [if_pos hrange] at h
        obtain ⟨more, hrun, hmore, hk⟩ := ih h
        refine ⟨b :: more, ?_, List.cons_prefix_cons.mpr ⟨rfl, hmore⟩, hk⟩
        rw [hrun, List.append_assoc]
        rfl
      · rw [if_neg hrange] at h
        cases h
        exact ⟨[], (List.append_nil _).symm, List.nil_prefix, rfl⟩

theorem run_of_follow {need lo hi value : Nat} {b : UInt8} {rest run : Bytes} {flaw : Flaw}
    {k : Nat} (h : follow need lo hi value [b] rest = (.bad run flaw, k)) :
    run = b :: rest.take k := by
  obtain ⟨more, rfl, hmore, rfl⟩ := follow_bad h
  rw [List.singleton_append, List.length_cons, Nat.add_sub_cancel,
    ← List.prefix_iff_eq_take.mp hmore]

/-- What is read as a faulty run are the bytes of that run. -/
theorem run_of_front {b : UInt8} {rest run : Bytes} {flaw : Flaw} {k : Nat}
    (h : front b rest = (.bad run flaw, k)) : run = b :: rest.take k := by
  unfold front at h
  simp only at h
  split at h
  next => cases h
  next =>
    split at h
    next => cases h; rfl
    next =>
      split at h
      next => exact run_of_follow h
      next =>
        split at h
        next => exact run_of_follow h
        next =>
          split at h
          next => exact run_of_follow h
          next => cases h; rfl

/-- A character that does not come about has only bytes beyond ASCII. -/
theorem high_of_follow {need lo hi value : Nat} {seen bytes run : Bytes} {flaw : Flaw} {k : Nat}
    (h : follow need lo hi value seen bytes = (.bad run flaw, k)) (hlo : 0x80 ≤ lo)
    (hseen : ∀ b ∈ seen, 0x80 ≤ b.toNat) : ∀ b ∈ run, 0x80 ≤ b.toNat := by
  induction need generalizing lo hi value seen bytes with
  | zero => cases h
  | succ need ih =>
    cases bytes with
    | nil =>
      cases h
      exact hseen
    | cons b rest =>
      rw [follow] at h
      by_cases hrange : (decide (lo ≤ b.toNat) && decide (b.toNat ≤ hi)) = true
      · rw [if_pos hrange] at h
        rw [Bool.and_eq_true, decide_eq_true_eq, decide_eq_true_eq] at hrange
        have hb : 0x80 ≤ b.toNat := by omega
        refine ih h (Nat.le_refl _) ?_
        rw [List.forall_mem_append, List.forall_mem_singleton]
        exact ⟨hseen, hb⟩
      · rw [if_neg hrange] at h
        cases h
        exact hseen

/-- A faulty run has only bytes beyond ASCII. -/
theorem high_of_front {b : UInt8} {rest run : Bytes} {flaw : Flaw} {k : Nat}
    (h : front b rest = (.bad run flaw, k)) : ∀ c ∈ run, 0x80 ≤ c.toNat := by
  have hsingle : 0x80 ≤ b.toNat → ∀ c ∈ [b], 0x80 ≤ c.toNat := by
    intro hb c hc
    rw [List.mem_singleton.mp hc]
    exact hb
  unfold front at h
  simp only at h
  split at h
  next => cases h
  next =>
    split at h
    next =>
      cases h
      exact hsingle (by omega)
    next =>
      split at h
      next => exact high_of_follow h (by omega) (hsingle (by omega))
      next =>
        split at h
        next => exact high_of_follow h (by split <;> omega) (hsingle (by omega))
        next =>
          split at h
          next => exact high_of_follow h (by split <;> omega) (hsingle (by omega))
          next =>
            cases h
            exact hsingle (by omega)

theorem exists_front_of_mem {piece : Piece} : ∀ {bytes : Bytes}, piece ∈ pieces bytes →
    ∃ b rest, (front b rest).1 = piece
  | [], h => by
    rw [pieces] at h
    cases h
  | b :: rest, h => by
    rw [pieces] at h
    rcases List.mem_cons.mp h with rfl | hlater
    · exact ⟨b, rest, rfl⟩
    · exact exists_front_of_mem hlater
  termination_by bytes => bytes.length
  decreasing_by
    rw [List.length_drop, List.length_cons]
    omega

/-- The pieces of a byte sequence make it up. -/
theorem flatMap_pieces : ∀ bytes : Bytes, (pieces bytes).flatMap Piece.bytes = bytes
  | [] => by
    rw [pieces]
    rfl
  | b :: rest => by
    have ih := flatMap_pieces (rest.drop (front b rest).2)
    have hfront : (front b rest).1.bytes = b :: rest.take (front b rest).2 := by
      cases hpiece : front b rest with
      | mk piece k =>
        cases piece with
        | char c => exact encodeChar_of_front hpiece
        | bad run flaw => exact run_of_front hpiece
    rw [pieces, List.flatMap_cons, ih, hfront, List.cons_append, List.take_append_drop]
  termination_by bytes => bytes.length
  decreasing_by
    rw [List.length_drop, List.length_cons]
    omega

/-! ## ASCII -/

/-- A character beyond ASCII has only bytes beyond ASCII. -/
theorem high_of_mem_encodeChar {c : Char} (hc : 0x7f < c.toNat) :
    ∀ b ∈ String.utf8EncodeChar c, 0x80 ≤ b.toNat := by
  unfold String.utf8EncodeChar
  rw [show c.val.toNat = c.toNat from rfl]
  simp only
  split
  next h1 => omega
  next h1 =>
    split
    next h2 =>
      rw [List.forall_mem_cons, List.forall_mem_singleton, toNat_byte (by omega),
        toNat_byte (by omega)]
      omega
    next h2 =>
      split
      next h3 =>
        rw [List.forall_mem_cons, List.forall_mem_cons, List.forall_mem_singleton,
          toNat_byte (by omega), toNat_byte (by omega), toNat_byte (by omega)]
        omega
      next h3 =>
        rw [List.forall_mem_cons, List.forall_mem_cons, List.forall_mem_cons,
          List.forall_mem_singleton, toNat_byte (by omega), toNat_byte (by omega),
          toNat_byte (by omega), toNat_byte (by omega)]
        omega

/-- A byte of ASCII is a byte of no character but its own. -/
theorem toNat_of_mem_encodeChar {c : Char} {b : UInt8} (hb : b.toNat < 0x80)
    (h : b ∈ String.utf8EncodeChar c) : b.toNat = c.toNat := by
  by_cases hascii : c.toNat ≤ 0x7f
  · unfold String.utf8EncodeChar at h
    rw [show c.val.toNat = c.toNat from rfl, if_pos hascii, List.mem_singleton] at h
    rw [h, toNat_byte (by omega)]
  · have hhigh := high_of_mem_encodeChar (by omega) b h
    omega

theorem encodeChar_ascii {c : Char} (hc : c.toNat < 0x80) :
    String.utf8EncodeChar c = [UInt8.ofNat c.toNat] := by
  unfold String.utf8EncodeChar
  rw [show c.val.toNat = c.toNat from rfl, if_pos (by omega)]

/-- A byte of ASCII among the bytes of a text is a character of the text. -/
theorem exists_ascii {before after : Bytes} {b : UInt8} (hb : b.toNat < 0x80) :
    ∀ {cs : List Char}, encodeChars cs = before ++ b :: after →
      ∃ front c behind, cs = front ++ c :: behind ∧ c.toNat = b.toNat ∧
        before = encodeChars front := by
  intro cs
  induction cs generalizing before with
  | nil =>
    intro h
    exact absurd h (by simp [encodeChars])
  | cons c cs ih =>
    intro h
    rw [encodeChars, List.flatMap_cons, ← encodeChars] at h
    rcases List.append_eq_append_iff.mp h with ⟨mid, rfl, hmid⟩ | ⟨mid, hc, hmid⟩
    · obtain ⟨front, d, behind, rfl, hd, rfl⟩ := ih hmid
      exact ⟨c :: front, d, behind, rfl, hd, rfl⟩
    · cases mid with
      | nil =>
        rw [List.append_nil] at hc
        have hstart : encodeChars cs = [] ++ b :: after := hmid.symm
        obtain ⟨front, d, behind, rfl, hd, hfront⟩ := ih hstart
        refine ⟨c :: front, d, behind, rfl, hd, ?_⟩
        rw [encodeChars, List.flatMap_cons, ← encodeChars, ← hfront, hc, List.append_nil]
      | cons b' mid =>
        obtain ⟨rfl, -⟩ := List.cons.inj hmid
        have hmem : b ∈ String.utf8EncodeChar c := by
          rw [hc]
          exact List.mem_append_right _ (List.mem_cons_self ..)
        have hcode := toNat_of_mem_encodeChar hb hmem
        have hbefore : before = [] := by
          rw [encodeChar_ascii (by omega)] at hc
          rcases List.append_eq_singleton_iff.mp hc.symm with ⟨hnil, -⟩ | ⟨-, hnil⟩
          · exact hnil
          · exact absurd hnil (List.cons_ne_nil _ _)
        exact ⟨[], c, cs, rfl, hcode.symm, hbefore⟩

/-- A character other than the line feed has no byte that is one. -/
theorem feed_not_mem_encodeChar {c : Char} (hc : c ≠ '\n') : 0x0a ∉ String.utf8EncodeChar c := by
  intro hmem
  exact hc (Char.toNat_inj.mp (toNat_of_mem_encodeChar (by decide) hmem).symm)

/-- The line feeds of a text are those among its bytes. -/
theorem count_feed_encodeChars (cs : List Char) : (encodeChars cs).count 0x0a = cs.count '\n' := by
  induction cs with
  | nil => rfl
  | cons c cs ih =>
    rw [encodeChars, List.flatMap_cons, List.count_append, ← encodeChars, ih]
    by_cases hc : c = '\n'
    · have hfeed : (String.utf8EncodeChar '\n').count 0x0a = 1 := by decide
      rw [hc, hfeed, List.count_cons_self, Nat.add_comm]
    · rw [List.count_eq_zero.mpr (feed_not_mem_encodeChar hc), List.count_cons_of_ne hc,
        Nat.zero_add]

/-- Characters whose bytes begin the bytes of a text begin the text. -/
theorem prefix_of_encodeChars {cs text : List Char} {back : Bytes}
    (h : encodeChars text = encodeChars cs ++ back) : cs <+: text := by
  have hpieces := congrArg pieces h
  rw [pieces_encodeChars, pieces_encodeChars_append] at hpieces
  obtain ⟨front, behind, rfl, hfront, -⟩ := List.map_eq_append_iff.mp hpieces
  rw [(List.map_inj_right fun _ _ => Piece.char.inj).mp hfront]
  exact List.prefix_append ..

/-- Characters of ASCII whose bytes stand among the bytes of a text stand in the text, at the place
of their bytes. -/
theorem exists_cut_ascii {cs text : List Char} {front back : Bytes}
    (hascii : ∀ c ∈ cs, c.toNat < 0x80) (hne : cs ≠ [])
    (h : encodeChars text = front ++ encodeChars cs ++ back) :
    ∃ before behind, text = before ++ cs ++ behind ∧ encodeChars before = front := by
  obtain ⟨c, cs, rfl⟩ := List.exists_cons_of_ne_nil hne
  have hc := hascii c (List.mem_cons_self ..)
  have hfirst : encodeChars text = front ++ UInt8.ofNat c.toNat :: (encodeChars cs ++ back) := by
    rw [h, encodeChars, List.flatMap_cons, encodeChar_ascii hc, List.append_assoc]
    rfl
  obtain ⟨before, d, behind, rfl, -, rfl⟩ :=
    exists_ascii (by rw [toNat_byte (by omega)]; exact hc) hfirst
  rw [encodeChars_append, List.append_assoc] at h
  obtain ⟨rest, hrest⟩ := prefix_of_encodeChars (List.append_cancel_left h)
  exact ⟨before, rest, by rw [← hrest, List.append_assoc], rfl⟩

theorem infix_of_encodeChars {cs text : List Char} (hascii : ∀ c ∈ cs, c.toNat < 0x80)
    (h : encodeChars cs <:+: encodeChars text) : cs <:+: text := by
  by_cases hne : cs = []
  · rw [hne]
    exact List.nil_infix
  · obtain ⟨front, back, hcut⟩ := h
    obtain ⟨before, behind, rfl, -⟩ := exists_cut_ascii hascii hne hcut.symm
    exact ⟨before, behind, rfl⟩

/-- A byte of ASCII is read leniently as its character. -/
theorem exists_mem_decodeLossy {bytes : Bytes} {b : UInt8} (hb : b.toNat < 0x80) (h : b ∈ bytes) :
    ∃ c ∈ (decodeLossy bytes).toList, c.toNat = b.toNat := by
  rw [← flatMap_pieces bytes, List.mem_flatMap] at h
  obtain ⟨piece, hpiece, hmem⟩ := h
  cases piece with
  | char c =>
    refine ⟨c, ?_, (toNat_of_mem_encodeChar hb hmem).symm⟩
    rw [decodeLossy, String.toList_ofList]
    exact List.mem_map.mpr ⟨_, hpiece, rfl⟩
  | bad run flaw =>
    obtain ⟨first, rest, hfront⟩ := exists_front_of_mem hpiece
    have hhigh := high_of_front (Prod.ext hfront rfl) b hmem
    omega

/-- Bytes that are read leniently without a line feed have none. -/
theorem feed_not_mem_of_decodeLossy {bytes : Bytes} (h : '\n' ∉ (decodeLossy bytes).toList) :
    0x0a ∉ bytes := by
  intro hfeed
  obtain ⟨c, hc, hcode⟩ := exists_mem_decodeLossy (by decide) hfeed
  have heq : c = '\n' := Char.toNat_inj.mp hcode
  exact h (heq ▸ hc)

/-- A piece that shows a character of ASCII is that character. -/
theorem Piece.bytes_of_ascii {piece : Piece} (h : piece.lossyChar.toNat < 0x80) :
    piece.bytes = String.utf8EncodeChar piece.lossyChar := by
  cases piece with
  | char c => rfl
  | bad run flaw => exact absurd h (show ¬ replacement.toNat < 0x80 by decide)

/-- Characters of ASCII that are read leniently have their bytes among those that are read. -/
theorem infix_of_decodeLossy {cs : List Char} {bytes : Bytes} (hascii : ∀ c ∈ cs, c.toNat < 0x80)
    (h : cs <:+: (decodeLossy bytes).toList) : encodeChars cs <:+: bytes := by
  obtain ⟨front, back, hcut⟩ := h
  rw [decodeLossy, String.toList_ofList] at hcut
  obtain ⟨before, behind, hpieces, hbefore, -⟩ := List.map_eq_append_iff.mp hcut.symm
  obtain ⟨first, mid, rfl, -, rfl⟩ := List.map_eq_append_iff.mp hbefore
  have hmid : mid.flatMap Piece.bytes = encodeChars (mid.map Piece.lossyChar) := by
    rw [encodeChars, List.flatMap_map, List.flatMap_def, List.flatMap_def]
    congr 1
    refine List.map_congr_left fun piece hpiece => ?_
    exact Piece.bytes_of_ascii (hascii _ (List.mem_map_of_mem hpiece))
  refine ⟨first.flatMap Piece.bytes, behind.flatMap Piece.bytes, ?_⟩
  rw [← flatMap_pieces bytes, hpieces, List.flatMap_append, List.flatMap_append, hmid]

/-! ## Boundaries -/

/-- Whether a byte offset stands between two characters of a text, or at one of its ends. -/
def IsBoundary (cs : List Char) (offset : Int) : Prop :=
  ∃ before after, cs = before ++ after ∧ ((encodeChars before).length : Int) = offset

theorem isBoundary_iff {cs : List Char} {offset : Int} :
    IsBoundary cs offset ↔
      ∃ k ∈ List.range (cs.length + 1), ((encodeChars (cs.take k)).length : Int) = offset := by
  constructor
  · intro h
    obtain ⟨before, after, rfl, hoffset⟩ := h
    refine ⟨before.length, ?_, by rw [List.take_left, hoffset]⟩
    rw [List.mem_range, List.length_append]
    omega
  · intro h
    obtain ⟨k, -, hoffset⟩ := h
    exact ⟨cs.take k, cs.drop k, (List.take_append_drop k cs).symm, hoffset⟩

instance {cs : List Char} {offset : Int} : Decidable (IsBoundary cs offset) :=
  decidable_of_iff _ isBoundary_iff.symm

theorem encodeChars_length_pos {cs : List Char} (h : cs ≠ []) : 0 < (encodeChars cs).length := by
  obtain ⟨c, rest, rfl⟩ := List.exists_cons_of_ne_nil h
  have hc := List.length_pos_iff.mpr (String.utf8EncodeChar_ne_nil (c := c))
  simp only [encodeChars, List.flatMap_cons, List.length_append]
  omega

/-- Of two front parts of a text, the one with no more bytes begins the other. -/
theorem append_of_encode_le {before after before' after' : List Char}
    (h : before ++ after = before' ++ after')
    (hle : (encodeChars before).length ≤ (encodeChars before').length) :
    ∃ mid, before' = before ++ mid := by
  rcases List.append_eq_append_iff.mp h with ⟨mid, rfl, -⟩ | ⟨mid, rfl, -⟩
  · exact ⟨mid, rfl⟩
  · rw [encodeChars_append, List.length_append] at hle
    cases mid with
    | nil => exact ⟨[], by simp⟩
    | cons c mid =>
      have := encodeChars_length_pos (List.cons_ne_nil c mid)
      omega

/-- Two boundaries in order cut a text into three parts. -/
theorem exists_cut {cs : List Char} {start stop : Int} (hstart : IsBoundary cs start)
    (hstop : IsBoundary cs stop) (hle : start ≤ stop) :
    ∃ before mid after, cs = before ++ mid ++ after ∧
      ((encodeChars before).length : Int) = start ∧
      ((encodeChars (before ++ mid)).length : Int) = stop := by
  obtain ⟨before, after, hcs, hbefore⟩ := hstart
  obtain ⟨before', after', hcs', hbefore'⟩ := hstop
  obtain ⟨mid, rfl⟩ := append_of_encode_le (hcs.symm.trans hcs') (by omega)
  exact ⟨before, mid, after', hcs', hbefore, hbefore'⟩

/-- The part of a text between two boundaries is read off the bytes between them. -/
theorem exists_cut_text {cs : List Char} {start stop : Int} (hstart : IsBoundary cs start)
    (hstop : IsBoundary cs stop) (hle : start ≤ stop) {text : String}
    (htext : text = decodeLossy (((encodeChars cs).take stop.toNat).drop start.toNat)) :
    ∃ before after, cs = before ++ text.toList ++ after ∧
      start = (encodeChars before).length ∧
      stop = (encodeChars (before ++ text.toList)).length := by
  obtain ⟨before, mid, after, rfl, rfl, rfl⟩ := exists_cut hstart hstop hle
  have hmid : text.toList = mid := by
    rw [htext, Int.toNat_natCast, Int.toNat_natCast, encodeChars_append (before ++ mid),
      List.take_left, encodeChars_append, List.drop_left, decodeLossy_encodeChars,
      String.toList_ofList]
  rw [hmid]
  exact ⟨before, after, rfl, rfl, rfl⟩

end Unbundle.Utf8
