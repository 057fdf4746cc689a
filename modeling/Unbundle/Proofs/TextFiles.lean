import Unbundle.Proofs.ByteOrderMark

/-!
# Text files are read and written without loss

Strict reading accepts exactly the bytes that are text in UTF-8, and says what they encode
(`Utf8.decode_eq_ok_iff`). A byte order mark at the front is split off, so a file reads as a text
and a flag exactly if it is what the two are written as, unless the flag is missing and the text
itself begins with the character of the mark (`Utf8.decodeFile_eq_ok_iff`): such a text reads as one
character less. For files this says that what was read is written as it was, and which of the texts
that were written read back (`text_files_round_trip`).
-/

namespace Unbundle

namespace Utf8

variable {bytes raw : Bytes} {text : String} {bom : Bool}

/-! ## Bytes that are text -/

/-- Bytes that are text in UTF-8: the encoded form of some characters. -/
def IsText (bytes : Bytes) : Prop := bytes.toByteArray.IsValidUTF8

instance : Decidable (IsText bytes) := inferInstanceAs (Decidable (ByteArray.IsValidUTF8 _))

theorem isText_iff : IsText bytes ↔ ∃ cs, bytes = encodeChars cs := by
  constructor
  · intro h
    obtain ⟨cs, hcs⟩ := h
    have harray := congrArg ByteArray.data hcs
    rw [List.utf8Encode, List.data_toByteArray, List.data_toByteArray] at harray
    exact ⟨cs, List.toArray_inj harray⟩
  · intro h
    obtain ⟨cs, rfl⟩ := h
    exact .intro cs rfl

/-- **Strict reading** gives a text exactly for the bytes of that text. -/
theorem decode_eq_ok_iff : decode bytes = .ok text ↔ bytes = encode text := by
  constructor
  · intro h
    exact (encode_of_decode h).symm
  · intro h
    rw [h, encode, decode_encodeChars, String.ofList_toList]

theorem exists_decode_iff : (∃ text, decode bytes = .ok text) ↔ IsText bytes := by
  rw [isText_iff]
  constructor
  · intro h
    obtain ⟨text, htext⟩ := h
    exact ⟨text.toList, decode_eq_ok_iff.mp htext⟩
  · intro h
    obtain ⟨cs, rfl⟩ := h
    exact ⟨_, decode_encodeChars cs⟩

/-! ## Byte order marks -/

/-- File contents without one byte order mark at their front. -/
def unmarked (raw : Bytes) : Bytes :=
  if byteOrderMark <+: raw then raw.drop byteOrderMark.length else raw

theorem splitMark_eq (raw : Bytes) :
    splitMark raw = (decide (byteOrderMark <+: raw), unmarked raw) := by
  unfold splitMark unmarked
  by_cases hmark : byteOrderMark <+: raw
  · rw [if_pos (List.isPrefixOf_iff_prefix.mpr hmark), if_pos hmark, decide_eq_true hmark]
  · rw [if_neg (mt List.isPrefixOf_iff_prefix.mp hmark), if_neg hmark, decide_eq_false hmark]

theorem unmarked_append (bytes : Bytes) : unmarked (byteOrderMark ++ bytes) = bytes := by
  rw [unmarked, if_pos (List.prefix_append ..), List.drop_left]

theorem decodeFile_eq (raw : Bytes) :
    decodeFile raw = (decode (unmarked raw)).map (·, decide (byteOrderMark <+: raw)) := by
  rw [decodeFile, splitMark_eq]

/-- A file can be read exactly if it is text, a mark at its front apart. -/
theorem exists_decodeFile_iff :
    (∃ text bom, decodeFile raw = .ok (text, bom)) ↔ IsText (unmarked raw) := by
  rw [← exists_decode_iff, decodeFile_eq]
  cases hdecode : decode (unmarked raw) with
  | error flaw => exact ⟨fun ⟨_, _, h⟩ => (nomatch h), fun ⟨_, h⟩ => (nomatch h)⟩
  | ok text => exact ⟨fun _ => ⟨text, rfl⟩, fun _ => ⟨text, _, rfl⟩⟩

/-- **What a file reads as.** A file reads as a text and a flag exactly if it is what they are
written as and, without the flag, the text does not begin with the character of the mark. -/
theorem decodeFile_eq_ok_iff :
    decodeFile raw = .ok (text, bom) ↔
      raw = encodeFile text bom ∧ (bom = true ∨ ¬ BeginsMarked text) := by
  constructor
  · intro h
    have hbom := mark_of_decodeFile h
    rw [decodeFile_eq] at h
    cases hdecode : decode (unmarked raw) with
    | error flaw =>
      rw [hdecode] at h
      exact nomatch h
    | ok read =>
      rw [hdecode] at h
      obtain ⟨rfl, -⟩ := Prod.mk.inj (Except.ok.inj h)
      have hbytes := decode_eq_ok_iff.mp hdecode
      cases bom with
      | true =>
        obtain ⟨rest, rfl⟩ := hbom.mp rfl
        rw [unmarked_append] at hbytes
        rw [hbytes]
        exact ⟨rfl, Or.inl rfl⟩
      | false =>
        have hplain : ¬ byteOrderMark <+: raw := fun hmark => Bool.false_ne_true (hbom.mpr hmark)
        rw [unmarked, if_neg hplain] at hbytes
        rw [hbytes] at hplain ⊢
        exact ⟨rfl, Or.inr fun hbegins => hplain (mark_encode_iff.mpr hbegins)⟩
  · intro h
    obtain ⟨rfl, hmark⟩ := h
    rw [decodeFile_eq]
    cases bom with
    | true =>
      rw [encodeFile, if_pos rfl, unmarked_append, decode_eq_ok_iff.mpr rfl,
        decide_eq_true (List.prefix_append ..)]
      rfl
    | false =>
      have hplain : ¬ byteOrderMark <+: encode text := fun h =>
        hmark.resolve_left Bool.false_ne_true (mark_encode_iff.mp h)
      rw [encodeFile, if_neg Bool.false_ne_true, unmarked, if_neg hplain, decode_eq_ok_iff.mpr rfl,
        decide_eq_false hplain]
      rfl

end Utf8

/-! ## Files -/

namespace ModuleFile

variable {s : FileStore} {path : Path} {raw : Bytes} {text : String} {bom : Bool}

/-- The file at a path holds these bytes. -/
def Holds (s : FileStore) (path : Path) (raw : Bytes) : Prop :=
  FileStore.acceptable path.toString = true ∧ s.read path.toString = .ok raw

instance : Decidable (Holds s path raw) := inferInstanceAs (Decidable (_ ∧ _))

/-- Nothing keeps the file at a path from being read. -/
def Readable (s : FileStore) (path : Path) : Prop :=
  s.conditions.unreadable.lookup (.use, path.toString) = none

/-- No mishap befalls what is written at a path. -/
def Writable (s : FileStore) (path : Path) : Prop :=
  s.conditions.mishaps.lookup path.toString = none

/-- The ways to write a text file: in the place of what is there, or as a new file. -/
def IsWriter (writer : Path → String → Bool → Work Unit) : Prop :=
  writer = write ∨ writer = writeNew

theorem Holds.read_eq (h : Holds s path raw) (hreadable : Readable s path) :
    read s path = (Utf8.decodeFile raw).mapError fun flaw => .input (.notText path flaw) := by
  unfold read
  rw [readBytes_of_read _ h.1 hreadable h.2]

theorem Holds.read_eq_ok_iff (h : Holds s path raw) (hreadable : Readable s path) :
    read s path = .ok (text, bom) ↔ Utf8.decodeFile raw = .ok (text, bom) := by
  rw [h.read_eq hreadable, mapError_eq_ok]

/-- What is read from a file is in its bytes. -/
theorem Holds.decode_of_read (h : Holds s path raw) (hread : read s path = .ok (text, bom)) :
    Utf8.decodeFile raw = .ok (text, bom) := by
  obtain ⟨raw', -, hraw, hdecode⟩ := read_ok hread
  obtain rfl := Except.ok.inj (hraw.symm.trans h.2)
  exact hdecode

theorem holds_write (h : (write path text bom s).result = .ok ()) :
    Holds (write path text bom s).store path (Utf8.encodeFile text bom) := by
  obtain ⟨happly, -⟩ := Work.perform_ok h
  obtain ⟨l, -, hstat, -⟩ := Operation.overwrite_ok happly
  exact ⟨Work.acceptable_of_perform h, FileStore.read_eq_ok_iff.mpr ⟨l, hstat⟩⟩

theorem holds_writeNew (h : (writeNew path text bom s).result = .ok ()) :
    Holds (writeNew path text bom s).store path (Utf8.encodeFile text bom) := by
  obtain ⟨made, -, hcreate, hstore, -⟩ := Work.bind_ok h
  obtain ⟨happly, -⟩ := Work.perform_ok hcreate
  obtain ⟨l, -, -, hstat⟩ := Operation.create_ok happly
  have hread := FileStore.read_eq_ok_iff.mpr ⟨l, hstat⟩
  rw [← hstore] at hread
  exact ⟨Work.acceptable_of_perform hcreate, hread⟩

/-- What was written is there. -/
theorem IsWriter.holds {writer : Path → String → Bool → Work Unit} (hwriter : IsWriter writer)
    (h : (writer path text bom s).result = .ok ()) :
    Holds (writer path text bom s).store path (Utf8.encodeFile text bom) := by
  rcases hwriter with rfl | rfl
  · exact holds_write h
  · exact holds_writeNew h

/-- Writing keeps the conditions. -/
theorem IsWriter.readable {writer : Path → String → Bool → Work Unit} (hwriter : IsWriter writer)
    (h : Readable s path) : Readable (writer path text bom s).store path := by
  have hconditions : (writer path text bom s).store.conditions = s.conditions := by
    rcases hwriter with rfl | rfl
    · have hwrite : Work.Within (fun _ => True) (fun _ => True) (write path text bom) :=
        .perform trivial (fun _ => trivial) fun _ => trivial
      rw [hwrite.logged s]
      exact (Operation.replay_grows _ s).conditions
    · have hwrite : Work.Within Operation.IsAddition (fun _ => True) (writeNew path text bom) :=
        within_writeNew (fun _ => trivial) (fun _ => trivial) trivial
      exact (hwrite.extends s).conditions
  unfold Readable
  rw [hconditions]
  exact h

/-- A file can be given a new text, if no mishap befalls it. -/
theorem Holds.write_ok (h : Holds s path raw) (hwritable : Writable s path) (text : String)
    (bom : Bool) : (write path text bom s).result = .ok () := by
  obtain ⟨l, hstat⟩ := FileStore.read_eq_ok_iff.mp h.2
  have happly : (Operation.overwrite path.toString (Utf8.encodeFile text bom)).apply s =
      .ok (s.set l (.file (Utf8.encodeFile text bom))) := by
    rw [Operation.apply, FileStore.stat_eq_ok_iff.mp hstat]
  have hpath : FileStore.acceptable
      (Operation.overwrite path.toString (Utf8.encodeFile text bom)).path = true := h.1
  have hdone := Work.attempt_done hpath happly hwritable
  unfold write Work.perform
  rw [Work.bind_of_ok hdone]
  rfl

end ModuleFile

open ModuleFile (Holds IsWriter Readable Writable)

/-- **Reading and writing undo each other.** A file that nothing keeps from being read can be read
exactly if its bytes are text, a byte order mark at the front apart; otherwise it is refused as not
being text. What was read from a file can be written back to it, unless a mishap befalls it, and
wherever it is written there are the bytes of the file. A text that was written reads back, with its
flag, exactly if it has the flag or does not begin with the character of the mark. -/
theorem text_files_round_trip :
    (∀ (s : FileStore) (path : Path) (raw : Bytes), Holds s path raw →
      (Readable s path →
        ((∃ text bom, ModuleFile.read s path = .ok (text, bom)) ↔
          Utf8.IsText (Utf8.unmarked raw)) ∧
        ∀ e, ModuleFile.read s path = .error e → ∃ flaw, e = .input (.notText path flaw)) ∧
      ∀ text bom, ModuleFile.read s path = .ok (text, bom) →
        (Writable s path → (ModuleFile.write path text bom s).result = .ok ()) ∧
        ∀ writer, IsWriter writer → ∀ (target : Path) (t : FileStore),
          (writer target text bom t).result = .ok () →
            Holds (writer target text bom t).store target raw) ∧
    (∀ writer, IsWriter writer → ∀ (path : Path) (text : String) (bom : Bool) (s : FileStore),
      (writer path text bom s).result = .ok () → Readable s path →
        (ModuleFile.read (writer path text bom s).store path = .ok (text, bom) ↔
          bom = true ∨ ¬ BeginsMarked text)) := by
  refine ⟨fun s path raw hraw => ⟨fun hreadable => ⟨?_, fun e he => ?_⟩,
    fun text bom hread => ?_⟩, ?_⟩
  · simp only [hraw.read_eq_ok_iff hreadable]
    exact Utf8.exists_decodeFile_iff
  · rw [hraw.read_eq hreadable] at he
    obtain ⟨flaw, -, rfl⟩ := mapError_eq_error.mp he
    exact ⟨flaw, rfl⟩
  · obtain ⟨rfl, -⟩ := Utf8.decodeFile_eq_ok_iff.mp (hraw.decode_of_read hread)
    exact ⟨fun hwritable => hraw.write_ok hwritable text bom,
      fun writer hwriter target t hdone => hwriter.holds hdone⟩
  · intro writer hwriter path text bom s hdone hreadable
    rw [(hwriter.holds hdone).read_eq_ok_iff (hwriter.readable hreadable),
      Utf8.decodeFile_eq_ok_iff]
    exact and_iff_right rfl

/-! A file with two byte order marks, of which one belongs to its text. -/

namespace TwoMarks

def text : String := "\uFEFFé"

def path : Path := ⟨.relative, ["M.psm1"]⟩

def target : Path := ⟨.relative, ["Public", "A.ps1"]⟩

def store : FileStore := { entries := [(["M.psm1"], .file (Utf8.encodeFile text true))] }

end TwoMarks

/-- With its flag the text is written to another place as it was. Without the flag it is written
with one mark, and reads back as another text. -/
theorem text_files_round_trip_twoMarks :
    Holds TwoMarks.store TwoMarks.path [0xef, 0xbb, 0xbf, 0xef, 0xbb, 0xbf, 0xc3, 0xa9] ∧
    Utf8.IsText [0xef, 0xbb, 0xbf, 0xc3, 0xa9] ∧
    ModuleFile.read TwoMarks.store TwoMarks.path = .ok (TwoMarks.text, true) ∧
    Holds (ModuleFile.writeNew TwoMarks.target TwoMarks.text true TwoMarks.store).store
      TwoMarks.target [0xef, 0xbb, 0xbf, 0xef, 0xbb, 0xbf, 0xc3, 0xa9] ∧
    ModuleFile.read (ModuleFile.write TwoMarks.path TwoMarks.text false TwoMarks.store).store
      TwoMarks.path ≠ .ok (TwoMarks.text, false) := by
  obtain ⟨hreading, hwriting⟩ := text_files_round_trip
  have hraw : Holds TwoMarks.store TwoMarks.path
      [0xef, 0xbb, 0xbf, 0xef, 0xbb, 0xbf, 0xc3, 0xa9] := by decide +kernel
  have hread : ModuleFile.read TwoMarks.store TwoMarks.path = .ok (TwoMarks.text, true) := by
    decide +kernel
  obtain ⟨hvalid, hback⟩ := hreading _ _ _ hraw
  refine ⟨hraw, (hvalid rfl).1.mp ⟨_, _, hread⟩, hread, ?_, ?_⟩
  · exact (hback _ _ hread).2 _ (Or.inr rfl) _ _ (by decide +kernel)
  · have hiff := hwriting _ (Or.inl rfl) TwoMarks.path TwoMarks.text false TwoMarks.store
      (by decide +kernel) rfl
    exact fun h => (hiff.mp h).elim Bool.false_ne_true fun hnot => hnot (by decide)

end Unbundle
