import Unbundle.Proofs.Work
import Unbundle.Settings.Section

/-!
# Which settings files are accepted

A document is accepted if it counts as none, or if it is a mapping with nothing under the key of the
section, with something there that counts as none, or with a mapping there that has no other keys
than those of settings (`Document.HasSection`). What is then read is the section
(`section_accepted`).

Anything else is refused as a wrong value, with one exception: keys that are no settings are put in
order to be listed, and keys of different kinds have no order (`Value.sorted?_isSome_iff`). A
section with such keys fails in another way (`mixed_keys_not_listed`).
-/

namespace Unbundle

/-! ## Values in order -/

namespace Value

/-- The kinds of values that are ordered among themselves. -/
inductive OrderKind
  | number
  | text
  | bytes
  | date
  | moment (zoned : Bool)

/-- The kind that a value is ordered in, if there is one. -/
def orderKind? : Value → Option OrderKind
  | bool _ | int _ | float _ | nan _ => some .number
  | text _ | unpaired _ => some .text
  | binary _ => some .bytes
  | date _ => some .date
  | moment m => some (.moment m.offset.isSome)
  | _ => none

/-- Values that can be put in order: there is at most one, or they are all of one kind. -/
def Sortable (values : List Value) : Prop :=
  values.length ≤ 1 ∨ ∃ kind, ∀ value ∈ values, value.orderKind? = some kind

theorem less?_isSome_iff {a b : Value} :
    (a.less? b).isSome = true ↔ ∃ kind, a.orderKind? = some kind ∧ b.orderKind? = some kind := by
  -- the comparison looks at both constructors at once
  cases a with
  | moment x =>
    cases b with
    | moment y =>
      by_cases hzoned : x.offset.isSome = y.offset.isSome
      · simp [less?, orderKind?, hzoned]
      · simp [less?, orderKind?, hzoned, Ne.symm hzoned]
    | _ => simp [less?, letters?, isNumeric, orderKind?]
  | _ => cases b <;> simp [less?, letters?, isNumeric, orderKind?]

/-- **Values can be put in order** if one of them can be compared with all others. -/
theorem sorted?_isSome_iff {values : List Value} :
    (sorted? values).isSome = true ↔ Sortable values := by
  cases values with
  | nil => exact ⟨fun _ => Or.inl (Nat.zero_le 1), fun _ => rfl⟩
  | cons first rest =>
    have hsorted : (sorted? (first :: rest)).isSome = true ↔
        ∀ value ∈ rest, (first.less? value).isSome = true := by
      rw [sorted?, ← List.all_eq_true]
      split
      next hall => exact ⟨fun _ => hall, fun _ => rfl⟩
      next hall => exact ⟨fun h => absurd h Bool.false_ne_true, fun h => absurd h hall⟩
    rw [hsorted]
    constructor
    · intro hall
      -- a value on its own is compared with nothing, so it need not be of any kind
      cases rest with
      | nil => exact Or.inl (Nat.le_refl 1)
      | cons second rest =>
        obtain ⟨kind, hfirst, -⟩ := less?_isSome_iff.mp (hall second List.mem_cons_self)
        refine Or.inr ⟨kind, fun value hvalue => ?_⟩
        cases hvalue with
        | head => exact hfirst
        | tail _ hvalue =>
          obtain ⟨kind', hfirst', hvalue'⟩ := less?_isSome_iff.mp (hall value hvalue)
          rw [hvalue', ← hfirst', hfirst]
    · intro h value hvalue
      obtain hlength | ⟨kind, hkind⟩ := h
      · have hnil : rest = [] :=
          List.length_eq_zero_iff.mp (Nat.le_zero.mp (Nat.le_of_succ_le_succ hlength))
        rw [hnil] at hvalue
        cases hvalue
      · exact less?_isSome_iff.mpr
          ⟨kind, hkind first List.mem_cons_self, hkind value (List.mem_cons_of_mem _ hvalue)⟩

end Value

/-! ## Keys -/

theorem Setting.ofValue?_eq_some_iff {key : Value} {setting : Setting} :
    ofValue? key = some setting ↔ key = .text setting.key := by
  constructor
  · intro h
    cases key with
    | text name =>
      have hfound : Setting.all.find? (·.key == name) = some setting := h
      have hkey := List.find?_some hfound
      rw [← beq_iff_eq.mp hkey]
    | _ => cases h
  · intro h
    rw [h]
    cases setting with
    | _ => decide

namespace Settings

/-- The keys of a section that are no settings. -/
def unknownKeys (inner : List (Value × Item)) : List Value :=
  (inner.map (·.1)).filter fun key => (Setting.ofValue? key).isNone

/-- What the section of a document holds; it is empty if the document or the section counts as none
or if there is no section. -/
inductive Document.HasSection (d : Document) : List (Value × Item) → Prop
  | nothing (h : d.isFalsy d.root = true) : HasSection d []
  | absent {top : List (Value × Item)} (htop : d.entries? d.root = some top)
    (h : Value.lookup top sectionKey = none) : HasSection d []
  | empty {top : List (Value × Item)} {item : Item} (htop : d.entries? d.root = some top)
    (hitem : Value.lookup top sectionKey = some item) (h : d.isFalsy item = true) : HasSection d []
  | entries {top inner : List (Value × Item)} {item : Item} (htop : d.entries? d.root = some top)
    (hitem : Value.lookup top sectionKey = some item) (h : d.entries? item = some inner) :
    HasSection d inner

/-- What is read of a section. -/
def settingsIn (d : Document) (inner : List (Value × Item)) : Entries :=
  inner.filterMap fun (key, item) => (Setting.ofValue? key).map (·, d.valueOf item)

theorem unknownKeys_eq_nil_iff {inner : List (Value × Item)} :
    unknownKeys inner = [] ↔
      ∀ key ∈ inner.map (·.1), ∃ setting : Setting, key = .text setting.key := by
  unfold unknownKeys
  rw [List.filter_eq_nil_iff]
  refine forall₂_congr fun key _ => ?_
  simp only [← Setting.ofValue?_eq_some_iff, ← Option.isSome_iff_exists]
  cases Setting.ofValue? key with
  | none => simp
  | some setting => simp

/-- What is read has exactly the keys and values of its section, if there are no other keys. -/
theorem eq_settingsIn_iff {d : Document} {inner : List (Value × Item)} {entries : Entries} :
    entries.map (fun e => (Value.text e.1.key, e.2)) = inner.map (fun e => (e.1, d.valueOf e.2)) ↔
      unknownKeys inner = [] ∧ entries = settingsIn d inner := by
  induction inner generalizing entries with
  | nil => simp [unknownKeys, settingsIn]
  | cons entry rest ih =>
    obtain ⟨key, item⟩ := entry
    cases hkey : Setting.ofValue? key with
    | none =>
      -- a key that is no setting is the key of no entry
      have hunknown : unknownKeys ((key, item) :: rest) = key :: unknownKeys rest := by
        simp [unknownKeys, hkey]
      rw [hunknown]
      constructor
      · intro h
        obtain ⟨e, es, rfl, he, -⟩ := List.map_eq_cons_iff.mp h
        rw [Setting.ofValue?_eq_some_iff.mpr (congrArg Prod.fst he).symm] at hkey
        cases hkey
      · intro h
        cases h.1
    | some setting =>
      have hunknown : unknownKeys ((key, item) :: rest) = unknownKeys rest := by
        simp [unknownKeys, hkey]
      have hsettings : settingsIn d ((key, item) :: rest) =
          (setting, d.valueOf item) :: settingsIn d rest := by
        simp [settingsIn, hkey]
      rw [hunknown, hsettings, List.map_cons]
      constructor
      · intro h
        obtain ⟨e, es, rfl, he, hes⟩ := List.map_eq_cons_iff.mp h
        obtain ⟨hnone, rfl⟩ := ih.mp hes
        have hsetting := Setting.ofValue?_eq_some_iff.mpr (congrArg Prod.fst he).symm
        rw [hkey] at hsetting
        have hvalue : e.2 = d.valueOf item := congrArg Prod.snd he
        exact ⟨hnone, congrArg (· :: _) (Prod.ext (Option.some.inj hsetting).symm hvalue)⟩
      · intro h
        obtain ⟨hnone, rfl⟩ := h
        rw [List.map_cons, ih.mpr ⟨hnone, rfl⟩, Setting.ofValue?_eq_some_iff.mp hkey]

/-! ## Sections -/

section

variable {d : Document} {path : String} {inner : List (Value × Item)}

theorem Document.eq_nil_of_isFalsy {item : Item} (hfalsy : d.isFalsy item = true)
    (h : d.entries? item = some inner) : inner = [] := by
  cases item with
  | scalar value => cases h
  | collection id =>
    unfold Document.isFalsy at hfalsy
    unfold Document.entries? at h
    simp only at hfalsy h
    split at h
    next entries hentries =>
      rw [hentries] at hfalsy
      rw [← Option.some.inj h]
      exact List.isEmpty_iff.mp hfalsy
    next => cases h

/-- A document has one section at most. -/
theorem Document.HasSection.unique {inner' : List (Value × Item)} (h : d.HasSection inner)
    (h' : d.HasSection inner') : inner = inner' := by
  cases h with
  | nothing h =>
    cases h' with
    | entries htop hitem _ =>
      rw [Document.eq_nil_of_isFalsy h htop] at hitem
      cases hitem
    | _ => rfl
  | absent htop h =>
    cases h' with
    | entries htop' hitem _ =>
      obtain rfl := Option.some.inj (htop.symm.trans htop')
      cases h.symm.trans hitem
    | _ => rfl
  | empty htop hitem h =>
    cases h' with
    | entries htop' hitem' h' =>
      obtain rfl := Option.some.inj (htop.symm.trans htop')
      obtain rfl := Option.some.inj (hitem.symm.trans hitem')
      exact (Document.eq_nil_of_isFalsy h h').symm
    | _ => rfl
  | entries htop hitem h =>
    cases h' with
    | nothing h' =>
      rw [Document.eq_nil_of_isFalsy h' htop] at hitem
      cases hitem
    | absent htop' h' =>
      obtain rfl := Option.some.inj (htop.symm.trans htop')
      cases h'.symm.trans hitem
    | empty htop' hitem' h' =>
      obtain rfl := Option.some.inj (htop.symm.trans htop')
      obtain rfl := Option.some.inj (hitem.symm.trans hitem')
      exact Document.eq_nil_of_isFalsy h' h
    | entries htop' hitem' h' =>
      obtain rfl := Option.some.inj (htop.symm.trans htop')
      obtain rfl := Option.some.inj (hitem.symm.trans hitem')
      exact Option.some.inj (h.symm.trans h')

/-- What comes of an item where a mapping is expected. -/
theorem entriesIn_of_isFalsy {item : Item} (h : d.isFalsy item = true) (refusal : InvalidValue) :
    entriesIn d item refusal = .ok [] := by
  rw [entriesIn, if_pos h]

theorem entriesIn_of_entries? {item : Item} (h : d.entries? item = some inner)
    (refusal : InvalidValue) : entriesIn d item refusal = .ok inner := by
  cases hfalsy : d.isFalsy item with
  | true => rw [entriesIn_of_isFalsy hfalsy, Document.eq_nil_of_isFalsy hfalsy h]
  | false =>
    rw [entriesIn, hfalsy, h]
    rfl

theorem entriesIn_refused {item : Item} (hfalsy : d.isFalsy item = false)
    (h : d.entries? item = none) (refusal : InvalidValue) :
    entriesIn d item refusal = .error (.invalid refusal) := by
  rw [entriesIn, hfalsy, h]
  rfl

/-- What comes of a document in which mappings were found where they are expected. -/
theorem sectionOf_of_entriesIn {top : List (Value × Item)}
    (htop : entriesIn d d.root (.settingsNotMapping path) = .ok top)
    (hinner : entriesIn d ((Value.lookup top sectionKey).getD (.scalar .null))
      (.sectionNotMapping path) = .ok inner) :
    sectionOf path d = if unknownKeys inner = [] then .ok (settingsIn d inner)
      else .error (refuseKeys path (unknownKeys inner)) := by
  rw [sectionOf, htop, except_ok_bind]
  dsimp only
  rw [hinner, except_ok_bind]
  show (if (unknownKeys inner).isEmpty then _ else _) = _
  simp only [List.isEmpty_iff]
  rfl

theorem Document.HasSection.sectionOf_eq (h : d.HasSection inner) (path : String) :
    sectionOf path d = if unknownKeys inner = [] then .ok (settingsIn d inner)
      else .error (refuseKeys path (unknownKeys inner)) := by
  cases h with
  | nothing h => exact sectionOf_of_entriesIn (entriesIn_of_isFalsy h _) rfl
  | absent htop h =>
    refine sectionOf_of_entriesIn (entriesIn_of_entries? htop _) ?_
    rw [h]
    rfl
  | empty htop hitem h =>
    refine sectionOf_of_entriesIn (entriesIn_of_entries? htop _) ?_
    rw [hitem]
    exact entriesIn_of_isFalsy h _
  | entries htop hitem h =>
    refine sectionOf_of_entriesIn (entriesIn_of_entries? htop _) ?_
    rw [hitem]
    exact entriesIn_of_entries? h _

/-- A document without a section is refused. -/
theorem sectionOf_of_no_section (h : ∀ inner, ¬ d.HasSection inner) (path : String) :
    ∃ why, sectionOf path d = .error (.invalid why) := by
  have hroot : d.isFalsy d.root = false :=
    Bool.eq_false_iff.mpr fun hfalsy => h [] (.nothing hfalsy)
  cases htop : d.entries? d.root with
  | none =>
    refine ⟨.settingsNotMapping path, ?_⟩
    rw [sectionOf, entriesIn_refused hroot htop]
    rfl
  | some top =>
    cases hfound : Value.lookup top sectionKey with
    | none => exact absurd (.absent htop hfound) (h [])
    | some item =>
      have hitem : d.isFalsy item = false :=
        Bool.eq_false_iff.mpr fun hfalsy => h [] (.empty htop hfound hfalsy)
      cases hinner : d.entries? item with
      | some inner => exact absurd (.entries htop hfound hinner) (h inner)
      | none =>
        refine ⟨.sectionNotMapping path, ?_⟩
        rw [sectionOf, entriesIn_of_entries? htop, except_ok_bind, hfound, Option.getD_some]
        dsimp only
        rw [entriesIn_refused hitem hinner]
        rfl

theorem refuseKeys_of_sortable {keys : List Value} (h : Value.Sortable keys) (path : String) :
    ∃ why, refuseKeys path keys = .invalid why := by
  obtain ⟨sorted, hsorted⟩ := Option.isSome_iff_exists.mp (Value.sorted?_isSome_iff.mpr h)
  simp only [refuseKeys, hsorted, Value.shownInFull]
  by_cases hlong : (Value.list sorted).holdsLong = true
  · rw [if_pos hlong]
    exact ⟨_, rfl⟩
  · rw [if_neg hlong]
    exact ⟨_, rfl⟩

theorem refuseKeys_of_not_sortable {keys : List Value} (h : ¬ Value.Sortable keys) (path : String) :
    refuseKeys path keys = .wrongType := by
  have hsorted := Option.not_isSome_iff_eq_none.mp (mt Value.sorted?_isSome_iff.mp h)
  rw [refuseKeys, hsorted]

/-- Whatever comes of a document, in terms of its section. -/
theorem sectionOf_cases (d : Document) (path : String) :
    (∃ inner, d.HasSection inner ∧ unknownKeys inner = [] ∧
      sectionOf path d = .ok (settingsIn d inner)) ∨
    (∃ inner, d.HasSection inner ∧ unknownKeys inner ≠ [] ∧
      sectionOf path d = .error (refuseKeys path (unknownKeys inner))) ∨
    (∀ inner, ¬ d.HasSection inner) ∧ ∃ why, sectionOf path d = .error (.invalid why) := by
  by_cases hsection : ∃ inner, d.HasSection inner
  · obtain ⟨inner, hinner⟩ := hsection
    by_cases hunknown : unknownKeys inner = []
    · exact Or.inl ⟨inner, hinner, hunknown, by rw [hinner.sectionOf_eq, if_pos hunknown]⟩
    · exact Or.inr (Or.inl ⟨inner, hinner, hunknown, by rw [hinner.sectionOf_eq, if_neg hunknown]⟩)
  · have hnone : ∀ inner, ¬ d.HasSection inner := fun inner hinner => hsection ⟨inner, hinner⟩
    exact Or.inr (Or.inr ⟨hnone, sectionOf_of_no_section hnone path⟩)

/-- **A document is read if and only if its section has no other keys than those of settings.** -/
theorem sectionOf_ok_iff {entries : Entries} :
    sectionOf path d = .ok entries ↔ ∃ inner, d.HasSection inner ∧
      entries.map (fun e => (Value.text e.1.key, e.2)) =
        inner.map (fun e => (e.1, d.valueOf e.2)) := by
  simp only [eq_settingsIn_iff]
  constructor
  · intro h
    obtain ⟨inner, hinner, hunknown, hok⟩ | ⟨inner, -, -, herror⟩ | ⟨-, why, herror⟩ :=
      sectionOf_cases d path
    · exact ⟨inner, hinner, hunknown, Except.ok.inj (h.symm.trans hok)⟩
    · rw [herror] at h
      cases h
    · rw [herror] at h
      cases h
  · intro h
    obtain ⟨inner, hinner, hunknown, rfl⟩ := h
    rw [hinner.sectionOf_eq, if_pos hunknown]

theorem sectionOf_returns_iff :
    (∃ entries, sectionOf path d = .ok entries) ↔ ∃ inner, d.HasSection inner ∧
      ∀ key ∈ inner.map (·.1), ∃ setting : Setting, key = .text setting.key := by
  simp only [sectionOf_ok_iff, eq_settingsIn_iff, ← unknownKeys_eq_nil_iff]
  constructor
  · intro h
    obtain ⟨entries, inner, hinner, hunknown, -⟩ := h
    exact ⟨inner, hinner, hunknown⟩
  · intro h
    obtain ⟨inner, hinner, hunknown⟩ := h
    exact ⟨settingsIn d inner, inner, hinner, hunknown, rfl⟩

/-- How a document is refused. -/
theorem sectionOf_error {e : Error} (h : sectionOf path d = .error e) :
    (∃ why, e = .invalid why) ∨ e = .wrongType := by
  obtain ⟨inner, -, -, hok⟩ | ⟨inner, -, -, herror⟩ | ⟨-, why, herror⟩ := sectionOf_cases d path
  · rw [hok] at h
    cases h
  · obtain rfl := Except.error.inj (herror.symm.trans h)
    by_cases hsortable : Value.Sortable (unknownKeys inner)
    · exact Or.inl (refuseKeys_of_sortable hsortable path)
    · exact Or.inr (refuseKeys_of_not_sortable hsortable path)
  · exact Or.inl ⟨why, (Except.error.inj (herror.symm.trans h)).symm⟩

/-- When a document is refused, but not as a wrong value. -/
theorem sectionOf_wrongType_iff :
    sectionOf path d = .error .wrongType ↔
      ∃ inner, d.HasSection inner ∧ ¬ Value.Sortable (unknownKeys inner) := by
  constructor
  · intro h
    obtain ⟨inner, -, -, hok⟩ | ⟨inner, hinner, -, herror⟩ | ⟨-, why, herror⟩ :=
      sectionOf_cases d path
    · rw [hok] at h
      cases h
    · refine ⟨inner, hinner, fun hsortable => ?_⟩
      obtain ⟨why, hwhy⟩ := refuseKeys_of_sortable hsortable path
      rw [herror, hwhy] at h
      cases h
    · rw [herror] at h
      cases h
  · intro h
    obtain ⟨inner, hinner, hsortable⟩ := h
    have hunknown : unknownKeys inner ≠ [] := by
      intro hnil
      rw [hnil] at hsortable
      exact hsortable (Or.inl (Nat.zero_le 1))
    rw [hinner.sectionOf_eq, if_neg hunknown, refuseKeys_of_not_sortable hsortable]

end

/-- **What is read of a settings file.** A document is read if and only if it counts as none or is a
mapping with nothing, with what counts as none or with a mapping of settings only in its section;
what is read then is the section. Any other document is refused as a wrong value, but for one whose
section has keys that are no settings and cannot be put in order. -/
theorem section_accepted (path : String) (d : Document) :
    (∀ entries, sectionOf path d = .ok entries ↔ ∃ inner, d.HasSection inner ∧
      entries.map (fun e => (Value.text e.1.key, e.2)) =
        inner.map (fun e => (e.1, d.valueOf e.2))) ∧
    ((∃ entries, sectionOf path d = .ok entries) ↔ ∃ inner, d.HasSection inner ∧
      ∀ key ∈ inner.map (·.1), ∃ setting : Setting, key = .text setting.key) ∧
    (∀ e, sectionOf path d = .error e → (∃ why, e = .invalid why) ∨ e = .wrongType) ∧
    (sectionOf path d = .error .wrongType ↔
      ∃ inner, d.HasSection inner ∧ ¬ Value.Sortable (unknownKeys inner)) ∧
    ∀ (reader : Reader) s content, contentOf s path = .ok content →
      reader path content = .ok d → entriesWith reader s path = sectionOf path d := by
  refine ⟨fun entries => sectionOf_ok_iff, sectionOf_returns_iff, fun e => sectionOf_error,
    sectionOf_wrongType_iff, fun reader s content hcontent hdocument => ?_⟩
  rw [entriesWith, hcontent, except_ok_bind, hdocument, except_ok_bind]

namespace Document

/-- A document with a section of these entries and nothing else. -/
def ofSection (inner : List (Value × Item)) : Document :=
  ⟨#[.map [(.text sectionKey, .collection 1)], .map inner], .collection 0⟩

theorem hasSection_ofSection (inner : List (Value × Item)) :
    (ofSection inner).HasSection inner := by
  have hfound : Value.lookup [(.text sectionKey, Item.collection 1)] sectionKey =
      some (.collection 1) := rfl
  exact .entries rfl hfound rfl

end Document

/-- Two settings are read, and two keys that are none are refused as a wrong value. -/
theorem section_accepted_sample :
    sectionOf "c.yaml" (.ofSection [(.text "extension", .scalar (.text "psx")),
      (.text "dry_run", .scalar (.bool true))]) =
        .ok [(.extension, .text "psx"), (.dryRun, .bool true)] ∧
    ∃ why, sectionOf "c.yaml"
        (.ofSection [(.text "b", .scalar .null), (.text "a", .scalar .null)]) =
      .error (.invalid why) := by
  constructor
  · exact ((section_accepted _ _).1 _).mpr ⟨_, Document.hasSection_ofSection _, rfl⟩
  · have herror : sectionOf "c.yaml"
        (.ofSection [(.text "b", .scalar .null), (.text "a", .scalar .null)]) =
          .error (refuseKeys "c.yaml" [.text "b", .text "a"]) := rfl
    obtain ⟨why, hwhy⟩ | hwrong := (section_accepted _ _).2.2.1 _ herror
    · exact ⟨why, hwhy ▸ herror⟩
    · obtain ⟨inner, hinner, hsortable⟩ :=
        (section_accepted _ _).2.2.2.1.mp (herror.trans (congrArg _ hwrong))
      rw [hinner.unique (Document.hasSection_ofSection _)] at hsortable
      refine absurd (Or.inr ⟨.text, fun key hkey => ?_⟩) hsortable
      have hmem : key ∈ [Value.text "b", .text "a"] := hkey
      cases hmem with
      | head => rfl
      | tail _ hmem =>
        obtain rfl := List.mem_singleton.mp hmem
        rfl

/-- **Keys of different kinds are not listed.** A section with a number and a text as keys, neither
of them a setting, is not refused as a wrong value. -/
theorem mixed_keys_not_listed :
    (Document.ofSection
        [(.int 1, .scalar (.text "a")), (.text "foo", .scalar (.text "b"))]).HasSection
      [(.int 1, .scalar (.text "a")), (.text "foo", .scalar (.text "b"))] ∧
    sectionOf "c.yaml"
      (.ofSection [(.int 1, .scalar (.text "a")), (.text "foo", .scalar (.text "b"))]) =
        .error .wrongType := by
  exact ⟨Document.hasSection_ofSection _, rfl⟩

end Settings

end Unbundle
