import Unbundle.Proofs.Work
import Unbundle.Settings.Layers

/-!
# Where settings come from

A setting may be supplied by the built-in defaults, by the settings file, by the environment and
explicitly, and each layer has its own notion of what it supplies (`Sources.Supplies`). The settings
that come of all layers have each value from the highest layer that supplies one
(`Sources.chosen_iff`), with a dot put before an extension that lacks it (`Dotted`). In particular,
a word that stands for no truth value supplies nothing, and the layer below it counts.

No settings come of layers if the extension is no text, if the suffix of backups counts as none, or
if the dry run in the file is a number too long to be written (`settings_from_highest_layer`). A
suffix counts as none not only if it is null or empty (`zero_suffix_refused`).
-/

namespace Unbundle.Settings

/-- The layers, the lowest first. -/
inductive Origin
  | builtin
  | file
  | environment
  | explicit

/-- How high a layer is. -/
def Origin.rank : Origin → Nat
  | builtin => 0
  | file => 1
  | environment => 2
  | explicit => 3

theorem Origin.rank_injective {origin origin' : Origin} (h : origin.rank = origin'.rank) :
    origin = origin' := by
  cases origin <;> cases origin' <;> first | rfl | cases h

/-- What settings are read from: the entries of the settings file, the environment, and the values
that are given explicitly, which have keys of settings, each at most once. -/
structure Sources where
  entries : Entries
  env : Environment
  given : List (String × Value)
  known : given.all (fun entry => (Setting.ofKey? entry.1).isSome) = true
  distinct : (given.map (·.1)).Nodup

/-- A text stands for a truth value if it is one of its words, blanks around it and case apart. -/
def Means (text : String) (b : Bool) : Prop :=
  String.ofList (Text.lowerChars (Text.trim text.toList)) ∈ if b then yesWords else noWords

/-- A value with a dot put before it, if it is a text that lacks it. -/
inductive Dotted : Value → Value → Prop
  | kept {value : Value} {letters : Letters} (h : value.letters? = some letters)
    (hdot : letters.head? = some (.char '.')) : Dotted value value
  | text {s : String} (h : s.toList.head? ≠ some '.') : Dotted (.text s) (.text ("." ++ s))
  | unpaired {letters : Letters} (h : letters.head? ≠ some (.char '.')) :
    Dotted (.unpaired letters) (.unpaired (.char '.' :: letters))

namespace Sources

/-- A layer supplies a value for a setting. -/
inductive Supplies (x : Sources) : Origin → Setting → Value → Prop
  | default (setting : Setting) : Supplies x .builtin setting (defaults setting)
  | entry {setting : Setting} {value : Value} (h : x.entries.lookup setting = some value)
    (hother : setting ≠ .dryRun) : Supplies x .file setting value
  | dryRunEntry {value : Value} {b : Bool} (h : x.entries.lookup .dryRun = some value)
    (hmeans : Means value.words b) : Supplies x .file .dryRun (.bool b)
  | dryRunVariable {text : String} {b : Bool} (h : x.env.get? dryRunVariable = some text)
    (hmeans : Means text b) : Supplies x .environment .dryRun (.bool b)
  | suffixVariable {text : String} (h : x.env.get? suffixVariable = some text) (hset : text ≠ "") :
    Supplies x .environment .backupSuffix (.text text)
  | levelVariable {text : String} (h : x.env.get? levelVariable = some text) (hset : text ≠ "") :
    Supplies x .environment .logLevel (.text text)
  | given {setting : Setting} {value : Value} (h : x.given.lookup setting.key = some value)
    (hset : value ≠ .null) : Supplies x .explicit setting value

/-- The value of a setting from the highest layer that supplies one. -/
def Chosen (x : Sources) (setting : Setting) (value : Value) : Prop :=
  ∃ origin, x.Supplies origin setting value ∧
    ∀ other value', x.Supplies other setting value' → other.rank ≤ origin.rank

/-- The dry run in the file has a number with more digits than may be written. -/
def IsUnwritable (x : Sources) : Prop :=
  ∃ value, x.entries.lookup .dryRun = some value ∧ value.holdsLong = true

/-- The settings that come of all layers. -/
structure Configured (x : Sources) (settings : Settings) : Prop where
  writable : ¬ x.IsUnwritable
  chosen : ∀ setting, setting ≠ .extension → x.Chosen setting (settings setting)
  extension : ∃ value, x.Chosen .extension value ∧ Dotted value (settings .extension)
  suffix : (settings .backupSuffix).isFalsy = false

end Sources

/-! ## Truth values -/

theorem truthOf?_eq_some_iff {text : String} {b : Bool} :
    truthOf? text = some b ↔ Means text b := by
  have hdisjoint : ∀ word ∈ yesWords, word ∉ noWords := by decide
  unfold truthOf? Means
  generalize String.ofList (Text.lowerChars (Text.trim text.toList)) = word
  by_cases hyes : word ∈ yesWords
  · cases b with
    | true => simp [hyes]
    | false => simp [hyes, hdisjoint word hyes]
  · by_cases hno : word ∈ noWords
    · cases b with
      | true => simp [hyes, hno]
      | false => simp [hyes, hno]
    · cases b with
      | true => simp [hyes, hno]
      | false => simp [hyes, hno]

theorem holdsLong_of_letters? {value : Value} (h : value.letters?.isSome = true) :
    value.holdsLong = false := by
  cases value with
  | text s => rfl
  | unpaired letters => rfl
  | _ => cases h

/-- What is read from a text, if it is the word for something. -/
theorem readTruth_result {value : Value} (h : value.letters?.isSome = true) (before : Bool) :
    (readTruth value before).result = .ok ((truthOf? value.words).getD before) := by
  have hshown : value.shownInFull = .ok value.shown := by
    rw [Value.shownInFull, holdsLong_of_letters? h, if_neg Bool.false_ne_true]
  cases value with
  | text s =>
    simp only [readTruth, hshown]
    cases truthOf? (Value.text s).words with
    | none => rfl
    | some b => rfl
  | unpaired letters =>
    simp only [readTruth, hshown]
    cases truthOf? (Value.unpaired letters).words with
    | none => rfl
    | some b => rfl
  | _ => cases h

/-- The text of a value has the same words. -/
theorem toText_eq {value : Value} (h : value.holdsLong = false) :
    ∃ text, value.toText = .ok text ∧ text.letters?.isSome = true ∧ text.words = value.words := by
  unfold Value.toText
  split
  next => exact ⟨_, rfl, rfl, rfl⟩
  next => exact ⟨_, rfl, rfl, rfl⟩
  next =>
    rw [if_neg (by rw [h]; exact Bool.false_ne_true)]
    exact ⟨_, rfl, rfl, rfl⟩

theorem toText_long {value : Value} (h : value.holdsLong = true) :
    value.toText = .error (.invalid (.tooManyDigits none)) := by
  unfold Value.toText
  split
  next => cases h
  next => cases h
  next => rw [if_pos h]

/-! ## What a layer supplies -/

/-- Among keys that are distinct, leaving out null leaves out what it stood for. -/
theorem lookup_explicit {given : List (String × Value)} (hdistinct : (given.map (·.1)).Nodup)
    {key : String} {value : Value} :
    (explicit given).lookup key = some value ↔ given.lookup key = some value ∧ value ≠ .null := by
  induction given with
  | nil => simp [explicit]
  | cons entry rest ih =>
    obtain ⟨first, head⟩ := entry
    obtain ⟨hfresh, hrest⟩ := List.nodup_cons.mp hdistinct
    have ih := ih hrest
    unfold explicit at ih ⊢
    by_cases hkey : key = first
    · -- what a null hides is not found further on, because the key does not come again
      have hnone : rest.lookup key = none := by
        refine List.lookup_eq_none_iff.mpr fun other hother => bne_iff_ne.mpr fun heq => hfresh ?_
        exact List.mem_map.mpr ⟨other, hother, heq.symm.trans hkey⟩
      have hbeq : (key == first) = true := beq_iff_eq.mpr hkey
      rw [List.lookup_cons, hbeq]
      cases head with
      | null =>
        rw [List.filter_cons_of_neg Bool.false_ne_true, ih, hnone]
        constructor
        · intro h
          cases h.1
        · intro h
          exact absurd (Option.some.inj h.1).symm h.2
      | _ =>
        rw [List.filter_cons_of_pos rfl, List.lookup_cons, hbeq]
        refine ⟨fun h => ⟨h, ?_⟩, fun h => h.1⟩
        rw [← Option.some.inj h]
        intro hnull
        cases hnull
    · have hbeq : (key == first) = false := beq_false_of_ne hkey
      rw [List.lookup_cons, hbeq, ← ih]
      cases head with
      | null => rfl
      | _ => rw [List.filter_cons_of_pos rfl, List.lookup_cons, hbeq]

namespace Sources

variable (x : Sources)

/-- What a layer supplies, as a function. -/
def supplied? : Origin → Setting → Option Value
  | .builtin, setting => some (defaults setting)
  | .file, .dryRun => (x.entries.lookup .dryRun).bind fun value => (truthOf? value.words).map .bool
  | .file, setting => x.entries.lookup setting
  | .environment, .dryRun => (x.env.get? dryRunVariable).bind fun text => (truthOf? text).map .bool
  | .environment, .backupSuffix => (x.env.nonempty? Settings.suffixVariable).map .text
  | .environment, .logLevel => (x.env.nonempty? Settings.levelVariable).map .text
  | .environment, _ => none
  | .explicit, setting => (explicit x.given).lookup setting.key

theorem nonempty?_eq_some_iff {env : Environment} {name text : String} :
    env.nonempty? name = some text ↔ env.get? name = some text ∧ text ≠ "" := by
  simp [Environment.nonempty?, Option.filter_eq_some_iff]

theorem Supplies.supplied? {x : Sources} {origin : Origin} {setting : Setting} {value : Value}
    (h : x.Supplies origin setting value) : x.supplied? origin setting = some value := by
  cases h with
  | default => rfl
  | entry h hother =>
    cases setting with
    | dryRun => exact absurd rfl hother
    | _ => exact h
  | dryRunEntry h hmeans =>
    rw [Sources.supplied?, h, Option.bind_some, truthOf?_eq_some_iff.mpr hmeans]
    rfl
  | dryRunVariable h hmeans =>
    rw [Sources.supplied?, h, Option.bind_some, truthOf?_eq_some_iff.mpr hmeans]
    rfl
  | suffixVariable h hset =>
    rw [Sources.supplied?, nonempty?_eq_some_iff.mpr ⟨h, hset⟩]
    rfl
  | levelVariable h hset =>
    rw [Sources.supplied?, nonempty?_eq_some_iff.mpr ⟨h, hset⟩]
    rfl
  | given h hset => exact (lookup_explicit x.distinct).mpr ⟨h, hset⟩

theorem supplies_of_supplied? {x : Sources} {origin : Origin} {setting : Setting} {value : Value}
    (h : x.supplied? origin setting = some value) : x.Supplies origin setting value := by
  cases origin with
  | builtin => exact Option.some.inj h ▸ .default setting
  | file =>
    cases setting with
    | dryRun =>
      obtain ⟨raw, hraw, h⟩ := Option.bind_eq_some_iff.mp h
      obtain ⟨b, hb, rfl⟩ := Option.map_eq_some_iff.mp h
      exact .dryRunEntry hraw (truthOf?_eq_some_iff.mp hb)
    | _ => exact .entry h (by decide)
  | environment =>
    cases setting with
    | dryRun =>
      obtain ⟨raw, hraw, h⟩ := Option.bind_eq_some_iff.mp h
      obtain ⟨b, hb, rfl⟩ := Option.map_eq_some_iff.mp h
      exact .dryRunVariable hraw (truthOf?_eq_some_iff.mp hb)
    | backupSuffix =>
      obtain ⟨text, htext, rfl⟩ := Option.map_eq_some_iff.mp h
      obtain ⟨hget, hset⟩ := nonempty?_eq_some_iff.mp htext
      exact .suffixVariable hget hset
    | logLevel =>
      obtain ⟨text, htext, rfl⟩ := Option.map_eq_some_iff.mp h
      obtain ⟨hget, hset⟩ := nonempty?_eq_some_iff.mp htext
      exact .levelVariable hget hset
    | _ => cases h
  | explicit =>
    obtain ⟨hget, hset⟩ := (lookup_explicit x.distinct).mp h
    exact .given hget hset

/-- The value from the highest layer, as a function. -/
def chosen (setting : Setting) : Value :=
  (((x.supplied? .explicit setting).or (x.supplied? .environment setting)).or
    (x.supplied? .file setting)).getD (defaults setting)

theorem chosen_of_supplied? {x : Sources} {origin : Origin} {setting : Setting} {value : Value}
    (h : x.supplied? origin setting = some value)
    (hhigher : ∀ other : Origin, origin.rank < other.rank → x.supplied? other setting = none) :
    x.Chosen setting value := by
  refine ⟨origin, supplies_of_supplied? h, fun other value' hother => ?_⟩
  by_cases hrank : other.rank ≤ origin.rank
  · exact hrank
  · have hnone := hhigher other (Nat.lt_of_not_le hrank)
    rw [hother.supplied?] at hnone
    cases hnone

theorem Chosen.unique {x : Sources} {setting : Setting} {value value' : Value}
    (h : x.Chosen setting value) (h' : x.Chosen setting value') : value = value' := by
  obtain ⟨origin, hsupplies, hhighest⟩ := h
  obtain ⟨origin', hsupplies', hhighest'⟩ := h'
  have hrank : origin.rank = origin'.rank :=
    Nat.le_antisymm (hhighest' _ _ hsupplies) (hhighest _ _ hsupplies')
  obtain rfl := Origin.rank_injective hrank
  exact Option.some.inj (hsupplies.supplied?.symm.trans hsupplies'.supplied?)

/-- **The highest layer counts.** -/
theorem chosen_iff {x : Sources} {setting : Setting} {value : Value} :
    x.Chosen setting value ↔ value = x.chosen setting := by
  -- from the top down, to the first layer that supplies a value
  have hchosen : x.Chosen setting (x.chosen setting) := by
    unfold chosen
    cases hexplicit : x.supplied? .explicit setting with
    | some v =>
      refine chosen_of_supplied? hexplicit fun other hrank => ?_
      cases other with
      | _ => exact absurd hrank (by decide)
    | none =>
      cases henvironment : x.supplied? .environment setting with
      | some v =>
        refine chosen_of_supplied? henvironment fun other hrank => ?_
        cases other with
        | explicit => exact hexplicit
        | _ => exact absurd hrank (by decide)
      | none =>
        cases hfile : x.supplied? .file setting with
        | some v =>
          refine chosen_of_supplied? hfile fun other hrank => ?_
          cases other with
          | explicit => exact hexplicit
          | environment => exact henvironment
          | _ => exact absurd hrank (by decide)
        | none =>
          have hbuiltin : x.supplied? .builtin setting = some (defaults setting) := rfl
          refine chosen_of_supplied? hbuiltin fun other hrank => ?_
          cases other with
          | explicit => exact hexplicit
          | environment => exact henvironment
          | file => exact hfile
          | builtin => exact absurd hrank (by decide)
  constructor
  · intro h
    exact h.unique hchosen
  · intro h
    exact h ▸ hchosen

/-- The dry run that is read from the file. -/
def dryRunInFile : Bool :=
  ((x.entries.lookup .dryRun).bind fun value => truthOf? value.words).getD false

/-- The dry run that is read from the environment, over that of the file. -/
def dryRunInEnvironment : Bool :=
  ((x.env.get? Settings.dryRunVariable).bind truthOf?).getD x.dryRunInFile

theorem getD_bind_map_bool {α : Type} (o : Option α) (f : α → Option Bool) (before : Bool) :
    (o.bind fun a => (f a).map Value.bool).getD (.bool before) =
      .bool ((o.bind f).getD before) := by
  cases o with
  | none => rfl
  | some a =>
    rw [Option.bind_some, Option.bind_some]
    cases f a with
    | none => rfl
    | some b => rfl

/-- Laying the layers over each other gives the values of the highest ones. -/
theorem withLayer_eq_chosen :
    ((defaults.withLayer (fileLayer x.entries x.dryRunInFile)).withLayer
      (environmentLayer x.env x.dryRunInEnvironment)).withLayer
        (fun setting => (explicit x.given).lookup setting.key) = x.chosen := by
  funext setting
  -- only the dry run is read before its layer is laid; the other settings are laid as they are
  unfold chosen withLayer
  rw [Option.getD_or, Option.getD_or]
  refine congrArg _ ?_
  cases setting with
  | dryRun =>
    show Value.bool x.dryRunInEnvironment = _
    unfold dryRunInEnvironment dryRunInFile
    rw [supplied?, supplied?, defaults, getD_bind_map_bool, getD_bind_map_bool]
  | _ => rfl

/-! ## All layers -/

theorem layerOf_explicit :
    layerOf (explicit x.given) = .ok fun setting => (explicit x.given).lookup setting.key := by
  refine if_pos (List.all_eq_true.mpr fun entry hentry => ?_)
  exact List.all_eq_true.mp x.known entry (List.mem_filter.mp hentry).1

/-- What is read of the environment. -/
theorem readTruth_environment (before : Bool) :
    (readTruth (((x.env.get? Settings.dryRunVariable).map .text).getD .null) before).result =
      .ok (((x.env.get? Settings.dryRunVariable).bind truthOf?).getD before) := by
  cases x.env.get? Settings.dryRunVariable with
  | none => rfl
  | some text =>
    rw [Option.map_some, Option.getD_some, Option.bind_some, readTruth_result rfl, Value.words]

/-- What comes of the layers over the file, if its dry run was read. -/
theorem above_file_result :
    (do
      let inEnvironment ← readTruth
        (((x.env.get? Settings.dryRunVariable).map Value.text).getD .null) x.dryRunInFile
      let explicitly ← Attempt.ofExcept (layerOf (explicit x.given))
      Attempt.ofExcept (validate (((defaults.withLayer
        (fileLayer x.entries x.dryRunInFile)).withLayer
          (environmentLayer x.env inEnvironment)).withLayer explicitly))).result =
      validate x.chosen := by
  rw [Attempt.bind_result_of_ok (x.readTruth_environment _), layerOf_explicit,
    Attempt.ofExcept_bind_result, Attempt.ofExcept_result, ← x.withLayer_eq_chosen,
    dryRunInEnvironment]

/-- **What comes of all layers** is checked as a whole. -/
theorem combine_result (h : ¬ x.IsUnwritable) :
    (combine x.entries x.env x.given).result = validate x.chosen := by
  have habove := x.above_file_result
  unfold combine
  cases hvalue : x.entries.lookup .dryRun with
  | none =>
    have hinFile : x.dryRunInFile = false := by
      rw [dryRunInFile, hvalue, Option.bind_none, Option.getD_none]
    have hpure : (pure false : Attempt Bool).result = .ok false := rfl
    rw [hinFile] at habove
    simp only
    rw [Attempt.bind_result_of_ok hpure]
    exact habove
  | some value =>
    have hwritable : value.holdsLong = false := by
      by_cases hlong : value.holdsLong = true
      · exact absurd ⟨value, hvalue, hlong⟩ h
      · exact Bool.eq_false_iff.mpr hlong
    have hinFile : (truthOf? value.words).getD false = x.dryRunInFile := by
      rw [dryRunInFile, hvalue, Option.bind_some]
    obtain ⟨text, htext, hletters, hwords⟩ := toText_eq hwritable
    simp only
    rw [htext, Attempt.ofExcept_bind_result,
      Attempt.bind_result_of_ok (readTruth_result hletters false), hwords, hinFile]
    exact habove

theorem combine_result_unwritable (h : x.IsUnwritable) :
    (combine x.entries x.env x.given).result = .error (.invalid (.tooManyDigits none)) := by
  obtain ⟨value, hvalue, hlong⟩ := h
  unfold combine
  rw [hvalue]
  simp only
  rw [toText_long hlong]
  rfl

end Sources

/-! ## Checks -/

theorem startsWith_dot_iff {s : String} : s.startsWith "." = true ↔ s.toList.head? = some '.' := by
  rw [String.startsWith_string_iff]
  show ['.'] <+: s.toList ↔ _
  cases s.toList with
  | nil => simp
  | cons c rest => simp [eq_comm]

theorem head?_ofChars {cs : List Char} :
    (Letters.ofChars cs).head? = some (.char '.') ↔ cs.head? = some '.' := by
  cases cs with
  | nil => simp [Letters.ofChars]
  | cons c rest => simp [Letters.ofChars]

theorem isChar_eq_false {letters : Letters} (h : letters.head? ≠ some (.char '.')) :
    letters.head?.any (·.isChar '.') = false := by
  cases hhead : letters.head? with
  | none => rfl
  | some letter =>
    rw [hhead] at h
    exact beq_false_of_ne fun heq => h (congrArg some heq)

theorem Dotted.dotted_eq {value value' : Value} (h : Dotted value value') :
    dotted value = .ok value' := by
  cases h with
  | kept h hdot =>
    cases value with
    | text s =>
      obtain rfl := Option.some.inj h
      rw [dotted, if_pos (startsWith_dot_iff.mpr (head?_ofChars.mp hdot))]
    | unpaired letters =>
      obtain rfl := Option.some.inj h
      rw [dotted, hdot]
      rfl
    | _ => cases h
  | text h => rw [dotted, if_neg (mt startsWith_dot_iff.mp h)]
  | unpaired h =>
    rw [dotted, isChar_eq_false h]
    rfl

/-- Every text can get its dot. -/
theorem exists_dotted {value : Value} (h : value.letters?.isSome = true) :
    ∃ value', Dotted value value' := by
  cases value with
  | text s =>
    by_cases hdot : s.toList.head? = some '.'
    · exact ⟨_, .kept rfl (head?_ofChars.mpr hdot)⟩
    · exact ⟨_, .text hdot⟩
  | unpaired letters =>
    by_cases hdot : letters.head? = some (.char '.')
    · exact ⟨_, .kept rfl hdot⟩
    · exact ⟨_, .unpaired hdot⟩
  | _ => cases h

/-- What is no text is refused, but not as a wrong value. -/
theorem dotted_of_no_letters {value : Value} (h : value.letters?.isSome = false) :
    dotted value = .error .wrongType ∨ dotted value = .error .noSuchAttribute := by
  cases value with
  | text s => cases h
  | unpaired letters => cases h
  | binary bytes => exact Or.inl rfl
  | _ => exact Or.inr rfl

/-- A dot is put before texts, and it stands there afterwards. -/
theorem Dotted.letters? {value value' : Value} (h : Dotted value value') :
    value.letters?.isSome = true ∧ ∃ rest, value'.letters? = some (.char '.' :: rest) := by
  cases h with
  | kept h hdot =>
    obtain ⟨rest, hrest⟩ := List.head?_eq_some_iff.mp hdot
    rw [h, hrest]
    exact ⟨rfl, rest, rfl⟩
  | @text s h =>
    refine ⟨rfl, Letters.ofChars s.toList, ?_⟩
    show some (Letters.ofChars ("." ++ s).toList) = _
    rw [String.toList_append]
    rfl
  | unpaired h => exact ⟨rfl, _, rfl⟩

variable {settings final : Settings}

theorem validate_of_dotted {extension : Value} (h : Dotted (settings .extension) extension) :
    validate settings =
      if (settings .backupSuffix).isFalsy then .error (.invalid .emptyBackupSuffix)
      else .ok (settings.change .extension extension) := by
  unfold validate
  rw [h.dotted_eq]
  rfl

theorem validate_of_no_letters (h : (settings .extension).letters?.isSome = false) :
    validate settings = .error .wrongType ∨ validate settings = .error .noSuchAttribute := by
  unfold validate
  obtain hdotted | hdotted := dotted_of_no_letters h
  · rw [hdotted]
    exact Or.inl rfl
  · rw [hdotted]
    exact Or.inr rfl

/-- Settings that pass the checks. -/
theorem validate_ok_iff :
    validate settings = .ok final ↔ (∃ extension, Dotted (settings .extension) extension ∧
      final = settings.change .extension extension) ∧ (settings .backupSuffix).isFalsy = false := by
  constructor
  · intro h
    cases hletters : (settings .extension).letters?.isSome with
    | true =>
      obtain ⟨extension, hdotted⟩ := exists_dotted hletters
      rw [validate_of_dotted hdotted] at h
      by_cases hsuffix : (settings .backupSuffix).isFalsy = true
      · rw [if_pos hsuffix] at h
        cases h
      · rw [if_neg hsuffix] at h
        exact ⟨⟨extension, hdotted, (Except.ok.inj h).symm⟩, Bool.eq_false_iff.mpr hsuffix⟩
    | false =>
      obtain herror | herror := validate_of_no_letters hletters
      · cases h.symm.trans herror
      · cases h.symm.trans herror
  · intro h
    obtain ⟨⟨extension, hdotted, rfl⟩, hsuffix⟩ := h
    rw [validate_of_dotted hdotted, hsuffix]
    rfl

/-- Settings with a wrong value: only the suffix is refused as one, and it is looked at last. -/
theorem validate_invalid_iff :
    (∃ why, validate settings = .error (.invalid why)) ↔
      (settings .extension).letters?.isSome = true ∧ (settings .backupSuffix).isFalsy = true := by
  cases hletters : (settings .extension).letters?.isSome with
  | true =>
    obtain ⟨extension, hdotted⟩ := exists_dotted hletters
    rw [validate_of_dotted hdotted]
    by_cases hsuffix : (settings .backupSuffix).isFalsy = true
    · simp [hsuffix]
    · simp [hsuffix]
  | false =>
    obtain herror | herror := validate_of_no_letters hletters
    · simp [herror]
    · simp [herror]

theorem change_same (setting : Setting) (value : Value) :
    settings.change setting value setting = value := if_pos rfl

theorem change_other {setting other : Setting} (h : other ≠ setting) (value : Value) :
    settings.change setting value other = settings other := if_neg h

namespace Sources

variable {x : Sources}

/-- **What comes of all layers** has each value from the highest layer that supplies one. -/
theorem combine_ok_iff :
    (combine x.entries x.env x.given).result = .ok settings ↔ x.Configured settings := by
  constructor
  · intro h
    have hwritable : ¬ x.IsUnwritable := by
      intro hlong
      rw [x.combine_result_unwritable hlong] at h
      cases h
    rw [x.combine_result hwritable] at h
    obtain ⟨⟨extension, hdotted, rfl⟩, hsuffix⟩ := validate_ok_iff.mp h
    refine ⟨hwritable, fun setting hother => ?_, ⟨x.chosen .extension, chosen_iff.mpr rfl, ?_⟩, ?_⟩
    · exact chosen_iff.mpr (change_other hother extension)
    · rw [change_same]
      exact hdotted
    · rw [change_other (by decide)]
      exact hsuffix
  · intro h
    obtain ⟨value, hvalue, hdotted⟩ := h.extension
    rw [chosen_iff.mp hvalue] at hdotted
    have hsuffix := chosen_iff.mp (h.chosen .backupSuffix (by decide))
    rw [x.combine_result h.writable]
    refine validate_ok_iff.mpr ⟨⟨settings .extension, hdotted, ?_⟩, hsuffix ▸ h.suffix⟩
    funext setting
    by_cases hother : setting = .extension
    · rw [hother, change_same]
    · rw [change_other hother]
      exact chosen_iff.mp (h.chosen setting hother)

/-- When layers are refused for a wrong value. -/
theorem combine_invalid_iff :
    (∃ why, (combine x.entries x.env x.given).result = .error (.invalid why)) ↔
      x.IsUnwritable ∨ (∃ value, x.Chosen .extension value ∧ value.letters?.isSome = true) ∧
        ∃ value, x.Chosen .backupSuffix value ∧ value.isFalsy = true := by
  simp only [chosen_iff, exists_eq_left]
  by_cases hlong : x.IsUnwritable
  · simp [hlong, x.combine_result_unwritable hlong]
  · rw [x.combine_result hlong, validate_invalid_iff]
    simp [hlong]

end Sources

/-- The entries of the settings file, if one is named. -/
def entriesFrom (reader : Reader) (s : FileStore) (path : Option String) : Except Error Entries :=
  match path.filter (!·.isEmpty) with
  | some path => entriesWith reader s path
  | none => .ok []

theorem loadWith_eq_combine {reader : Reader} {s : FileStore} {path : Option String}
    {entries : Entries} (h : entriesFrom reader s path = .ok entries) (env : Environment)
    (given : List (String × Value)) :
    loadWith reader s path env given = combine entries env given := by
  unfold entriesFrom at h
  unfold loadWith
  cases hpath : path.filter (!·.isEmpty) with
  | none =>
    rw [hpath] at h
    obtain rfl := Except.ok.inj h
    rfl
  | some name =>
    rw [hpath] at h
    simp only at h ⊢
    rw [h]
    rfl

/-- **Each setting comes from the highest layer that supplies it.** -/
theorem settings_from_highest_layer (x : Sources) :
    (∀ settings, (combine x.entries x.env x.given).result = .ok settings ↔ x.Configured settings) ∧
    (∀ settings, x.Configured settings →
      ∃ rest, (settings .extension).letters? = some (.char '.' :: rest)) ∧
    ((∃ why, (combine x.entries x.env x.given).result = .error (.invalid why)) ↔
      x.IsUnwritable ∨ (∃ value, x.Chosen .extension value ∧ value.letters?.isSome = true) ∧
        ∃ value, x.Chosen .backupSuffix value ∧ value.isFalsy = true) ∧
    ∀ reader s path, entriesFrom reader s path = .ok x.entries →
      loadWith reader s path x.env x.given = combine x.entries x.env x.given := by
  refine ⟨fun settings => Sources.combine_ok_iff, fun settings h => ?_, Sources.combine_invalid_iff,
    fun reader s path h => loadWith_eq_combine h x.env x.given⟩
  obtain ⟨value, -, hdotted⟩ := h.extension
  exact hdotted.letters?.2

/-- A word in the environment that stands for nothing, over one in the file that does; a suffix that
is set to nothing; and null given over an entry. -/
def Sources.sample : Sources where
  entries := [(.dryRun, .text "On "), (.publicDir, .text "Api"), (.extension, .text "psx"),
    (.backupSuffix, .text ".old"), (.logLevel, .int 10)]
  env := [(dryRunVariable, "perhaps"), (suffixVariable, ""), (levelVariable, "DEBUG")]
  given := [("public_dir", .null), ("private_dir", .text "Internal")]
  known := by decide
  distinct := by decide

theorem settings_from_highest_layer_sample :
    ∃ settings, Sources.sample.Configured settings ∧
      Setting.all.map (fun setting => (settings setting).words) =
        ["True", "Api", "Internal", ".psx", ".old", "DEBUG"] := by
  obtain ⟨settings, hresult, hwords⟩ := exists_ok_of_any
    (x := (combine Sources.sample.entries Sources.sample.env Sources.sample.given).result)
    (p := fun settings => Setting.all.map (fun setting => (settings setting).words) ==
      ["True", "Api", "Internal", ".psx", ".old", "DEBUG"]) (by decide +kernel)
  exact ⟨settings, ((settings_from_highest_layer Sources.sample).1 settings).mp hresult,
    beq_iff_eq.mp hwords⟩

/-- A file with zero for the suffix of backups. -/
def Sources.zeroSuffix : Sources where
  entries := [(.backupSuffix, .int 0)]
  env := []
  given := []
  known := rfl
  distinct := List.nodup_nil

/-- **Zero counts as no suffix**, though it is neither null nor an empty text. -/
theorem zero_suffix_refused :
    Sources.zeroSuffix.Chosen .backupSuffix (.int 0) ∧ Value.int 0 ≠ .null ∧
    Value.int 0 ≠ .text "" ∧
    (combine Sources.zeroSuffix.entries Sources.zeroSuffix.env Sources.zeroSuffix.given).result =
      .error (.invalid .emptyBackupSuffix) := by
  refine ⟨Sources.chosen_iff.mpr rfl, ?_, ?_, rfl⟩
  · intro h
    cases h
  · intro h
    cases h

end Unbundle.Settings
