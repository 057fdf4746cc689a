import Unbundle.Plan

/-!
# First come, first claimed

A plan decides about one callable after the other (`planFrom_cons`). What it carries along are the
names that are claimed, and these are the stems, in lower case, of the earlier callables that can
have a file at all (`Claims.after`); whether such a callable was itself skipped does not matter. So
the outcome of a callable depends on its stem, on the callables before it and on the file at its
target, in this order (`plan_first_come`).
-/

namespace Unbundle

namespace Callable

/-- A stem that cannot name a file: it is empty, it names a directory, or it has a character that no
file name may have. -/
def Unusable (stem : String) : Prop :=
  stem = "" ∨ stem = "." ∨ stem = ".." ∨
    ∃ ch ∈ stem.toList, ch ∈ ['<', '>', ':', '"', '/', '\\', '|', '?', '*'] ∨ ch.toNat < 0x20

/-- A callable with a usable stem that comes before `c` has the same stem, case apart. -/
def Taken (earlier : List Callable) (c : Callable) : Prop :=
  ∃ d ∈ earlier, ¬ Unusable d.stem ∧ Text.lower d.stem = Text.lower c.stem

theorem validStem_eq_false_iff {stem : String} : validStem stem = false ↔ Unusable stem := by
  have hbarred : stem.toList.any isBarredChar = true ↔ ∃ ch ∈ stem.toList,
      ch ∈ ['<', '>', ':', '"', '/', '\\', '|', '?', '*'] ∨ ch.toNat < 0x20 := by
    rw [List.any_eq_true]
    refine exists_congr fun ch => and_congr_right fun _ => ?_
    rw [isBarredChar, Bool.or_eq_true, decide_eq_true_eq, List.contains_iff_mem]
    exact Or.comm
  rw [Unusable, ← hbarred]
  simp only [validStem, Bool.and_eq_false_iff, bne_eq_false_iff_eq, Bool.not_eq_false', or_assoc]

theorem validStem_iff {stem : String} : validStem stem = true ↔ ¬ Unusable stem := by
  rw [← validStem_eq_false_iff, Bool.not_eq_false]

/-! ## One callable -/

/-- What is decided about a callable when the names in `claimed` are taken. -/
def outcome (directory : Path) (extension : String) (present : Path → Bool)
    (claimed : List String) (c : Callable) : Outcome :=
  if !validStem c.stem then .skip c .invalidName none
  else if claimed.contains c.claim then .skip c .duplicateName (c.target directory extension)
  else if present (c.target directory extension) then
    .skip c .alreadyExists (c.target directory extension)
  else .write c (c.target directory extension)

/-- The names that are taken after a callable. -/
def claimedAfter (claimed : List String) (c : Callable) : List String :=
  if validStem c.stem && !claimed.contains c.claim then c.claim :: claimed else claimed

end Callable

/-- **A plan goes on** with what is claimed after its first callable. -/
theorem planFrom_cons (directory : Path) (extension : String) (present : Path → Bool)
    (claimed : List String) (c : Callable) (rest : List Callable) :
    planFrom directory extension present claimed (c :: rest) =
      c.outcome directory extension present claimed ::
        planFrom directory extension present (c.claimedAfter claimed) rest := by
  rw [planFrom, Callable.outcome, Callable.claimedAfter]
  by_cases hstem : Callable.validStem c.stem = true
  · by_cases hclaim : c.claim ∈ claimed
    · simp [hstem, hclaim]
    · simp [hstem, hclaim]
  · simp [hstem]

/-- The names in `claimed` are those of the callables before. -/
def Claims (earlier : List Callable) (claimed : List String) : Prop :=
  ∀ name, name ∈ claimed ↔
    ∃ d ∈ earlier, ¬ Callable.Unusable d.stem ∧ Text.lower d.stem = name

theorem Claims.nil : Claims [] [] := by
  intro name
  constructor
  · intro h
    exact absurd h List.not_mem_nil
  · rintro ⟨d, hd, -⟩
    exact absurd hd List.not_mem_nil

theorem Claims.contains_iff {earlier : List Callable} {claimed : List String}
    (h : Claims earlier claimed) (c : Callable) :
    claimed.contains c.claim = true ↔ c.Taken earlier := by
  rw [List.contains_iff_mem]
  exact h c.claim

/-- **One more callable.** Its name is claimed by then, unless its stem cannot name a file. -/
theorem Claims.after {earlier : List Callable} {claimed : List String} (h : Claims earlier claimed)
    (c : Callable) : Claims (earlier ++ [c]) (c.claimedAfter claimed) := by
  intro name
  -- the names after `c` are the ones before, and that of `c` if it can have a file
  have hafter : name ∈ c.claimedAfter claimed ↔
      name ∈ claimed ∨ ¬ Callable.Unusable c.stem ∧ c.claim = name := by
    rw [← Callable.validStem_iff]
    by_cases hstem : Callable.validStem c.stem = true
    · by_cases hclaim : c.claim ∈ claimed
      · rw [Callable.claimedAfter, if_neg (by simp [hclaim])]
        constructor
        · exact Or.inl
        · rintro (hmem | ⟨-, rfl⟩)
          · exact hmem
          · exact hclaim
      · rw [Callable.claimedAfter, if_pos (by simp [hstem, hclaim]), List.mem_cons]
        constructor
        · rintro (rfl | hmem)
          · exact Or.inr ⟨hstem, rfl⟩
          · exact Or.inl hmem
        · rintro (hmem | ⟨-, rfl⟩)
          · exact Or.inr hmem
          · exact Or.inl rfl
    · rw [Callable.claimedAfter, if_neg (by simp [hstem])]
      constructor
      · exact Or.inl
      · rintro (hmem | ⟨hstem', -⟩)
        · exact hmem
        · exact absurd hstem' hstem
  rw [hafter, h name]
  constructor
  · rintro (⟨d, hd, hname⟩ | hname)
    · exact ⟨d, List.mem_append_left _ hd, hname⟩
    · exact ⟨c, List.mem_append_right _ (List.mem_singleton_self c), hname⟩
  · rintro ⟨d, hd, hname⟩
    rcases List.mem_append.mp hd with hd | hd
    · exact Or.inl ⟨d, hd, hname⟩
    · rw [List.mem_singleton.mp hd] at hname
      exact Or.inr hname

/-! ## All callables -/

/-- What a plan says about a callable `c` that comes after `earlier` ones, case by case. -/
structure Verdict (directory : Path) (extension : String) (present : Path → Bool)
    (earlier : List Callable) (c : Callable) (o : Outcome) : Prop where
  callable : o.callable = c
  invalidName : o = .skip c .invalidName none ↔ Callable.Unusable c.stem
  duplicateName : o = .skip c .duplicateName (c.target directory extension) ↔
    ¬ Callable.Unusable c.stem ∧ c.Taken earlier
  alreadyExists : o = .skip c .alreadyExists (c.target directory extension) ↔
    ¬ Callable.Unusable c.stem ∧ ¬ c.Taken earlier ∧
      present (c.target directory extension) = true
  write : o = .write c (c.target directory extension) ↔
    ¬ Callable.Unusable c.stem ∧ ¬ c.Taken earlier ∧
      present (c.target directory extension) = false

theorem Claims.verdict {earlier : List Callable} {claimed : List String}
    (h : Claims earlier claimed) (directory : Path) (extension : String)
    (present : Path → Bool) (c : Callable) :
    Verdict directory extension present earlier c
      (c.outcome directory extension present claimed) := by
  have htaken := h.contains_iff c
  by_cases hstem : Callable.Unusable c.stem
  · have houtcome : c.outcome directory extension present claimed =
        .skip c .invalidName none := by
      rw [Callable.outcome, if_pos (by rw [Callable.validStem_eq_false_iff.mpr hstem]; rfl)]
    rw [houtcome]
    constructor <;> simp [hstem, Outcome.skip, Outcome.write]
  · have hvalid := Callable.validStem_iff.mpr hstem
    by_cases hclaim : c.Taken earlier
    · have houtcome : c.outcome directory extension present claimed =
          .skip c .duplicateName (c.target directory extension) := by
        rw [Callable.outcome, if_neg (by simp [hvalid]), if_pos (htaken.mpr hclaim)]
      rw [houtcome]
      constructor <;> simp [hstem, hclaim, Outcome.skip, Outcome.write]
    · have hfree : ¬ claimed.contains c.claim = true := fun hmem => hclaim (htaken.mp hmem)
      by_cases hfile : present (c.target directory extension) = true
      · have houtcome : c.outcome directory extension present claimed =
            .skip c .alreadyExists (c.target directory extension) := by
          rw [Callable.outcome, if_neg (by simp [hvalid]), if_neg hfree, if_pos hfile]
        rw [houtcome]
        constructor <;> simp [hstem, hclaim, hfile, Outcome.skip, Outcome.write]
      · have houtcome : c.outcome directory extension present claimed =
            .write c (c.target directory extension) := by
          rw [Callable.outcome, if_neg (by simp [hvalid]), if_neg hfree, if_neg hfile]
        rw [houtcome]
        constructor <;> simp [hstem, hclaim, hfile, Outcome.skip, Outcome.write]

/-- **The outcomes of a plan** are those of its callables, each after the ones before it. -/
theorem planFrom_verdict (directory : Path) (extension : String) (present : Path → Bool)
    (callables : List Callable) :
    ∀ {earlier : List Callable} {claimed : List String}, Claims earlier claimed →
      (planFrom directory extension present claimed callables).length = callables.length ∧
      ∀ (i : Nat) (c : Callable), callables[i]? = some c →
        ∃ o, (planFrom directory extension present claimed callables)[i]? = some o ∧
          Verdict directory extension present (earlier ++ callables.take i) c o := by
  induction callables with
  | nil =>
    intro earlier claimed _
    exact ⟨rfl, fun i c hc => nomatch hc⟩
  | cons first rest ih =>
    intro earlier claimed h
    obtain ⟨hlength, hrest⟩ := ih (h.after first)
    rw [planFrom_cons]
    refine ⟨by rw [List.length_cons, List.length_cons, hlength], ?_⟩
    intro i c hc
    cases i with
    | zero =>
      rw [List.getElem?_cons_zero] at hc ⊢
      obtain rfl := Option.some.inj hc
      rw [List.take_zero, List.append_nil]
      exact ⟨_, rfl, h.verdict directory extension present first⟩
    | succ i =>
      rw [List.getElem?_cons_succ] at hc ⊢
      obtain ⟨o, ho, hverdict⟩ := hrest i c hc
      rw [List.append_assoc, List.singleton_append] at hverdict
      exact ⟨o, ho, hverdict⟩

/-- **First come, first claimed.** A plan has one outcome for each callable, in their order. A
callable is skipped if its stem cannot name a file; otherwise if an earlier callable, written or
not, has the same stem, case apart; otherwise if its file is there; and otherwise it is written to
its file. -/
theorem plan_first_come (callables : List Callable) (directory : Path) (extension : String)
    (present : Path → Bool) :
    (Plan.make callables directory extension present).outcomes.length = callables.length ∧
    ∀ (i : Nat) (c : Callable), callables[i]? = some c →
      ∃ o, (Plan.make callables directory extension present).outcomes[i]? = some o ∧
        Verdict directory extension present (callables.take i) c o := by
  have hplan := planFrom_verdict directory extension present callables Claims.nil
  simp only [List.nil_append] at hplan
  exact hplan

/-- A claim holds although the file is there already, and it is about the name without a scope. -/
theorem plan_first_come_scoped :
    let callables : List Callable := [{ name := "Get-It" }, { name := "script:GET-IT" }]
    let directory : Path := .ofString "Public"
    let present : Path → Bool := fun p => p.toString == "Public/Get-It.ps1"
    (Plan.make callables directory ".ps1" present).outcomes[0]? =
        some (.skip { name := "Get-It" } .alreadyExists (some (.ofString "Public/Get-It.ps1"))) ∧
      (Plan.make callables directory ".ps1" present).outcomes[1]? =
        some (.skip { name := "script:GET-IT" } .duplicateName
          (some (.ofString "Public/GET-IT.ps1"))) := by
  intro callables directory present
  obtain ⟨-, hplan⟩ := plan_first_come callables directory ".ps1" present
  have hstem : ∀ c ∈ callables, ¬ Callable.Unusable c.stem := by
    intro c hc
    rw [← Callable.validStem_iff]
    have hall : ∀ c ∈ callables, Callable.validStem c.stem = true := by decide +kernel
    exact hall c hc
  obtain ⟨first, hfirst, hverdict⟩ := hplan 0 { name := "Get-It" } rfl
  obtain ⟨second, hsecond, hverdict'⟩ := hplan 1 { name := "script:GET-IT" } rfl
  constructor
  · rw [hfirst, hverdict.alreadyExists.mpr ⟨hstem _ (by simp [callables]), ?_, by decide +kernel⟩]
    · decide +kernel
    · rintro ⟨d, hd, -⟩
      exact absurd hd List.not_mem_nil
  · rw [hsecond, hverdict'.duplicateName.mpr ⟨hstem _ (by simp [callables]), ?_⟩]
    · decide +kernel
    · exact ⟨{ name := "Get-It" }, List.mem_singleton_self _, hstem _ (by simp [callables]),
        by decide +kernel⟩

end Unbundle
