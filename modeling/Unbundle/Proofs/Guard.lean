import Unbundle.Proofs.FirstCome

/-!
# The guard

One skip withholds the whole module. Which callables are skipped, and why, depends on their order;
whether any is skipped does not. A callable is written exactly if its stem can name a file, its name
is not claimed and nothing is at its target (`Callable.isSkip_outcome_iff`). Over a whole plan the
claims come to no more than that no two callables have one name (`planFrom_unblocked_iff`), so the
verdict is a condition on the callables as a collection, `Unblocked`. It holds of them in any order
(`Unblocked.perm`), and it is not met any sooner when there are more callables or more files
(`Unblocked.of_more`).
-/

namespace Unbundle

theorem Outcome.isWrite_eq_not_isSkip (o : Outcome) : o.isWrite = !o.isSkip := by
  unfold isWrite isSkip
  cases o.status <;> rfl

/-! ## One callable -/

namespace Callable

variable {directory : Path} {extension : String} {present : Path → Bool} {claimed : List String}
  {c : Callable}

/-- A callable is skipped for a reason, or it can have its file and is written to it. -/
theorem outcome_cases (directory : Path) (extension : String) (present : Path → Bool)
    (claimed : List String) (c : Callable) :
    (∃ reason path, c.outcome directory extension present claimed = .skip c reason path) ∨
      (validStem c.stem = true ∧ c.claim ∉ claimed ∧
        present (c.target directory extension) = false) ∧
      c.outcome directory extension present claimed = .write c (c.target directory extension) := by
  unfold outcome
  by_cases hstem : validStem c.stem = true
  · rw [if_neg (by simp [hstem])]
    by_cases hclaim : c.claim ∈ claimed
    · rw [if_pos (by simpa using hclaim)]
      exact Or.inl ⟨_, _, rfl⟩
    · rw [if_neg (by simpa using hclaim)]
      by_cases hfile : present (c.target directory extension) = true
      · rw [if_pos hfile]
        exact Or.inl ⟨_, _, rfl⟩
      · rw [if_neg hfile]
        exact Or.inr ⟨⟨hstem, hclaim, Bool.eq_false_iff.mpr hfile⟩, rfl⟩
  · rw [if_pos (by simp [hstem])]
    exact Or.inl ⟨_, _, rfl⟩

theorem outcome_callable (c : Callable) :
    (c.outcome directory extension present claimed).callable = c := by
  rcases outcome_cases directory extension present claimed c with ⟨reason, path, h⟩ | ⟨-, h⟩
  · rw [h]
    rfl
  · rw [h]
    rfl

/-- A callable is not skipped exactly if its stem can name a file, its name is not claimed and
nothing is at its target. -/
theorem isSkip_outcome_iff : (c.outcome directory extension present claimed).isSkip = false ↔
    validStem c.stem = true ∧ c.claim ∉ claimed ∧
      present (c.target directory extension) = false := by
  constructor
  · intro hskip
    rcases outcome_cases directory extension present claimed c with ⟨reason, path, h⟩ | ⟨h, -⟩
    · rw [h] at hskip
      exact nomatch hskip
    · exact h
  · intro h
    obtain ⟨hstem, hclaim, hfile⟩ := h
    unfold outcome
    rw [if_neg (by simp [hstem]), if_neg (by simpa using hclaim), if_neg (by simp [hfile])]
    rfl

/-- A callable that claims its name adds it to the names that are taken. -/
theorem claimedAfter_of_free (hstem : validStem c.stem = true) (hclaim : c.claim ∉ claimed) :
    c.claimedAfter claimed = c.claim :: claimed := by
  rw [claimedAfter, if_pos (by simp [hstem, hclaim])]

theorem subset_claimedAfter (claimed : List String) (c : Callable) :
    claimed ⊆ c.claimedAfter claimed := by
  intro name hname
  unfold claimedAfter
  split
  next => exact List.mem_cons_of_mem _ hname
  next => exact hname

end Callable

/-! ## All callables -/

/-- What is known of an outcome that is no skip: its callable can have its file while the names in
`claimed` are taken, and it is written to it. -/
structure Outcome.Written (directory : Path) (extension : String) (present : Path → Bool)
    (claimed : List String) (o : Outcome) : Prop where
  stem : Callable.validStem o.callable.stem = true
  unclaimed : o.callable.claim ∉ claimed
  absent : present (o.callable.target directory extension) = false
  eq : o = .write o.callable (o.callable.target directory extension)

section Written

variable {directory : Path} {extension : String} {present : Path → Bool}
  {callables : List Callable} {o : Outcome}

theorem planFrom_callables (directory : Path) (extension : String) (present : Path → Bool)
    (callables : List Callable) : ∀ claimed : List String,
      (planFrom directory extension present claimed callables).map (·.callable) = callables := by
  induction callables with
  | nil =>
    intro claimed
    rfl
  | cons c rest ih =>
    intro claimed
    rw [planFrom_cons, List.map_cons, Callable.outcome_callable, ih]

/-- An outcome of a plan is a skip for a reason, or a callable is written to its target. -/
theorem planFrom_cases : ∀ {claimed : List String},
    o ∈ planFrom directory extension present claimed callables →
      (∃ reason path, o = .skip o.callable reason path) ∨
        o = .write o.callable (o.callable.target directory extension) := by
  induction callables with
  | nil =>
    intro claimed ho
    exact absurd ho List.not_mem_nil
  | cons c rest ih =>
    intro claimed ho
    rw [planFrom_cons] at ho
    rcases List.mem_cons.mp ho with rfl | ho
    · rw [Callable.outcome_callable]
      exact (Callable.outcome_cases directory extension present claimed c).imp_right (·.2)
    · exact ih ho

theorem planFrom_written : ∀ {claimed : List String},
    o ∈ planFrom directory extension present claimed callables → o.isSkip = false →
      o.Written directory extension present claimed := by
  induction callables with
  | nil =>
    intro claimed ho
    exact absurd ho List.not_mem_nil
  | cons c rest ih =>
    intro claimed ho hskip
    rw [planFrom_cons] at ho
    rcases List.mem_cons.mp ho with rfl | ho
    · rcases Callable.outcome_cases directory extension present claimed c with
        ⟨reason, path, h⟩ | ⟨⟨hstem, hclaim, hfile⟩, h⟩
      · rw [h] at hskip
        exact nomatch hskip
      · rw [h]
        exact ⟨hstem, hclaim, hfile, rfl⟩
    · -- the names that are taken by then include those in `claimed`
      have hlater := ih ho hskip
      refine ⟨hlater.stem, ?_, hlater.absent, hlater.eq⟩
      exact fun hmem => hlater.unclaimed (c.subset_claimedAfter claimed hmem)

/-- **No two callables that are written have one name**, whatever is skipped between them: the first
of them has claimed it. -/
theorem planFrom_apart : ∀ claimed : List String,
    (planFrom directory extension present claimed callables).Pairwise fun o o' =>
      o.isSkip = false → o'.isSkip = false → o.callable.claim ≠ o'.callable.claim := by
  induction callables with
  | nil =>
    intro claimed
    exact .nil
  | cons c rest ih =>
    intro claimed
    rw [planFrom_cons, List.pairwise_cons]
    refine ⟨?_, ih _⟩
    intro o ho hskip hskip' heq
    obtain ⟨hstem, hclaim, -⟩ := Callable.isSkip_outcome_iff.mp hskip
    have hlater := (planFrom_written ho hskip').unclaimed
    rw [Callable.claimedAfter_of_free hstem hclaim] at hlater
    rw [Callable.outcome_callable] at heq
    exact hlater (List.mem_cons.mpr (Or.inl heq.symm))

end Written

/-! ## The verdict -/

/-- **Nothing is skipped** exactly if every stem can name a file, the names are different from each
other and from those in `claimed`, and nothing is at the targets. -/
theorem planFrom_unblocked_iff (directory : Path) (extension : String) (present : Path → Bool)
    (callables : List Callable) : ∀ claimed : List String,
      (planFrom directory extension present claimed callables).any (·.isSkip) = false ↔
        (∀ c ∈ callables, Callable.validStem c.stem = true) ∧
        callables.Pairwise (fun c d => c.claim ≠ d.claim) ∧
        (∀ c ∈ callables, c.claim ∉ claimed) ∧
        ∀ c ∈ callables, present (c.target directory extension) = false := by
  induction callables with
  | nil =>
    intro claimed
    simp [planFrom]
  | cons c rest ih =>
    intro claimed
    rw [planFrom_cons, List.any_cons, Bool.or_eq_false_iff, Callable.isSkip_outcome_iff, ih,
      List.pairwise_cons]
    simp only [List.forall_mem_cons]
    constructor
    · intro h
      obtain ⟨⟨hstem, hclaim, hfile⟩, hstems, happart, hclaims, hfiles⟩ := h
      rw [Callable.claimedAfter_of_free hstem hclaim] at hclaims
      refine ⟨⟨hstem, hstems⟩, ⟨?_, happart⟩, ⟨hclaim, ?_⟩, hfile, hfiles⟩
      · intro d hd heq
        exact hclaims d hd (List.mem_cons.mpr (Or.inl heq.symm))
      · intro d hd hmem
        exact hclaims d hd (List.mem_cons_of_mem _ hmem)
    · intro h
      obtain ⟨⟨hstem, hstems⟩, ⟨hfirst, happart⟩, ⟨hclaim, hclaims⟩, hfile, hfiles⟩ := h
      refine ⟨⟨hstem, hclaim, hfile⟩, hstems, happart, ?_, hfiles⟩
      rw [Callable.claimedAfter_of_free hstem hclaim]
      intro d hd hmem
      rcases List.mem_cons.mp hmem with heq | hmem
      · exact hfirst d hd heq.symm
      · exact hclaims d hd hmem

/-- Callables that can all have files of their own: every stem can name a file, no two stems are the
same, case apart, and nothing is at the targets. -/
structure Unblocked (directory : Path) (extension : String) (present : Path → Bool)
    (callables : List Callable) : Prop where
  stems : ∀ c ∈ callables, ¬ Callable.Unusable c.stem
  apart : callables.Pairwise fun c d => Text.lower c.stem ≠ Text.lower d.stem
  free : ∀ c ∈ callables, present (c.target directory extension) = false

section Verdicts

variable {directory : Path} {extension : String} {present : Path → Bool}
  {callables others : List Callable}

theorem anySkip_eq_false_iff : (Plan.make callables directory extension present).anySkip = false ↔
    Unblocked directory extension present callables := by
  rw [Plan.anySkip, Plan.make, planFrom_unblocked_iff directory extension present callables []]
  simp only [Callable.validStem_iff]
  constructor
  · intro h
    exact ⟨h.1, h.2.1, h.2.2.2⟩
  · intro h
    exact ⟨h.stems, h.apart, fun c _ => List.not_mem_nil, h.free⟩

theorem Unblocked.perm (h : Unblocked directory extension present callables)
    (hperm : others.Perm callables) : Unblocked directory extension present others where
  stems := fun c hc => h.stems c (hperm.mem_iff.mp hc)
  apart := (hperm.pairwise_iff fun hne => hne.symm).mpr h.apart
  free := fun c hc => h.free c (hperm.mem_iff.mp hc)

/-- What holds of more callables and of more files holds of some of them. -/
theorem Unblocked.of_more {more : List Callable} {present' : Path → Bool}
    (h : Unblocked directory extension present' (callables ++ more))
    (hpresent : ∀ p, present p = true → present' p = true) :
    Unblocked directory extension present callables where
  stems := fun c hc => h.stems c (List.mem_append_left _ hc)
  apart := (List.pairwise_append.mp h.apart).1
  free := by
    intro c hc
    have hfree := h.free c (List.mem_append_left _ hc)
    rw [Bool.eq_false_iff] at hfree ⊢
    exact fun hfile => hfree (hpresent _ hfile)

end Verdicts

/-- **The guard's verdict.** A plan has no skip exactly if all its callables can have files of their
own. So the verdict is the same for the callables in any order, and what is blocked stays blocked
when callables are added, wherever they stand, and when more files are there. -/
theorem guard_verdict (callables : List Callable) (directory : Path) (extension : String)
    (present : Path → Bool) :
    ((Plan.make callables directory extension present).anySkip = false ↔
      Unblocked directory extension present callables) ∧
    (∀ others, others.Perm callables →
      (Plan.make others directory extension present).anySkip =
        (Plan.make callables directory extension present).anySkip) ∧
    ∀ added others present', others.Perm (callables ++ added) →
      (∀ p, present p = true → present' p = true) →
      (Plan.make callables directory extension present).anySkip = true →
      (Plan.make others directory extension present').anySkip = true := by
  refine ⟨anySkip_eq_false_iff, ?_, ?_⟩
  · intro others hperm
    have hiff : (Plan.make others directory extension present).anySkip = false ↔
        (Plan.make callables directory extension present).anySkip = false := by
      rw [anySkip_eq_false_iff, anySkip_eq_false_iff]
      exact ⟨fun h => h.perm hperm.symm, fun h => h.perm hperm⟩
    rw [Bool.eq_iff_iff, ← Bool.not_eq_false, ← Bool.not_eq_false, hiff]
  · intro added others present' hperm hpresent hblocked
    rw [← Bool.not_eq_false, anySkip_eq_false_iff] at hblocked ⊢
    intro hmore
    exact hblocked ((hmore.perm hperm.symm).of_more hpresent)

/-- Two functions with one name, and a file that only one of them is meant for: the reasons change
with the order, the verdict does not, and it stays when another function and more files come. -/
theorem guard_verdict_swapped :
    let first : Callable := { name := "Get-It" }
    let second : Callable := { name := "script:GET-IT" }
    let directory : Path := .ofString "Public"
    let present : Path → Bool := fun p => p.toString == "Public/GET-IT.ps1"
    Unblocked directory ".ps1" present [first] ∧
      (Plan.make [first, second] directory ".ps1" present).outcomes.map (·.reason) =
        [none, some .duplicateName] ∧
      (Plan.make [second, first] directory ".ps1" present).outcomes.map (·.reason) =
        [some .alreadyExists, some .duplicateName] ∧
      (Plan.make [second, first] directory ".ps1" present).anySkip = true ∧
      (Plan.make [second, { name := "Set-It" }, first] directory ".ps1" fun _ => true).anySkip =
        true := by
  intro first second directory present
  obtain ⟨hiff, -, -⟩ := guard_verdict [first] directory ".ps1" present
  obtain ⟨-, hperm, hmore⟩ := guard_verdict [first, second] directory ".ps1" present
  have hblocked : (Plan.make [first, second] directory ".ps1" present).anySkip = true := by
    decide +kernel
  refine ⟨hiff.mp (by decide +kernel), by decide +kernel, by decide +kernel, ?_, ?_⟩
  · rw [hperm [second, first] (.swap first second []), hblocked]
  · refine hmore [{ name := "Set-It" }] _ _ ?_ (fun _ _ => rfl) hblocked
    decide +kernel

end Unbundle
