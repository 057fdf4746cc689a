import Unbundle.Proofs.BlankRows
import Unbundle.Proofs.Guard
import Unbundle.Proofs.Weave

/-!
# From a plan to the new module

A plan has one outcome for each callable, in their order (`planFrom_callables`). Without a skip
every outcome is a write to the callable's own target (`Plan.eq_write_of_mem`), so the assembly
takes out exactly the callables that were planned (`Assembly.ofPlan_ok`), and what it appends the
loader to has the words of the gaps without their old loader (`Assembly.apply_ok`). Once the
callables are out, only a tree can be missing (`Assembly.apply_ends`).
-/

namespace Unbundle

/-! ## Plans -/

namespace Plan

variable {plan : Plan}

theorem isSkip_of_mem (hskip : plan.anySkip = false) {o : Outcome} (ho : o ∈ plan.outcomes) :
    o.isSkip = false := by
  rw [anySkip, List.any_eq_false] at hskip
  exact Bool.eq_false_iff.mpr (hskip o ho)

/-- Without a skip everything is written. -/
theorem writes_eq (hskip : plan.anySkip = false) : plan.writes = plan.outcomes := by
  refine List.filter_eq_self.mpr fun o ho => ?_
  rw [Outcome.isWrite_eq_not_isSkip, isSkip_of_mem hskip ho]
  rfl

/-- Without a skip every callable has a valid stem and goes to its own target. -/
theorem eq_write_of_mem {callables : List Callable} {directory : Path} {extension : String}
    {present : Path → Bool} (hskip : (make callables directory extension present).anySkip = false)
    {o : Outcome} (ho : o ∈ (make callables directory extension present).outcomes) :
    Callable.validStem o.callable.stem = true ∧
      o = .write o.callable (o.callable.target directory extension) := by
  have hwritten := planFrom_written ho (isSkip_of_mem hskip ho)
  exact ⟨hwritten.stem, hwritten.eq⟩

end Plan

/-! ## Trees -/

namespace TreeSource

/-- A source that has a tree for every parse. -/
def always (parser : Nat → String → Node) : TreeSource :=
  fun k text => some (parser k text)

theorem parse_ok {source : TreeSource} {k : Nat} {text : String} {tree : Node}
    (h : source.parse k text = .ok tree) : source k text = some tree := by
  unfold TreeSource.parse at h
  cases hsource : source k text with
  | none =>
    rw [hsource] at h
    exact nomatch h
  | some tree' =>
    rw [hsource] at h
    exact congrArg some (Except.ok.inj h)

/-- The source has no tree for some parse, and the error says so. -/
def NoTree (trees : TreeSource) (e : Error) : Prop :=
  e = .outOfTrees ∧ ∃ k text, trees k text = none

theorem noTree_of_parse {trees : TreeSource} {k : Nat} {text : String} {e : Error}
    (h : trees.parse k text = .error e) : NoTree trees e := by
  unfold TreeSource.parse at h
  split at h
  next => exact nomatch h
  next hnone =>
    cases h
    exact ⟨rfl, k, text, hnone⟩

theorem noTree_of_map {α : Type} {trees : TreeSource} {k : Nat} {text : String} {f : Node → α}
    {e : Error} (h : (trees.parse k text).map f = .error e) : NoTree trees e := by
  cases hparse : trees.parse k text with
  | ok root =>
    rw [hparse] at h
    exact nomatch h
  | error e' =>
    rw [hparse] at h
    cases h
    exact noTree_of_parse hparse

end TreeSource

/-! ## Assemblies -/

namespace Assembly

open TreeSource (NoTree)

theorem ofPlan_ok {plan : Plan} {loader : String} {a : Assembly}
    (h : ofPlan plan loader = .ok a) :
    a.loader = loader ∧ a.Ordered ∧ a.removed.Perm (plan.outcomes.map (·.callable)) := by
  unfold ofPlan at h
  split at h
  next => exact nomatch h
  next hskip =>
    cases h
    refine ⟨rfl, ?_, ?_⟩
    · exact pairwise_mergeSort_descending Callable.start _
    · rw [← Plan.writes_eq (by simpa using hskip)]
      exact List.mergeSort_perm _ _

/-- A module that was put together: the loader follows what the removal leaves, without an old
loader and with its blank rows collapsed. -/
theorem apply_leftover {a : Assembly} {trees : TreeSource} {text : String} {result : Result}
    (h : (a.apply trees text).result = .ok result) :
    ∃ remaining guarded, a.withoutCallables text = .ok remaining ∧
      result.text = appendLoader (BlankRows.collapse (Loader.strip remaining).1 guarded)
        (newlineOf text) a.loader := by
  obtain ⟨remaining, hremaining, h⟩ := Attempt.bind_ok h
  cases hstrip : Loader.strip remaining with
  | mk stripped replaced =>
    simp only [hstrip, Attempt.tellAll_bind_result] at h
    obtain ⟨guarded, -, h⟩ := Attempt.bind_ok h
    obtain ⟨lines, -, h⟩ := Attempt.bind_ok h
    rw [Attempt.tellAll_bind_result] at h
    obtain rfl := Except.ok.inj h
    exact ⟨remaining, guarded, hremaining, by rw [hstrip]⟩

/-- What is left of a module keeps its words but for an old loader. -/
theorem apply_ok {a : Assembly} {trees : TreeSource} {text : String} {result : Result}
    (h : (a.apply trees text).result = .ok result) :
    ∃ remaining leftover, a.withoutCallables text = .ok remaining ∧
      result.text = appendLoader leftover (newlineOf text) a.loader ∧
      Text.words leftover.toList = Text.words (Loader.strip remaining).1.toList := by
  obtain ⟨remaining, guarded, hremaining, htext⟩ := apply_leftover h
  exact ⟨remaining, _, hremaining, htext, BlankRows.words_collapse _ guarded⟩

theorem directiveLines_always (parser : Nat → String → Node) (k : Nat) (text : String) :
    ∃ lines, directiveLines (.always parser) k text = .ok lines := by
  unfold directiveLines
  split
  next => exact ⟨_, rfl⟩
  next => exact ⟨[], rfl⟩

/-- Once the callables are out, nothing stands in the way if every parse has a tree. -/
theorem apply_of_removed {a : Assembly} {text remaining : String} (parser : Nat → String → Node)
    (h : a.withoutCallables text = .ok remaining) :
    ∃ lines, (a.apply (.always parser) text).result = .ok
      ⟨appendLoader (BlankRows.collapse (Loader.strip remaining).1
          (Node.stringRows (Utf8.encode (Loader.strip remaining).1)
            (parser 1 (Loader.strip remaining).1))) (newlineOf text) a.loader,
        lines, (Loader.strip remaining).2⟩ := by
  cases hstrip : Loader.strip remaining with
  | mk stripped replaced =>
    obtain ⟨lines, hlines⟩ := directiveLines_always parser 2
      (BlankRows.collapse stripped (Node.stringRows (Utf8.encode stripped) (parser 1 stripped)))
    have hguarded : stringRows (.always parser) 1 stripped =
        .ok (Node.stringRows (Utf8.encode stripped) (parser 1 stripped)) := rfl
    refine ⟨lines, ?_⟩
    unfold apply
    rw [h, Attempt.ofExcept_bind_result]
    simp only [hstrip, Attempt.tellAll_bind_result]
    rw [hguarded, Attempt.ofExcept_bind_result]
    rw [hlines, Attempt.ofExcept_bind_result, Attempt.tellAll_bind_result]
    rfl

theorem noTree_of_directiveLines {trees : TreeSource} {k : Nat} {text : String} {e : Error}
    (h : directiveLines trees k text = .error e) : NoTree trees e := by
  unfold directiveLines at h
  split at h
  next => exact TreeSource.noTree_of_map h
  next => exact nomatch h

/-- Once the callables are out, only a tree can be missing. -/
theorem apply_ends {a : Assembly} {trees : TreeSource} {text remaining : String}
    (h : a.withoutCallables text = .ok remaining) :
    Attempt.Ends (fun _ => True) (NoTree trees) (a.apply trees text) := by
  unfold apply
  refine .ofExcept (fun e he => nomatch h.symm.trans he) fun removed _ => ?_
  cases Loader.strip removed with
  | mk stripped replaced =>
    exact .tellAll (.ofExcept (fun _ he => TreeSource.noTree_of_map he) fun _ _ =>
      .ofExcept (fun _ he => noTree_of_directiveLines he) fun _ _ => .tellAll (.pure trivial))

end Assembly

end Unbundle
