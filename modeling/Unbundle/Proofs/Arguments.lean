import Unbundle.CommandLine.Options
import Unbundle.Proofs.Work

/-!
# Options that are given take effect

A call reads its arguments one after the other (`Reads` says what each step can do). An option
without a value that was read stays noted to the end (`Reads.noted`), and what stands after the two
dashes can only be the module (`Reads.path_eq`). So if the spelling of such an option is among the
arguments of a call that is carried out, the option takes effect, or the spelling is taken for the
module (`asks_or_path`).
-/

namespace Unbundle.CommandLine

/-- Whether an option without a value was read. -/
def Gathered.noted (g : Gathered) : Switch → Bool
  | .dryRun => g.dryRun
  | .dumpTree => g.dumpTree
  | .help | .config | .logLevel => false

/-- Whether an option without a value was given. -/
def Options.asks (options : Options) : Switch → Bool
  | .dryRun => options.dryRun
  | .dumpTree => options.dumpTree
  | .help | .config | .logLevel => false

namespace Gathered

variable {g : Gathered} {switch : Switch} {options : Options}

theorem noted_note_self (hvalue : switch.takesValue = false) (hhelp : switch ≠ .help)
    (value : String) : (g.note switch value).noted switch = true := by
  cases switch with
  | help => exact absurd rfl hhelp
  | dryRun => rfl
  | config => exact nomatch hvalue
  | logLevel => exact nomatch hvalue
  | dumpTree => rfl

/-- What was read stays noted. -/
theorem noted_note (h : g.noted switch = true) (other : Switch) (value : String) :
    (g.note other value).noted switch = true := by
  cases other <;> cases switch <;> first | exact h | rfl

theorem finish_run (h : g.finish = .run options) :
    g.path = some options.path ∧ g.extras = [] ∧
      ∀ switch, options.asks switch = g.noted switch := by
  unfold finish at h
  cases hpath : g.path with
  | none =>
    rw [hpath] at h
    exact nomatch h
  | some path =>
    simp only [hpath] at h
    by_cases hextras : g.extras.isEmpty = true
    · rw [if_pos hextras] at h
      obtain rfl := Request.run.inj h
      exact ⟨rfl, List.isEmpty_iff.mp hextras, fun switch => by cases switch <;> rfl⟩
    · rw [if_neg hextras] at h
      exact nomatch h

theorem noted_leave (g : Gathered) (arguments : List Argument) (switch : Switch) :
    (g.leave arguments).noted switch = g.noted switch := by
  cases switch <;> rfl

/-- A call is carried out only if no argument is left over. -/
theorem leave_finish_run {rest : List Argument} (h : (g.leave rest).finish = .run options) :
    g.path = some options.path ∧ rest = [] ∧ ∀ switch, options.asks switch = g.noted switch := by
  obtain ⟨hpath, hextras, hasks⟩ := finish_run h
  obtain ⟨-, hrest⟩ := List.append_eq_nil_iff.mp hextras
  refine ⟨hpath, List.map_eq_nil_iff.mp hrest, fun switch => ?_⟩
  rw [hasks, noted_leave]

theorem noted_module (g : Gathered) (path : String) (switch : Switch) :
    ({ g with path := some path } : Gathered).noted switch = g.noted switch := by
  cases switch <;> rfl

theorem module_finish_run {path : String} {rest : List Argument}
    (h : ({ g with path := some path }.leave rest).finish = .run options) :
    path = options.path ∧ rest = [] ∧ ∀ switch, options.asks switch = g.noted switch := by
  obtain ⟨hpath, hrest, hasks⟩ := leave_finish_run h
  exact ⟨Option.some.inj hpath, hrest, fun switch => (hasks switch).trans (noted_module g ..)⟩

end Gathered

/-- What stands after the last option is at most the module, with two dashes on one side. -/
theorem readTail_run {g : Gathered} {arguments : List Argument} {options : Options}
    (h : readTail g arguments = .run options) :
    (∀ switch, options.asks switch = g.noted switch) ∧
      (arguments = [] ∨ arguments = [.plain options.path] ∨
        arguments = [.plain options.path, .dashes] ∨
        arguments = [.dashes, .plain options.path]) := by
  unfold readTail at h
  split at h
  next =>
    obtain ⟨rfl, rfl, hasks⟩ := Gathered.module_finish_run h
    exact ⟨hasks, Or.inr (Or.inr (Or.inl rfl))⟩
  next =>
    obtain ⟨rfl, rfl, hasks⟩ := Gathered.module_finish_run h
    exact ⟨hasks, Or.inr (Or.inr (Or.inr rfl))⟩
  next =>
    obtain ⟨rfl, rfl, hasks⟩ := Gathered.module_finish_run h
    exact ⟨hasks, Or.inr (Or.inl rfl)⟩
  next =>
    obtain ⟨-, rfl, hasks⟩ := Gathered.leave_finish_run h
    exact ⟨hasks, Or.inl rfl⟩

/-! ## Reading -/

/-- How arguments are read to the end of a call that is carried out, step by step. -/
inductive Reads (options : Options) : Gathered → List Argument → Prop
  /-- An option with a value after an equals sign. -/
  | joined {g : Gathered} {switch : Switch} {value : String} {rest : List Argument}
      (h : Reads options (g.note switch (givenValue value)) rest) :
      Reads options g (.option switch (some value) :: rest)
  /-- An option with a value in the next argument. -/
  | apart {g : Gathered} {switch : Switch} {value : String} {rest : List Argument}
      (hvalue : switch.takesValue = true) (h : Reads options (g.note switch value) rest) :
      Reads options g (.option switch none :: .plain value :: rest)
  /-- An option without a value. -/
  | flag {g : Gathered} {switch : Switch} {rest : List Argument}
      (h : Reads options (g.note switch "") rest) :
      Reads options g (.option switch none :: rest)
  /-- The module, before another option. -/
  | module {g : Gathered} {path : String} {rest : List Argument}
      (h : Reads options { g with path := some path } rest) :
      Reads options g (.plain path :: rest)
  /-- An argument that is left over; two dashes are so only before another option. -/
  | extra {g : Gathered} {argument : Argument} {rest : List Argument}
      (hoption : ∀ switch value, argument ≠ .option switch value)
      (hdashes : argument = .dashes → rest.any Argument.isOption = true)
      (h : Reads options (g.leave [argument]) rest) :
      Reads options g (argument :: rest)
  /-- What stands after the last option. -/
  | tail {g : Gathered} {arguments : List Argument}
      (hplain : arguments.any Argument.isOption = false)
      (h : readTail g arguments = .run options) : Reads options g arguments

theorem clusterRequest_ne_run (letters : List Char) (options : Options) :
    clusterRequest letters ≠ .run options := by
  fun_induction clusterRequest letters with
  | case1 => exact fun h => nomatch h
  | case2 rest _ ih => exact ih
  | case3 => exact fun h => nomatch h

/-- **How arguments are read.** -/
theorem reads_of_run {g : Gathered} {arguments : List Argument} {options : Options}
    (h : readArguments g arguments = .run options) : Reads options g arguments := by
  fun_induction readArguments g arguments with
  | case1 g switch value rest hvalue ih => exact .joined (ih h)
  | case2 => exact nomatch h
  | case3 => exact nomatch h
  | case4 g switch hhelp hvalue value rest ih => exact .apart hvalue (ih h)
  | case5 => exact nomatch h
  | case6 g switch rest hhelp hvalue ih => exact .flag (ih h)
  | case7 g letters rest => exact absurd h (clusterRequest_ne_run letters options)
  | case8 g text rest ih =>
    exact .extra (fun _ _ he => nomatch he) (fun he => nomatch he) (ih h)
  | case9 g rest _ path _ _ _ _ _ ih => exact .module (ih h)
  | case10 g argument rest hjoined halone _ _ hany _ ih =>
    refine .extra (fun switch value he => ?_) (fun _ => hany) (ih h)
    cases value with
    | none => exact halone switch he
    | some value => exact hjoined switch value he
  | case11 g argument rest hjoined halone hcluster hunknown hany =>
    refine .tail ?_ h
    rw [List.any_cons, Bool.or_eq_false_iff]
    refine ⟨?_, Bool.eq_false_iff.mpr hany⟩
    cases argument with
    | plain text => rfl
    | dashes => rfl
    | option switch value =>
      cases value with
      | none => exact absurd rfl (halone switch)
      | some value => exact absurd rfl (hjoined switch value)
    | cluster letters => exact absurd rfl (hcluster letters)
    | unknown text => exact absurd rfl (hunknown text)
  | case12 g => exact .tail rfl h

/-- **An option without a value takes effect** once it was read. -/
theorem Reads.noted {options : Options} {g : Gathered} {arguments : List Argument}
    {switch : Switch} (h : Reads options g arguments) (hvalue : switch.takesValue = false)
    (hhelp : switch ≠ .help)
    (hgiven : g.noted switch = true ∨ .option switch none ∈ arguments) :
    options.asks switch = true := by
  induction h with
  | joined _ ih =>
    exact ih (hgiven.imp (fun hnoted => Gathered.noted_note hnoted _ _)
      fun hmem => List.mem_of_ne_of_mem (by simp) hmem)
  | apart htakes _ ih =>
    refine ih (hgiven.imp (fun hnoted => Gathered.noted_note hnoted _ _) fun hmem => ?_)
    rcases List.mem_cons.mp hmem with heq | hmem
    · obtain ⟨rfl, -⟩ := Argument.option.inj heq
      exact nomatch hvalue.symm.trans htakes
    · exact List.mem_of_ne_of_mem (by simp) hmem
  | flag _ ih =>
    refine ih ?_
    rcases hgiven with hnoted | hmem
    · exact Or.inl (Gathered.noted_note hnoted _ _)
    · rcases List.mem_cons.mp hmem with heq | hmem
      · obtain ⟨rfl, -⟩ := Argument.option.inj heq
        exact Or.inl (Gathered.noted_note_self hvalue hhelp _)
      · exact Or.inr hmem
  | module _ ih =>
    exact ih (hgiven.imp (fun hnoted => (Gathered.noted_module ..).trans hnoted)
      fun hmem => List.mem_of_ne_of_mem (by simp) hmem)
  | extra hoption _ _ ih =>
    exact ih (hgiven.imp (fun hnoted => (Gathered.noted_leave ..).trans hnoted)
      (List.mem_of_ne_of_mem fun heq => hoption _ _ heq.symm))
  | tail hplain h =>
    rw [(readTail_run h).1]
    refine hgiven.resolve_right fun hmem => ?_
    exact absurd rfl (List.any_eq_false.mp hplain _ hmem)

/-- The arguments after the first two dashes. -/
def afterDashes : List Argument → List Argument
  | [] => []
  | .dashes :: rest => rest
  | _ :: rest => afterDashes rest

/-- **After the two dashes** there is nothing but the module. -/
theorem Reads.path_eq {options : Options} {g : Gathered} {arguments : List Argument}
    {text : String} (h : Reads options g arguments)
    (hplain : (afterDashes arguments).any Argument.isOption = false)
    (hmem : .plain text ∈ afterDashes arguments) : options.path = text := by
  induction h with
  | joined _ ih => exact ih hplain hmem
  | apart _ _ ih => exact ih hplain hmem
  | flag _ ih => exact ih hplain hmem
  | module _ ih => exact ih hplain hmem
  | @extra g argument rest hoption hdashes _ ih =>
    cases argument with
    | dashes => exact nomatch (hdashes rfl).symm.trans hplain
    | plain _ => exact ih hplain hmem
    | option switch value => exact absurd rfl (hoption switch value)
    | cluster _ => exact ih hplain hmem
    | unknown _ => exact ih hplain hmem
  | tail _ h =>
    obtain ⟨-, rfl | rfl | rfl | rfl⟩ := readTail_run h
    · exact absurd hmem List.not_mem_nil
    · exact absurd hmem List.not_mem_nil
    · exact absurd hmem List.not_mem_nil
    · exact (Argument.plain.inj (List.mem_singleton.mp hmem)).symm

/-! ## Spellings -/

theorem afterDashes_cons {argument : Argument} (h : argument ≠ .dashes) (rest : List Argument) :
    afterDashes (argument :: rest) = afterDashes rest := by
  cases argument with
  | dashes => exact absurd rfl h
  | _ => rfl

theorem classifyOther_ne_dashes (text : String) : classifyOther text ≠ .dashes := by
  unfold classifyOther
  split <;> exact fun h => nomatch h

/-- An argument that was looked at on its own is not the two dashes. -/
theorem classify_ne_dashes {text : String} {argument : Argument}
    (h : classify text = .ok argument) : argument ≠ .dashes := by
  unfold classify at h
  split at h
  next second rest _ =>
    split at h
    next =>
      cases h
      exact fun h => nomatch h
    next =>
      simp only at h
      split at h
      next =>
        cases h
        split <;> exact fun h => nomatch h
      next =>
        split at h
        next =>
          split at h
          next =>
            cases h
            exact classifyOther_ne_dashes text
          next =>
            cases h
            exact fun h => nomatch h
          next => exact nomatch h
        next =>
          split at h
          next =>
            cases h
            exact fun h => nomatch h
          next =>
            cases h
            exact classifyOther_ne_dashes text
  next =>
    cases h
    exact fun h => nomatch h

/-- What the arguments are one by one: the spelling of an option stands for it, unless two dashes
come before it. -/
theorem classifyAll_spelling {spelling : String} {switch : Switch}
    (hspelling : classify spelling = .ok (.option switch none)) (hdashes : spelling ≠ "--") :
    ∀ {arguments : List String} {classified : List Argument},
      classifyAll arguments = .ok classified →
      (afterDashes classified).any Argument.isOption = false ∧
        (spelling ∈ arguments →
          .option switch none ∈ classified ∨ .plain spelling ∈ afterDashes classified) := by
  intro arguments
  induction arguments with
  | nil =>
    intro classified h
    obtain rfl := Except.ok.inj h
    exact ⟨rfl, fun hmem => absurd hmem List.not_mem_nil⟩
  | cons text rest ih =>
    intro classified h
    unfold classifyAll at h
    by_cases htext : (text == "--") = true
    · rw [if_pos htext] at h
      obtain rfl := Except.ok.inj h
      refine ⟨?_, fun hmem => Or.inr ?_⟩
      · rw [afterDashes, List.any_map]
        exact List.any_eq_false.mpr fun _ _ hc => nomatch hc
      · rcases List.mem_cons.mp hmem with rfl | hmem
        · exact absurd (eq_of_beq htext) hdashes
        · exact List.mem_map_of_mem hmem
    · rw [if_neg htext] at h
      obtain ⟨first, hfirst, h⟩ := except_bind_ok h
      obtain ⟨others, hothers, h⟩ := except_bind_ok h
      obtain rfl := Except.ok.inj h
      obtain ⟨hplain, hgiven⟩ := ih hothers
      rw [afterDashes_cons (classify_ne_dashes hfirst)]
      refine ⟨hplain, fun hmem => ?_⟩
      rcases List.mem_cons.mp hmem with rfl | hmem
      · rw [Except.ok.inj (hfirst.symm.trans hspelling)]
        exact Or.inl (List.mem_cons_self ..)
      · exact (hgiven hmem).imp_left (List.mem_cons_of_mem _)

/-- **The spelling of an option without a value** among the arguments of a call that is carried out:
the option takes effect, or the spelling is taken for the module. -/
theorem asks_or_path {spelling : String} {switch : Switch}
    (hspelling : classify spelling = .ok (.option switch none)) (hdashes : spelling ≠ "--")
    (hvalue : switch.takesValue = false) (hhelp : switch ≠ .help) {arguments : List String}
    {options : Options} (h : Request.ofArguments arguments = .run options)
    (hmem : spelling ∈ arguments) : options.asks switch = true ∨ options.path = spelling := by
  unfold Request.ofArguments at h
  cases hclassified : classifyAll arguments with
  | error mistake =>
    rw [hclassified] at h
    exact nomatch h
  | ok classified =>
    rw [hclassified] at h
    have hreads := reads_of_run h
    obtain ⟨hplain, hgiven⟩ := classifyAll_spelling hspelling hdashes hclassified
    exact (hgiven hmem).imp (fun hoption => hreads.noted hvalue hhelp (Or.inr hoption))
      (hreads.path_eq hplain)

end Unbundle.CommandLine
