import Unbundle.Proofs.Operations
import Unbundle.Work

/-!
# Reasoning about work on a store

A computation is taken apart at its binds: one that has a result had one at every step
(`Attempt.bind_ok`, `Work.bind_ok`).

`Work.Within ops errors x` bounds what work can do whatever the store is: its journal accounts for
every change, holds only operations in `ops`, and it stops only with errors in `errors`. There is
one rule for each way of putting work together, so a bound on a whole is read off its parts.
-/

namespace Unbundle

theorem except_ok_bind {α β ε : Type} {a : α} {f : α → Except ε β} :
    ((.ok a : Except ε α) >>= f) = f a := rfl

theorem except_bind_ok {α β ε : Type} {x : Except ε α} {f : α → Except ε β} {b : β}
    (h : (x >>= f) = .ok b) : ∃ a, x = .ok a ∧ f a = .ok b := by
  cases x with
  | error e => exact nomatch h
  | ok a => exact ⟨a, rfl, h⟩

theorem except_bind_error {α β ε : Type} {x : Except ε α} {f : α → Except ε β} {e : ε}
    (h : (x >>= f) = .error e) : x = .error e ∨ ∃ a, x = .ok a ∧ f a = .error e := by
  cases x with
  | error e' =>
    cases h
    exact Or.inl rfl
  | ok a => exact Or.inr ⟨a, rfl, h⟩

theorem eq_ok_of_toOption {α ε : Type} {x : Except ε α} {a : α} (h : x.toOption = some a) :
    x = .ok a := by
  cases x with
  | error e => exact nomatch h
  | ok b =>
    cases h
    rfl

theorem exists_ok_of_any {α ε : Type} {x : Except ε α} {p : α → Bool}
    (h : x.toOption.any p = true) : ∃ a, x = .ok a ∧ p a = true := by
  cases x with
  | error e => exact nomatch h
  | ok a => exact ⟨a, rfl, h⟩

namespace Attempt

variable {α β : Type}

theorem bind_ok {x : Attempt α} {f : α → Attempt β} {b : β} (h : (x >>= f).result = .ok b) :
    ∃ a, x.result = .ok a ∧ (f a).result = .ok b := by
  change (Attempt.bind x f).result = .ok b at h
  unfold Attempt.bind at h
  split at h
  next => exact absurd h (by simp)
  next a ha => exact ⟨a, ha, h⟩

theorem bind_error {x : Attempt α} {f : α → Attempt β} {e : Error}
    (h : (x >>= f).result = .error e) :
    x.result = .error e ∨ ∃ a, x.result = .ok a ∧ (f a).result = .error e := by
  change (Attempt.bind x f).result = .error e at h
  unfold Attempt.bind at h
  split at h
  next e' he =>
    cases h
    exact Or.inl he
  next a ha => exact Or.inr ⟨a, ha, h⟩

theorem bind_result_of_ok {x : Attempt α} {f : α → Attempt β} {a : α} (h : x.result = .ok a) :
    (x >>= f).result = (f a).result := by
  change (Attempt.bind x f).result = (f a).result
  unfold Attempt.bind
  rw [h]

/-- Telling something before a computation does not change its result. -/
theorem tellAll_bind_result {notices : List Notice} {f : Unit → Attempt β} :
    (tellAll notices >>= f).result = (f ()).result := rfl

theorem ofExcept_result (x : Except Error α) : (ofExcept x).result = x := rfl

theorem ofExcept_bind_result {a : α} {f : α → Attempt β} :
    (ofExcept (.ok a) >>= f).result = (f a).result := rfl

/-- Computations that begin in the same way are related by `f` if what follows is. -/
theorem bind_result_map {γ : Type} {x : Attempt α} {k : α → Attempt β} {k' : α → Attempt γ}
    {f : β → γ} (h : ∀ a, (k' a).result = (k a).result.map f) :
    (x >>= k').result = (x >>= k).result.map f := by
  change (Attempt.bind x k').result = (Attempt.bind x k).result.map f
  unfold Attempt.bind
  cases x.result with
  | error e => rfl
  | ok a => exact h a

/-- What a computation can end with: values in `values`, errors in `errors`. -/
structure Ends (values : α → Prop) (errors : Error → Prop) (x : Attempt α) : Prop where
  value : ∀ a, x.result = .ok a → values a
  error : ∀ e, x.result = .error e → errors e

namespace Ends

variable {values : α → Prop} {errors : Error → Prop}

theorem pure {a : α} (h : values a) : Ends values errors (Pure.pure a : Attempt α) :=
  ⟨fun _ ha => Except.ok.inj ha ▸ h, fun _ he => nomatch he⟩

theorem bind {values : β → Prop} {x : Attempt α} {f : α → Attempt β}
    (hx : ∀ e, x.result = .error e → errors e)
    (hf : ∀ a, x.result = .ok a → Ends values errors (f a)) : Ends values errors (x >>= f) := by
  refine ⟨fun b hb => ?_, fun e he => ?_⟩
  · obtain ⟨a, ha, hb⟩ := bind_ok hb
    exact (hf a ha).value b hb
  · rcases bind_error he with he | ⟨a, ha, he⟩
    · exact hx e he
    · exact (hf a ha).error e he

theorem ofExcept {values : β → Prop} {x : Except Error α} {f : α → Attempt β}
    (hx : ∀ e, x = .error e → errors e) (hf : ∀ a, x = .ok a → Ends values errors (f a)) :
    Ends values errors (Attempt.ofExcept x >>= f) :=
  bind hx hf

theorem mono {values' : α → Prop} {errors' : Error → Prop} {x : Attempt α}
    (h : Ends values errors x) (hvalues : ∀ a, values a → values' a)
    (herrors : ∀ e, errors e → errors' e) : Ends values' errors' x :=
  ⟨fun a ha => hvalues a (h.value a ha), fun e he => herrors e (h.error e he)⟩

theorem tellAll {values : β → Prop} {notices : List Notice} {f : Unit → Attempt β}
    (h : Ends values errors (f ())) : Ends values errors (Attempt.tellAll notices >>= f) :=
  bind (fun _ he => nomatch he) fun _ _ => h

end Ends

end Attempt

namespace Work

variable {α β : Type}

/-! ## Taking work apart -/

/-- Work that goes on: the second part starts where the first one ended. -/
theorem bind_of_ok {x : Work α} {f : α → Work β} {s : FileStore} {a : α}
    (h : (x s).result = .ok a) :
    (x >>= f) s =
      { store := (f a (x s).store).store
        journal := (x s).journal ++ (f a (x s).store).journal
        notices := (x s).notices ++ (f a (x s).store).notices
        result := (f a (x s).store).result } := by
  change Work.bind x f s = _
  simp only [Work.bind, h]

/-- Work that stops: the second part is not begun. -/
theorem bind_of_error {x : Work α} {f : α → Work β} {s : FileStore} {e : Error}
    (h : (x s).result = .error e) :
    (x >>= f) s =
      { store := (x s).store
        journal := (x s).journal
        notices := (x s).notices
        result := .error e } := by
  change Work.bind x f s = _
  simp only [Work.bind, h]

theorem bind_ok {x : Work α} {f : α → Work β} {s : FileStore} {b : β}
    (h : ((x >>= f) s).result = .ok b) :
    ∃ a, (x s).result = .ok a ∧ (f a (x s).store).result = .ok b ∧
      ((x >>= f) s).store = (f a (x s).store).store ∧
      ((x >>= f) s).journal = (x s).journal ++ (f a (x s).store).journal := by
  cases hx : (x s).result with
  | error e =>
    rw [bind_of_error hx] at h
    exact absurd h (by simp)
  | ok a =>
    rw [bind_of_ok hx] at h ⊢
    exact ⟨a, rfl, h, rfl, rfl⟩

/-- Work after a look at the store starts from that store. -/
theorem check_bind {f : FileStore → Except Error α} {g : α → Work β} {s : FileStore} {a : α}
    (h : f s = .ok a) : (check f >>= g) s = g a s :=
  bind_of_ok (x := check f) h

theorem check_bind_error {f : FileStore → Except Error α} {g : α → Work β} {s : FileStore}
    {e : Error} (h : f s = .error e) : (check f >>= g) s = ⟨s, [], [], .error e⟩ :=
  bind_of_error (x := check f) h

/-- Telling something first changes nothing but what is told. -/
theorem tell_bind (notice : Notice) (f : Unit → Work β) (s : FileStore) :
    ((tell notice >>= f) s).journal = (f () s).journal ∧
      ((tell notice >>= f) s).store = (f () s).store ∧
      ((tell notice >>= f) s).result = (f () s).result := by
  rw [bind_of_ok (show (tell notice s).result = .ok () from rfl)]
  exact ⟨rfl, rfl, rfl⟩

/-- What comes of an operation on an acceptable path. -/
theorem attempt_run {op : Operation} (h : FileStore.acceptable op.path = true)
    (s : FileStore) :
    attempt op s = ⟨op.attempt s, [op], [], .ok ((op.carryOut s).2.map (⟨·, op.path⟩))⟩ := by
  unfold attempt
  rw [if_neg (by simp [h])]
  rfl

/-- Nothing comes of an operation on a path that is not acceptable. -/
theorem attempt_refused {op : Operation} (h : FileStore.acceptable op.path = false)
    (s : FileStore) : attempt op s = ⟨s, [], [], .error (.invalid .embeddedNul)⟩ := by
  unfold attempt
  rw [if_pos (by simp [h])]

theorem acceptable_of_attempt {op : Operation} {s : FileStore} {fault : Option Fault}
    (h : (attempt op s).result = .ok fault) : FileStore.acceptable op.path = true := by
  cases hpath : FileStore.acceptable op.path with
  | true => rfl
  | false =>
    rw [attempt_refused hpath] at h
    exact nomatch h

/-- How an operation goes that was tried. -/
theorem attempt_goes {op : Operation} {s : FileStore} {fault : Option Fault}
    (h : (attempt op s).result = .ok fault) :
    ∃ cause, fault = cause.map (⟨·, op.path⟩) ∧ op.Goes s (attempt op s).store cause := by
  have hrun := attempt_run (acceptable_of_attempt h) s
  rw [hrun] at h ⊢
  exact ⟨_, (Except.ok.inj h).symm, Operation.goes_carryOut s op⟩

/-- An operation that was carried out without a fault changed the store as it says. -/
theorem attempt_ok {op : Operation} {s : FileStore} (h : (attempt op s).result = .ok none) :
    op.apply s = .ok (attempt op s).store ∧ (attempt op s).journal = [op] := by
  refine ⟨?_, by rw [attempt_run (acceptable_of_attempt h)]⟩
  obtain ⟨cause, hcause, hgoes⟩ := attempt_goes h
  obtain rfl : cause = none := Option.map_eq_none_iff.mp hcause.symm
  generalize (attempt op s).store = t at hgoes
  cases hgoes with
  | whole happly => exact happly

theorem attempt_done {op : Operation} {s t : FileStore} (h : FileStore.acceptable op.path = true)
    (happly : op.apply s = .ok t) (hfree : s.conditions.mishaps.lookup op.path = none) :
    (attempt op s).result = .ok none := by
  rw [attempt_run h, Operation.carryOut_of_ok happly hfree]
  rfl

theorem perform_ok {wrap : Fault → Error} {op : Operation} {s : FileStore} {u : Unit}
    (h : (perform wrap op s).result = .ok u) :
    op.apply s = .ok (perform wrap op s).store ∧ (perform wrap op s).journal = [op] := by
  obtain ⟨fault, hattempt, hrest, hstore, hjournal⟩ := bind_ok h
  cases fault with
  | some fault => exact absurd hrest (by simp [fail])
  | none =>
    obtain ⟨happly, hlog⟩ := attempt_ok hattempt
    have hstore' : (perform wrap op s).store = (attempt op s).store := hstore
    have hjournal' : (perform wrap op s).journal = (attempt op s).journal ++ [] := hjournal
    exact ⟨hstore' ▸ happly, by rw [hjournal', hlog, List.append_nil]⟩

theorem acceptable_of_perform {wrap : Fault → Error} {op : Operation} {s : FileStore} {u : Unit}
    (h : (perform wrap op s).result = .ok u) : FileStore.acceptable op.path = true := by
  obtain ⟨fault, hattempt, -⟩ := bind_ok h
  exact acceptable_of_attempt hattempt

/-- An operation is performed, or the store is left as it is, or a mishap breaks the operation
off. -/
theorem perform_cases (wrap : Fault → Error) (op : Operation) (s : FileStore) :
    ((perform wrap op s).result = .ok () ∧ op.apply s = .ok (perform wrap op s).store) ∨
      (∃ e, (perform wrap op s).result = .error e ∧ (perform wrap op s).store = s) ∨
      ∃ trouble, (perform wrap op s).result = .error (wrap ⟨.trouble trouble, op.path⟩) ∧
        op.BreaksOff s (perform wrap op s).store trouble := by
  unfold perform
  cases hattempt : (attempt op s).result with
  | error e =>
    have hpath : FileStore.acceptable op.path = false := by
      refine Bool.eq_false_iff.mpr fun hpath => ?_
      rw [attempt_run hpath] at hattempt
      exact nomatch hattempt
    rw [bind_of_error hattempt, attempt_refused hpath]
    exact Or.inr (Or.inl ⟨e, rfl, rfl⟩)
  | ok fault =>
    obtain ⟨cause, rfl, hgoes⟩ := attempt_goes hattempt
    rw [bind_of_ok hattempt]
    generalize (attempt op s).store = t at hgoes
    cases hgoes with
    | whole happly => exact Or.inl ⟨rfl, happly⟩
    | undone cause => exact Or.inr (Or.inl ⟨_, rfl, rfl⟩)
    | broken hbroken => exact Or.inr (Or.inr ⟨_, rfl, hbroken⟩)

/-! ## Bounds on work -/

/-- Work that logs every change, carries out only operations in `ops` and stops only with errors in
`errors`. -/
structure Within (ops : Operation → Prop) (errors : Error → Prop) (x : Work α) : Prop where
  logged : ∀ s, (x s).store = Operation.replay s (x s).journal
  journal : ∀ s, ∀ op ∈ (x s).journal, ops op
  stops : ∀ s e, (x s).result = .error e → errors e

namespace Within

variable {ops : Operation → Prop} {errors : Error → Prop}

theorem pure (a : α) : Within ops errors (Pure.pure a : Work α) :=
  ⟨fun _ => rfl, fun _ _ h => absurd h List.not_mem_nil, fun _ _ h => nomatch h⟩

theorem tell (notice : Notice) : Within ops errors (Work.tell notice) :=
  ⟨fun _ => rfl, fun _ _ h => absurd h List.not_mem_nil, fun _ _ h => nomatch h⟩

theorem fail {e : Error} (h : errors e) : Within ops errors (Work.fail e : Work α) :=
  ⟨fun _ => rfl, fun _ _ h => absurd h List.not_mem_nil, fun _ _ he => by cases he; exact h⟩

theorem check {f : FileStore → Except Error α} (h : ∀ s e, f s = .error e → errors e) :
    Within ops errors (Work.check f) :=
  ⟨fun _ => rfl, fun _ _ h => absurd h List.not_mem_nil, h⟩

theorem look {f : FileStore → Attempt α} (h : ∀ s e, (f s).result = .error e → errors e) :
    Within ops errors (Work.look f) :=
  ⟨fun _ => rfl, fun _ _ h => absurd h List.not_mem_nil, h⟩

theorem attempt {op : Operation} (hop : ops op)
    (hnul : FileStore.acceptable op.path = false → errors (.invalid .embeddedNul)) :
    Within ops errors (Work.attempt op) := by
  cases hpath : FileStore.acceptable op.path with
  | true =>
    refine ⟨fun s => ?_, fun s o ho => ?_, fun s e he => ?_⟩
    · rw [attempt_run hpath]
      rfl
    · rw [attempt_run hpath] at ho
      exact List.mem_singleton.mp ho ▸ hop
    · rw [attempt_run hpath] at he
      exact nomatch he
  | false =>
    refine ⟨fun s => ?_, fun s o ho => ?_, fun s e he => ?_⟩
    · rw [attempt_refused hpath]
      rfl
    · rw [attempt_refused hpath] at ho
      exact absurd ho List.not_mem_nil
    · rw [attempt_refused hpath] at he
      cases he
      exact hnul hpath

theorem bind {x : Work α} {f : α → Work β} (hx : Within ops errors x)
    (hf : ∀ a, Within ops errors (f a)) : Within ops errors (x >>= f) := by
  refine ⟨fun s => ?_, fun s op hop => ?_, fun s e he => ?_⟩
  · cases h : (x s).result with
    | error e => rw [bind_of_error h]; exact hx.logged s
    | ok a => rw [bind_of_ok h, Operation.replay_append, ← hx.logged]; exact (hf a).logged _
  · cases h : (x s).result with
    | error e => rw [bind_of_error h] at hop; exact hx.journal s op hop
    | ok a =>
      rw [bind_of_ok h] at hop
      rcases List.mem_append.mp hop with hop | hop
      · exact hx.journal s op hop
      · exact (hf a).journal _ op hop
  · cases h : (x s).result with
    | error e' =>
      rw [bind_of_error h] at he
      cases he
      exact hx.stops s _ h
    | ok a => rw [bind_of_ok h] at he; exact (hf a).stops _ e he

/-- After a look at the store only the work on what can be seen counts. -/
theorem check_bind {f : FileStore → Except Error α} {g : α → Work β}
    (hf : ∀ s e, f s = .error e → errors e)
    (hg : ∀ s a, f s = .ok a → Within ops errors (g a)) :
    Within ops errors (Work.check f >>= g) := by
  refine ⟨fun s => ?_, fun s op hop => ?_, fun s e he => ?_⟩
  · cases h : f s with
    | error e => rw [check_bind_error h]; rfl
    | ok a => rw [Work.check_bind h]; exact (hg s a h).logged s
  · cases h : f s with
    | error e => rw [check_bind_error h] at hop; exact absurd hop List.not_mem_nil
    | ok a => rw [Work.check_bind h] at hop; exact (hg s a h).journal s op hop
  · cases h : f s with
    | error e' =>
      rw [check_bind_error h] at he
      cases he
      exact hf s _ h
    | ok a => rw [Work.check_bind h] at he; exact (hg s a h).stops s e he

theorem perform {wrap : Fault → Error} {op : Operation} (hop : ops op)
    (hnul : FileStore.acceptable op.path = false → errors (.invalid .embeddedNul))
    (hwrap : ∀ fault, errors (wrap fault)) : Within ops errors (Work.perform wrap op) := by
  refine bind (attempt hop hnul) fun fault => ?_
  cases fault with
  | none => exact pure ()
  | some kind => exact fail (hwrap _)

theorem mono {ops' : Operation → Prop} {errors' : Error → Prop} {x : Work α}
    (h : Within ops errors x) (hops : ∀ op, ops op → ops' op)
    (herrors : ∀ e, errors e → errors' e) : Within ops' errors' x :=
  ⟨h.logged, fun s op hop => hops op (h.journal s op hop),
    fun s e he => herrors e (h.stops s e he)⟩

end Within

/-- Work that carries out nothing. -/
abbrev Silent (x : Work α) : Prop := Within (fun _ => False) (fun _ => True) x

theorem Silent.run {x : Work α} (h : Silent x) (s : FileStore) :
    (x s).journal = [] ∧ (x s).store = s := by
  have hjournal : (x s).journal = [] :=
    List.eq_nil_iff_forall_not_mem.mpr fun op hop => h.journal s op hop
  exact ⟨hjournal, by rw [h.logged s, hjournal]; rfl⟩

/-- What is done before work that carries out nothing is all that is done. -/
theorem bind_silent {x : Work α} {f : α → Work β} (hf : ∀ a, Silent (f a)) (s : FileStore) :
    ((x >>= f) s).journal = (x s).journal ∧ ((x >>= f) s).store = (x s).store := by
  cases h : (x s).result with
  | error e => rw [bind_of_error h]; exact ⟨rfl, rfl⟩
  | ok a =>
    obtain ⟨hjournal, hstore⟩ := (hf a).run (x s).store
    rw [bind_of_ok h]
    exact ⟨by rw [hjournal, List.append_nil], hstore⟩

/-- Performing an operation carries out that operation, or nothing if its path is not
acceptable. -/
theorem perform_journal (wrap : Fault → Error) (op : Operation) (s : FileStore) :
    (perform wrap op s).journal = [] ∨ (perform wrap op s).journal = [op] := by
  have hjournal : (perform wrap op s).journal = (attempt op s).journal := by
    refine (bind_silent (fun fault => ?_) s).1
    cases fault with
    | none => exact .pure ()
    | some kind => exact .fail trivial
  rw [hjournal]
  cases hpath : FileStore.acceptable op.path with
  | false => exact Or.inl (by rw [attempt_refused hpath])
  | true => exact Or.inr (by rw [attempt_run hpath])

/-- Work that only adds leaves everything as it is. -/
theorem Within.extends {errors : Error → Prop} {x : Work α}
    (h : Within Operation.IsAddition errors x) (s : FileStore) :
    FileStore.Extends s (x s).store := by
  rw [h.logged s]
  exact Operation.replay_extends (h.journal s) s

end Work

end Unbundle
