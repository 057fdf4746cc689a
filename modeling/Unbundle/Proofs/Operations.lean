import Unbundle.FileStore.Operation
import Unbundle.Proofs.Walk

/-!
# What operations change

An operation that succeeds puts one entry at one location (`apply_cases`): at a free place, or in
the place of the file that an overwriting operation leads to. One that fails changes nothing, or a
mishap broke it off, and then it did what the same operation does with the beginning of its content
(`goes_carryOut`). Hence a store only ever grows, additions leave everything as it is, and an entry
is kept by every operation that does not replace it (`get?_attempt`). These facts carry over to
operations one after the other (`replay_grows`, `replay_extends`).
-/

namespace Unbundle.Operation

open FileStore (Grows Extends get?_of_stat get?_of_vacant)

/-- An operation that writes nothing but what is new. -/
def IsAddition : Operation → Prop
  | .makeDirectory _ | .create _ _ => True
  | .overwrite _ _ => False

/-- An operation that gives the file at a location new content. -/
def Replaces (s : FileStore) (op : Operation) (l : Location) : Prop :=
  ∃ path content old, op = .overwrite path content ∧ s.stat path = .ok (l, .file old)

theorem IsAddition.not_replaces {op : Operation} (h : op.IsAddition) (s : FileStore)
    (l : Location) : ¬ op.Replaces s l := by
  rintro ⟨path, content, old, rfl, -⟩
  exact h

/-! ## One operation -/

/-- A directory is made at a free place, and its path leads to it. -/
theorem makeDirectory_ok {s t : FileStore} {path : String}
    (h : (makeDirectory path).apply s = .ok t) :
    ∃ l, s.get? l = none ∧ t = s.set l .directory ∧ t.stat path = .ok (l, .directory) := by
  rw [apply] at h
  split at h
  next => exact absurd h (by simp)
  next => exact absurd h (by simp)
  next l slash hspot =>
    cases h
    have hmade := FileStore.spot_set_vacant (e := .directory) (by simp) (fun _ => rfl) hspot
    exact ⟨l, get?_of_vacant hspot, rfl, FileStore.stat_of_spot (by simp) hmade⟩

/-- A file is created at the free place that its path leads to when no link is followed. -/
theorem create_spot {s t : FileStore} {path : String} {content : Bytes}
    (h : (create path content).apply s = .ok t) :
    ∃ l, s.spot false path = .ok (.vacant l false) ∧ t = s.set l (.file content) := by
  rw [apply] at h
  split at h
  next => exact absurd h (by simp)
  next => exact absurd h (by simp)
  next => exact absurd h (by simp)
  next l hspot =>
    cases h
    exact ⟨l, hspot, rfl⟩

/-- A created file is at a place that was free, and its path leads to it. -/
theorem create_ok {s t : FileStore} {path : String} {content : Bytes}
    (h : (create path content).apply s = .ok t) :
    ∃ l, s.get? l = none ∧ t = s.set l (.file content) ∧
      t.stat path = .ok (l, .file content) := by
  obtain ⟨l, hspot, rfl⟩ := create_spot h
  exact ⟨l, get?_of_vacant hspot, rfl, FileStore.stat_set_vacant (by simp) hspot⟩

/-- An overwritten file is where its path led to a file, or at a place that was free, and its path
leads to it. -/
theorem overwrite_ok {s t : FileStore} {path : String} {content : Bytes}
    (h : (overwrite path content).apply s = .ok t) :
    ∃ l, t = s.set l (.file content) ∧ t.stat path = .ok (l, .file content) ∧
      (s.get? l = none ∨ ∃ old, s.stat path = .ok (l, .file old)) := by
  rw [apply] at h
  split at h
  next => exact absurd h (by simp)
  next l old hspot =>
    cases h
    have hstat := FileStore.stat_eq_ok_iff.mpr hspot
    have hget := get?_of_stat hstat
    have hl : l ≠ [] := by
      rintro rfl
      exact absurd hget (by simp [FileStore.get?])
    refine ⟨l, rfl, ?_, Or.inr ⟨old, hstat⟩⟩
    exact FileStore.stat_of_grows (FileStore.grows_set_file hget content) hstat
      (FileStore.get?_set_self s hl _)
  next => exact absurd h (by simp)
  next => exact absurd h (by simp)
  next l hspot =>
    cases h
    exact ⟨l, rfl, FileStore.stat_set_vacant (by simp) hspot, Or.inl (get?_of_vacant hspot)⟩

/-- An operation puts one entry at a free place, or new content in the file that it replaces. -/
theorem apply_cases {s t : FileStore} {op : Operation} (h : op.apply s = .ok t) :
    ∃ l e, t = s.set l e ∧
      (s.get? l = none ∨ op.Replaces s l ∧ ∃ content, e = .file content) := by
  cases op with
  | makeDirectory path =>
    obtain ⟨l, hfree, rfl, -⟩ := makeDirectory_ok h
    exact ⟨l, .directory, rfl, Or.inl hfree⟩
  | create path content =>
    obtain ⟨l, hfree, rfl, -⟩ := create_ok h
    exact ⟨l, .file content, rfl, Or.inl hfree⟩
  | overwrite path content =>
    obtain ⟨l, rfl, -, hfree | ⟨old, hstat⟩⟩ := overwrite_ok h
    · exact ⟨l, .file content, rfl, Or.inl hfree⟩
    · exact ⟨l, .file content, rfl, Or.inr ⟨⟨path, content, old, rfl, hstat⟩, content, rfl⟩⟩

theorem apply_grows {s t : FileStore} {op : Operation} (h : op.apply s = .ok t) :
    Grows s t := by
  obtain ⟨l, e, rfl, hfree | ⟨⟨path, content, old, -, hstat⟩, content', rfl⟩⟩ := apply_cases h
  · exact (FileStore.extends_set hfree e).grows
  · exact FileStore.grows_set_file (get?_of_stat hstat) content'

theorem apply_extends {s t : FileStore} {op : Operation} (hadd : op.IsAddition)
    (h : op.apply s = .ok t) : Extends s t := by
  obtain ⟨l, e, rfl, hfree | ⟨hreplace, -⟩⟩ := apply_cases h
  · exact FileStore.extends_set hfree e
  · exact absurd hreplace (hadd.not_replaces s l)

/-- An operation keeps every entry that it does not replace. -/
theorem get?_apply {s t : FileStore} {op : Operation} (h : op.apply s = .ok t) {l : Location}
    {e : Entry} (hget : s.get? l = some e) (hkeep : ¬ op.Replaces s l) : t.get? l = some e := by
  obtain ⟨m, e', rfl, hfree | ⟨hreplace, -⟩⟩ := apply_cases h
  · exact FileStore.get?_set_vacant hfree hget
  · have hlm : l ≠ m := fun hlm => hkeep (hlm ▸ hreplace)
    rw [FileStore.get?_set_ne s hlm, hget]

/-- Overwriting a file that is there puts the content in its place. -/
theorem overwrite_found {s t : FileStore} {path : String} {content old : Bytes} {l : Location}
    (h : (overwrite path content).apply s = .ok t)
    (hstat : s.stat path = .ok (l, .file old)) :
    t.stat path = .ok (l, .file content) ∧
      ∀ {other : String} {m : Location} {e : Entry}, m ≠ l → s.stat other = .ok (m, e) →
        t.stat other = .ok (m, e) := by
  have hgrows := apply_grows h
  obtain ⟨l', rfl, hstat', -⟩ := overwrite_ok h
  obtain ⟨e, hl, -⟩ := FileStore.stat_grows hgrows hstat
  obtain rfl : l' = l := by
    rw [hstat'] at hl
    cases hl
    rfl
  refine ⟨hstat', fun hne hother => ?_⟩
  refine FileStore.stat_of_grows hgrows hother ?_
  rw [FileStore.get?_set_ne s hne]
  exact get?_of_stat hother

/-! ## Operations that may fail -/

/-- The operation with other content, as when only a part of it arrives. -/
def cutShort (content : Bytes) : Operation → Operation
  | .makeDirectory path => .makeDirectory path
  | .create path _ => .create path content
  | .overwrite path _ => .overwrite path content

theorem IsAddition.cutShort {op : Operation} (h : op.IsAddition) (content : Bytes) :
    (op.cutShort content).IsAddition := by
  cases op with
  | makeDirectory p => exact h
  | create p c => exact h
  | overwrite p c => exact h.elim

/-- Whether an operation replaces a file does not depend on its content. -/
theorem Replaces.of_cutShort {s : FileStore} {op : Operation} {content : Bytes} {l : Location}
    (h : (op.cutShort content).Replaces s l) : op.Replaces s l := by
  obtain ⟨path, content', old, hop, hstat⟩ := h
  cases op with
  | makeDirectory p => exact nomatch hop
  | create p c => exact nomatch hop
  | overwrite p c =>
    cases hop
    exact ⟨path, c, old, rfl, hstat⟩

/-- A mishap breaks an operation off when a part of it is done, which leaves the store `t`. -/
def BreaksOff (s : FileStore) (op : Operation) (t : FileStore) (trouble : Trouble) : Prop :=
  ∃ mishap part, s.conditions.mishaps.lookup op.path = some mishap ∧ mishap.trouble = trouble ∧
    op.brokenOff mishap = some part ∧ part.apply s = .ok t

/-- How an operation goes: the store after it, and why it failed if it did. -/
inductive Goes (s : FileStore) (op : Operation) : FileStore → Option Cause → Prop
  | whole {t : FileStore} (h : op.apply s = .ok t) : Goes s op t none
  | undone (cause : Cause) : Goes s op s (some cause)
  | broken {t : FileStore} {trouble : Trouble} (h : op.BreaksOff s t trouble) :
      Goes s op t (some (.trouble trouble))

theorem goes_carryOut (s : FileStore) (op : Operation) :
    op.Goes s (op.carryOut s).1 (op.carryOut s).2 := by
  unfold carryOut
  split
  next cause _ => exact .undone cause
  next t happly =>
    split
    next => exact .whole happly
    next mishap hlookup =>
      cases hpart : op.brokenOff mishap with
      | none => exact .undone _
      | some part =>
        cases hleft : part.apply s with
        | error cause =>
          simp only [Option.bind_some, hleft, Except.toOption, Option.getD_none]
          exact .undone _
        | ok u =>
          simp only [Option.bind_some, hleft, Except.toOption, Option.getD_some]
          exact .broken ⟨mishap, part, hlookup, rfl, hpart, hleft⟩

/-- An operation that nothing stands in the way of is carried out. -/
theorem carryOut_of_ok {s t : FileStore} {op : Operation} (h : op.apply s = .ok t)
    (hfree : s.conditions.mishaps.lookup op.path = none) : op.carryOut s = (t, none) := by
  rw [carryOut, h, hfree]

namespace BreaksOff

variable {s t : FileStore} {trouble : Trouble} {path : String} {content : Bytes}

/-- A directory is made or not. -/
theorem not_makeDirectory : ¬ (makeDirectory path).BreaksOff s t trouble := by
  rintro ⟨mishap, part, -, -, hpart, -⟩
  exact nomatch hpart

/-- A file whose creation is broken off holds a beginning of its content. -/
theorem create (h : (create path content).BreaksOff s t trouble) :
    ∃ part, part <+: content ∧ (create path part).apply s = .ok t := by
  obtain ⟨mishap, op, -, -, hop, happly⟩ := h
  obtain ⟨n, -, rfl⟩ := Option.map_eq_some_iff.mp hop
  exact ⟨content.take n, List.take_prefix n content, happly⟩

/-- A file that is broken off while it is overwritten holds a beginning of its new content. -/
theorem overwrite (h : (overwrite path content).BreaksOff s t trouble) :
    ∃ part, part <+: content ∧ (overwrite path part).apply s = .ok t := by
  obtain ⟨mishap, op, -, -, hop, happly⟩ := h
  obtain ⟨n, -, rfl⟩ := Option.map_eq_some_iff.mp hop
  exact ⟨content.take n, List.take_prefix n content, happly⟩

/-- What is done of an operation that is broken off is the operation with other content. -/
theorem cutShort {op : Operation} (h : op.BreaksOff s t trouble) :
    ∃ content, (op.cutShort content).apply s = .ok t := by
  cases op with
  | makeDirectory path => exact absurd h not_makeDirectory
  | create path content =>
    obtain ⟨part, -, happly⟩ := h.create
    exact ⟨part, happly⟩
  | overwrite path content =>
    obtain ⟨part, -, happly⟩ := h.overwrite
    exact ⟨part, happly⟩

end BreaksOff

/-- An operation without a fault is done. -/
theorem attempt_done {s : FileStore} {op : Operation} (h : (op.carryOut s).2 = none) :
    op.apply s = .ok (attempt s op) := by
  have hgoes := goes_carryOut s op
  unfold attempt
  rw [h] at hgoes
  generalize (op.carryOut s).1 = t at hgoes
  cases hgoes with
  | whole happly => exact happly

/-- An operation with a fault is not done, or broken off. -/
theorem attempt_failed {s : FileStore} {op : Operation} {cause : Cause}
    (h : (op.carryOut s).2 = some cause) :
    attempt s op = s ∨ ∃ trouble, op.BreaksOff s (attempt s op) trouble := by
  have hgoes := goes_carryOut s op
  unfold attempt
  rw [h] at hgoes
  generalize (op.carryOut s).1 = t at hgoes
  cases hgoes with
  | undone => exact Or.inl rfl
  | broken hbroken => exact Or.inr ⟨_, hbroken⟩

/-- After an operation the store is as it was, or as the operation or a part of it left it. -/
theorem attempt_cases (s : FileStore) (op : Operation) :
    attempt s op = s ∨ op.apply s = .ok (attempt s op) ∨
      ∃ content, (op.cutShort content).apply s = .ok (attempt s op) := by
  cases hcause : (op.carryOut s).2 with
  | none => exact Or.inr (Or.inl (attempt_done hcause))
  | some cause =>
    rcases attempt_failed hcause with h | ⟨trouble, h⟩
    · exact Or.inl h
    · exact Or.inr (Or.inr h.cutShort)

theorem attempt_grows (s : FileStore) (op : Operation) : Grows s (attempt s op) := by
  rcases attempt_cases s op with h | h | ⟨content, h⟩
  · rw [h]
    exact .refl s
  · exact apply_grows h
  · exact apply_grows h

theorem attempt_extends (s : FileStore) {op : Operation} (hadd : op.IsAddition) :
    Extends s (attempt s op) := by
  rcases attempt_cases s op with h | h | ⟨content, h⟩
  · rw [h]
    exact .refl s
  · exact apply_extends hadd h
  · exact apply_extends (hadd.cutShort content) h

theorem get?_attempt {s : FileStore} {op : Operation} {l : Location} {e : Entry}
    (hget : s.get? l = some e) (hkeep : ¬ op.Replaces s l) : (attempt s op).get? l = some e := by
  rcases attempt_cases s op with h | h | ⟨content, h⟩
  · rw [h, hget]
  · exact get?_apply h hget hkeep
  · exact get?_apply h hget fun hreplaces => hkeep hreplaces.of_cutShort

/-! ## Operations one after the other -/

theorem replay_cons (s : FileStore) (op : Operation) (ops : List Operation) :
    replay s (op :: ops) = replay (attempt s op) ops := rfl

theorem replay_append (s : FileStore) (first second : List Operation) :
    replay s (first ++ second) = replay (replay s first) second :=
  List.foldl_append ..

theorem replay_grows : ∀ (ops : List Operation) (s : FileStore), Grows s (replay s ops)
  | [], s => .refl s
  | op :: ops, s => (attempt_grows s op).trans (replay_grows ops (attempt s op))

theorem replay_extends {ops : List Operation} (hadd : ∀ op ∈ ops, op.IsAddition) :
    ∀ s : FileStore, Extends s (replay s ops) := by
  induction ops with
  | nil => exact fun s => .refl s
  | cons op ops ih =>
    intro s
    have hstep := attempt_extends s (hadd op (List.mem_cons_self ..))
    exact hstep.trans (ih (fun o ho => hadd o (List.mem_cons_of_mem _ ho)) (attempt s op))

end Unbundle.Operation
