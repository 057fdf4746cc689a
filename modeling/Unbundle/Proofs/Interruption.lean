import Unbundle.Proofs.Operations

/-!
# Operations that are broken off

`Interrupted s ops t` says that `t` can be found instead of the store after `ops`: some of the
operations were carried out, and the next one perhaps in part, with any content in its file. The
stores between two operations are among them (`Interrupted.replay`).
Operations that spare a location keep what is there, however far they get (`Interrupted.keeps`).
-/

namespace Unbundle.Operation

open FileStore (Grows)

/-- The stores that operations can leave when they are broken off. -/
inductive Interrupted : FileStore → List Operation → FileStore → Prop
  /-- Nothing more is carried out. -/
  | between (s : FileStore) (ops : List Operation) : Interrupted s ops s
  /-- The next operation is not finished. -/
  | during {s t : FileStore} {op : Operation} (ops : List Operation) {content : Bytes}
      (h : (op.cutShort content).apply s = .ok t) : Interrupted s (op :: ops) t
  | after {s t : FileStore} {op : Operation} {ops : List Operation}
      (h : Interrupted (attempt s op) ops t) : Interrupted s (op :: ops) t

/-- No operation replaces the file at a location when its turn comes. -/
def Spares : FileStore → List Operation → Location → Prop
  | _, [], _ => True
  | s, op :: ops, l => ¬ op.Replaces s l ∧ Spares (attempt s op) ops l

/-! ## Sparing a location -/

theorem spares_of_additions {l : Location} :
    ∀ {ops : List Operation} {s : FileStore}, (∀ op ∈ ops, op.IsAddition) → Spares s ops l
  | [], _, _ => trivial
  | op :: _, s, hadd =>
    ⟨(hadd op (List.mem_cons_self ..)).not_replaces s l,
      spares_of_additions fun o ho => hadd o (List.mem_cons_of_mem _ ho)⟩

theorem spares_append {l : Location} {first second : List Operation} :
    ∀ {s : FileStore}, Spares s (first ++ second) l ↔
      Spares s first l ∧ Spares (replay s first) second l := by
  induction first with
  | nil => exact fun {s} => ⟨fun h => ⟨trivial, h⟩, fun h => h.2⟩
  | cons op first ih =>
    intro s
    rw [List.cons_append, Spares, Spares, replay_cons, ih, and_assoc]

theorem spares_overwrite {s : FileStore} {path : String} {content : Bytes} {l m : Location}
    {e : Entry} (hstat : s.stat path = .ok (l, e)) (hne : m ≠ l) :
    Spares s [.overwrite path content] m := by
  refine ⟨?_, trivial⟩
  rintro ⟨path', content', old, hop, hstat'⟩
  cases hop
  rw [hstat] at hstat'
  cases hstat'
  exact hne rfl

/-! ## What is found after an interruption -/

namespace Interrupted

theorem grows {s t : FileStore} {ops : List Operation} (h : Interrupted s ops t) : Grows s t := by
  induction h with
  | between s ops => exact .refl s
  | during ops h => exact apply_grows h
  | @after s _ op _ _ ih => exact (attempt_grows s op).trans ih

/-- What is spared is found as it was. -/
theorem keeps {s t : FileStore} {ops : List Operation} {l : Location} {e : Entry}
    (h : Interrupted s ops t) (hspare : Spares s ops l) (hget : s.get? l = some e) :
    t.get? l = some e := by
  induction h with
  | between s ops => exact hget
  | during ops h => exact get?_apply h hget fun hreplaces => hspare.1 hreplaces.of_cutShort
  | after _ ih => exact ih hspare.2 (get?_attempt hget hspare.1)

/-- A file that is spared reads as it did. -/
theorem read {s t : FileStore} {ops : List Operation} {path : String} {l : Location}
    {content : Bytes} (h : Interrupted s ops t) (hspare : Spares s ops l)
    (hstat : s.stat path = .ok (l, .file content)) : t.read path = .ok content := by
  have hget := h.keeps hspare (FileStore.get?_of_stat hstat)
  exact FileStore.read_eq_ok_iff.mpr ⟨l, FileStore.stat_of_grows h.grows hstat hget⟩

/-- Operations one after the other are broken off among the first or among the second. -/
theorem of_append {s t : FileStore} {first second : List Operation}
    (h : Interrupted s (first ++ second) t) :
    Interrupted s first t ∨ Interrupted (replay s first) second t := by
  induction first generalizing s with
  | nil => exact Or.inr h
  | cons op first ih =>
    cases h with
    | between => exact Or.inl (.between _ _)
    | during _ h => exact Or.inl (.during first h)
    | after h => exact (ih h).imp .after id

/-- The store after the first few operations can be found. -/
theorem replay {first rest : List Operation} :
    ∀ s : FileStore, Interrupted s (first ++ rest) (replay s first) := by
  induction first with
  | nil => exact fun s => .between s rest
  | cons op first ih => exact fun s => .after (ih (attempt s op))

end Interrupted

end Unbundle.Operation
