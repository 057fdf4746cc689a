import Unbundle.Attempt
import Unbundle.FileStore.Operation

/-!
# Work on a store

A computation that changes a store by operations, tells notices and may stop with an error. It keeps
a journal of the operations it has carried out, failed ones included; what was done and told before
an error remains.
-/

namespace Unbundle

/-- What came of some work: the store after it, the operations carried out, what was told, and the
result. -/
structure Worked (α : Type) where
  store : FileStore
  journal : List Operation := []
  notices : List Notice := []
  result : Except Error α

/-- A computation that works on a store. -/
def Work (α : Type) := FileStore → Worked α

namespace Work

variable {α β : Type}

/-- Work that is done. -/
protected def pure (a : α) : Work α := fun s => ⟨s, [], [], .ok a⟩

/-- Goes on with the result of some work, if it has one. -/
protected def bind (x : Work α) (f : α → Work β) : Work β := fun s =>
  let before := x s
  match before.result with
  | .error e => ⟨before.store, before.journal, before.notices, .error e⟩
  | .ok a =>
    let after := f a before.store
    ⟨after.store, before.journal ++ after.journal, before.notices ++ after.notices, after.result⟩

instance : Monad Work where
  pure := Work.pure
  bind := Work.bind

/-- Tells one notice. -/
def tell (notice : Notice) : Work Unit := fun s => ⟨s, [], [notice], .ok ()⟩

/-- Stops with an error. -/
def fail (error : Error) : Work α := fun s => ⟨s, [], [], .error error⟩

/-- A computation that only looks at the store. -/
def look (f : FileStore → Attempt α) : Work α := fun s => ⟨s, [], (f s).notices, (f s).result⟩

/-- A computation that only looks at the store and tells nothing. -/
def check (f : FileStore → Except Error α) : Work α := fun s => ⟨s, [], [], f s⟩

/-- Carries out an operation; a fault is handed back. -/
def attempt (op : Operation) : Work (Option Fault) := fun s =>
  if !FileStore.acceptable op.path then ⟨s, [], [], .error (.invalid .embeddedNul)⟩
  else
    let (after, cause) := op.carryOut s
    ⟨after, [op], [], .ok (cause.map fun cause => ⟨cause, op.path⟩)⟩

/-- Carries out an operation; a fault stops the work with the error that `wrap` makes of it. -/
def perform (wrap : Fault → Error) (op : Operation) : Work Unit := do
  match ← attempt op with
  | none => return
  | some fault => fail (wrap fault)

end Work

end Unbundle
