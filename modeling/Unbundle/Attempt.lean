import Unbundle.Error
import Unbundle.Notice

/-!
# Attempts

A computation that tells notices as it goes and may stop with an error. What was told before it
stopped remains.
-/

namespace Unbundle

/-- The outcome of a computation that tells notices and may fail. -/
structure Attempt (α : Type) where
  notices : List Notice := []
  result : Except Error α

namespace Attempt

variable {α β : Type}

/-- Tells one notice. -/
def tell (notice : Notice) : Attempt Unit := ⟨[notice], .ok ()⟩

/-- Tells several notices. -/
def tellAll (notices : List Notice) : Attempt Unit := ⟨notices, .ok ()⟩

/-- Stops with an error. -/
def fail (error : Error) : Attempt α := ⟨[], .error error⟩

/-- A computation that tells nothing. -/
def ofExcept (result : Except Error α) : Attempt α := ⟨[], result⟩

/-- Goes on with the value of a computation, if it has one. -/
protected def bind (x : Attempt α) (f : α → Attempt β) : Attempt β :=
  match x.result with
  | .error e => ⟨x.notices, .error e⟩
  | .ok a => ⟨x.notices ++ (f a).notices, (f a).result⟩

instance : Monad Attempt where
  pure a := ⟨[], .ok a⟩
  bind := Attempt.bind

end Attempt

end Unbundle
