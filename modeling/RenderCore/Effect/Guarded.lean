/-!
# Values behind a lock

A lock is poisoned by a panic that unwinds while the value is held for writing. A poisoned value
is refused to later users for ever. Holding it for reading never poisons.
-/

namespace RenderCore

/-- A value behind a lock. -/
structure Guarded (α : Type) where
  value : α
  poisoned : Bool := false
  deriving DecidableEq, Repr

namespace Guarded

variable {α : Type}

/-- The value, unless the lock is poisoned. -/
def open? (guarded : Guarded α) : Option α :=
  if guarded.poisoned then none else some guarded.value

/-- Marks the lock as poisoned. -/
def poison (guarded : Guarded α) : Guarded α := { guarded with poisoned := true }

end Guarded

end RenderCore
