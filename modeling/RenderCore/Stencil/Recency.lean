import RenderCore.Stencil.Arena
import Std.Data.TreeMap

/-!
# The order of last use

Every use of an entry takes a new, larger stamp. The map from stamps to keys gives the entries in
the order of their last use.
-/

namespace RenderCore

/-- The keys of entries by the stamp of their last use. -/
structure Recency where
  byStamp : Std.TreeMap Nat ArenaKey := ∅

namespace Recency

/-- Notes that an entry was used at a stamp. -/
def note (recency : Recency) (stamp : Nat) (key : ArenaKey) : Recency :=
  ⟨recency.byStamp.insert stamp key⟩

/-- Forgets the use at a stamp. -/
def forget (recency : Recency) (stamp : Nat) : Recency := ⟨recency.byStamp.erase stamp⟩

/-- What is noted, in the order of the stamps. -/
def uses (recency : Recency) : List (Nat × ArenaKey) := recency.byStamp.toList

/-- The keys, least recently used first. -/
def oldestFirst (recency : Recency) : List ArenaKey := recency.uses.map (·.2)

end Recency

end RenderCore
