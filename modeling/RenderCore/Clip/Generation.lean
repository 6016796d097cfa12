/-!
# Clip generations

A clip generation names one version of a clip stack: equal generations mean equal clip geometry.
The values below `firstUnreserved` have a fixed meaning or none; an `Issuer` hands out the others
one after the other and starts over when the range is used up.
-/

namespace RenderCore

/-- The name of one version of a clip stack. -/
structure ClipGeneration where
  value : Int32
  deriving DecidableEq, Repr

namespace ClipGeneration

/-- No clip has been rendered. -/
def invalid : ClipGeneration := ⟨0⟩

/-- The clip that rejects everything. -/
def empty : ClipGeneration := ⟨1⟩

/-- The clip that accepts everything. -/
def wideOpen : ClipGeneration := ⟨2⟩

/-- The first generation that an issuer hands out. -/
def firstUnreserved : ClipGeneration := ⟨3⟩

/-- Generations are ordered by value. -/
instance : Ord ClipGeneration where
  compare a b := compare a.value b.value

/-- Whether the generation names some clip. -/
def isValid (generation : ClipGeneration) : Bool := generation ≠ invalid

/-- Whether the generation lies before those that an issuer hands out. -/
def isReserved (generation : ClipGeneration) : Bool := generation.value < firstUnreserved.value

/-- Hands out generations. -/
structure Issuer where
  next : Int32
  deriving DecidableEq, Repr

/-- An issuer that has handed out nothing. -/
def Issuer.initial : Issuer := ⟨firstUnreserved.value⟩

/-- The next generation. After the largest word comes the first unreserved generation again. -/
def Issuer.issue (issuer : Issuer) : ClipGeneration × Issuer :=
  (⟨issuer.next⟩,
    ⟨if issuer.next = Int32.maxValue then firstUnreserved.value else issuer.next + 1⟩)

/-- The next `count` generations, in the order in which they are handed out. -/
def Issuer.issueMany (issuer : Issuer) : Nat → List ClipGeneration × Issuer
  | 0 => ([], issuer)
  | count + 1 =>
    let (first, issuer) := issuer.issue
    let (rest, issuer) := issuer.issueMany count
    (first :: rest, issuer)

end ClipGeneration

end RenderCore
