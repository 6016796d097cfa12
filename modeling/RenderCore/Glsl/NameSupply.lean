/-!
# Names for generated variables

The variables of one program have different names. A wanted name that is taken gets the least
number that makes it new.
-/

namespace RenderCore

/-- The names that a program has handed out. -/
structure NameSupply where
  /-- The processing stage that names are marked with, while there is one. -/
  stage : Option UInt32 := none
  issued : List String := []
  deriving DecidableEq, Repr

namespace NameSupply

/-- The name that is wanted: a letter for the kind of variable, the base name, and the mark of the
    stage. -/
def wanted (supply : NameSupply) (letter : Option Char) (base : String) : String :=
  let lettered := match letter with
    | some c => c.toString ++ base
    | none => base
  match supply.stage with
  | some stage => lettered ++ "_Stage" ++ toString stage.toNat
  | none => lettered

/-- The forms of a wanted name, in order of preference: as it is, then with a number. -/
def form (wanted : String) : Nat → String
  | 0 => wanted
  | k + 1 => wanted ++ "_" ++ toString (k + 1)

/-- The first form of a wanted name that is not among the issued ones. There is one among the
    first `issued.length + 1`, since the forms are different from one another. -/
def firstFree (issued : List String) (wanted : String) : String :=
  match (List.range (issued.length + 1)).find? fun k => form wanted k ∉ issued with
  | some k => form wanted k
  | none => wanted

/-- Hands out a name. -/
def issue (supply : NameSupply) (letter : Option Char) (base : String) : String × NameSupply :=
  let name := firstFree supply.issued (supply.wanted letter base)
  (name, { supply with issued := name :: supply.issued })

/-- Marks the names handed out from now on with a stage, or with none. -/
def setStage (supply : NameSupply) (stage : Option UInt32) : NameSupply := { supply with stage }

end NameSupply

end RenderCore
