/-!
# Dialects of the shading language

What a context says about the shading language it understands, as far as it shows in generated
source.
-/

namespace RenderCore

/-- Generations of the shading language. -/
inductive GlslVersion where
  /-- 1.10 on a desktop, 1.00 on an embedded device. -/
  | v110
  | v130
  | v140
  | v150
  | v330
  /-- 3.10, for embedded devices. -/
  | v310es
  deriving DecidableEq, Repr

namespace GlslVersion

/-- Place of a version among the generations, oldest first. -/
def rank : GlslVersion → Nat
  | .v110 => 0
  | .v130 => 1
  | .v140 => 2
  | .v150 => 3
  | .v330 => 4
  | .v310es => 5

/-- Versions are ordered by generation. -/
instance : Ord GlslVersion where
  compare a b := compare a.rank b.rank

/-- Whether inputs and outputs of a stage are declared with `in` and `out`. -/
def usesInOut (version : GlslVersion) : Bool := version ≠ .v110

end GlslVersion

/-- The two families of graphics standards. -/
inductive GlStandard where
  | desktop
  /-- Embedded devices and browsers. -/
  | es
  deriving DecidableEq, Repr

/-- The dialect that a context understands. -/
structure Dialect where
  version : GlslVersion
  standard : GlStandard
  /-- Whether versions 1.50 and 3.30 are asked for with their compatibility profile. -/
  compatibility : Bool
  deriving DecidableEq, Repr

namespace Dialect

/-- The dialect of a context that does not choose one. -/
def standardDesktop : Dialect := ⟨.v140, .desktop, false⟩

/-- Whether declarations carry precision qualifiers. -/
def usesPrecision (dialect : Dialect) : Bool := dialect.standard = .es

/-- What stands after the word that announces the version. -/
def versionName (dialect : Dialect) : String :=
  let profile := if dialect.compatibility then " compatibility" else ""
  match dialect.version, dialect.standard with
  | .v110, .es => "100"
  | .v110, .desktop => "110"
  | .v130, _ => "130"
  | .v140, _ => "140"
  | .v150, _ => "150" ++ profile
  | .v330, _ => "330" ++ profile
  | .v310es, _ => "310 es"

/-- The line that opens every shader. -/
def versionLine (dialect : Dialect) : String := "#version " ++ dialect.versionName ++ "\n"

end Dialect

end RenderCore
