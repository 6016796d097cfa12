import RenderCore.Glsl.Variable

/-!
# Blocks of declarations

Variables are declared in the order in which they were added.
-/

namespace RenderCore

/-- The variables of one block. -/
structure Declarations where
  members : List Variable := []
  deriving DecidableEq, Repr

namespace Declarations

/-- Number of variables. -/
def size (block : Declarations) : Nat := block.members.length

/-- Whether nothing is declared. -/
def isEmpty (block : Declarations) : Bool := block.members.isEmpty

/-- The first variable with a name. -/
def find? (block : Declarations) (name : String) : Option Variable :=
  block.members.find? (·.name = name)

/-- Whether some variable has the name. -/
def declares (block : Declarations) (name : String) : Bool := (block.find? name).isSome

/-- The variable at a place, counted from 0. -/
def get? (block : Declarations) (index : Nat) : Option Variable := block.members[index]?

/-- Adds a variable at the end. -/
def push (block : Declarations) (v : Variable) : Declarations :=
  { members := block.members ++ [v] }

/-- Adds a variable at the end unless its name is taken; says whether it did. -/
def pushUnique (block : Declarations) (v : Variable) : Bool × Declarations :=
  if block.declares v.name then (false, block) else (true, block.push v)

/-- One line for each variable. -/
def text (dialect : Dialect) (block : Declarations) : String :=
  String.join (block.members.map fun v => v.declaration dialect ++ ";\n")

end Declarations

end RenderCore
