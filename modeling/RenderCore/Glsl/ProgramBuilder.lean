import RenderCore.Effect.Act
import RenderCore.Glsl.Declarations
import RenderCore.Glsl.NameSupply
import RenderCore.Gpu.Backend

/-!
# Programs under construction

What the stages of a program share while it is built: the uniforms, the supply of names, and the
layout of the vertices to be drawn. A stage asks its program for these through `StageHost`;
`ProgramBuilder` is a program that keeps them all itself.
-/

namespace RenderCore

/-- A vertex attribute that a kind of primitive consumes. -/
structure VertexAttribute where
  name : String
  type : DataType
  deriving DecidableEq, Repr

/-- The attribute as an input of the vertex stage. -/
def VertexAttribute.asInput (a : VertexAttribute) : Variable := .vertexInput a.name a.type

/-- The vertex attributes of a kind of primitive, in the order in which they are bound. -/
structure VertexLayout where
  name : String
  attributes : List VertexAttribute
  deriving DecidableEq, Repr

namespace VertexLayout

/-- Number of attributes. -/
def size (layout : VertexLayout) : Nat := layout.attributes.length

/-- The attribute at a place, counted from 0. -/
def get? (layout : VertexLayout) (index : Nat) : Option VertexAttribute :=
  layout.attributes[index]?

/-- The names to be bound, one slot after the other. A repeated name keeps its first slot. -/
def slots (layout : VertexLayout) : List String := (layout.attributes.map (·.name)).eraseDups

end VertexLayout

/-- The stages that see a uniform, one bit for each. -/
structure Visibility where
  bits : UInt32
  deriving DecidableEq, Repr

namespace Visibility

/-- The vertex stage. -/
def vertex : Visibility := ⟨1⟩

/-- The fragment stage. -/
def fragment : Visibility := ⟨2⟩

/-- Whether no stage is meant. -/
def isEmpty (visibility : Visibility) : Bool := visibility.bits = 0

/-- Whether the two have a stage in common. -/
def meets (a b : Visibility) : Bool := a.bits &&& b.bits ≠ 0

end Visibility

/-- What a stage asks of the program that it is built for. -/
class StageHost (π : Type) where
  /-- Registers a uniform; gives its handle and its name. -/
  addUniform : Build → Visibility → DataType → Precision → String → Act π (UniformHandle × String)
  /-- Hands out a name. -/
  issueName : Option Char → String → Act π String
  /-- The declarations of the uniforms that some of the given stages see. -/
  uniformText : π → Visibility → Dialect → String
  /-- The vertices to be drawn. -/
  layout : π → VertexLayout

/-- A uniform of a program. -/
structure Uniform where
  declared : Variable
  visibility : Visibility
  deriving DecidableEq, Repr

/-- A program under construction. -/
structure ProgramBuilder where
  uniforms : List Uniform := []
  names : NameSupply := {}
  layout : VertexLayout
  deriving DecidableEq, Repr

namespace ProgramBuilder

/-- The uniform that a handle stands for. -/
def uniform? (program : ProgramBuilder) (handle : UniformHandle) : Option Uniform :=
  program.uniforms[handle.val.toNat]?

/-- Hands out a name. -/
def issueName (letter : Option Char) (base : String) : Act ProgramBuilder String :=
  modifyGet fun program =>
    let (name, names) := program.names.issue letter base
    (name, { program with names })

/-- Marks the names handed out from now on with a stage, or with none. -/
def setStage (stage : Option UInt32) : Act ProgramBuilder Unit :=
  modify fun program => { program with names := program.names.setStage stage }

/-- Registers a uniform; gives its handle and its name. -/
def addUniform (build : Build) (visibility : Visibility) (type : DataType) (precision : Precision)
    (base : String) : Act ProgramBuilder (UniformHandle × String) := do
  build.expect (!visibility.isEmpty) ("uniform '" ++ base ++ "' is visible to no stage")
  let name ← issueName (some 'u') base
  let handle := ⟨(← get).uniforms.length.toUInt32⟩
  let declared := { Variable.uniform name type with precision }
  modify fun program => { program with uniforms := program.uniforms ++ [{ declared, visibility }] }
  return (handle, name)

/-- The uniforms that some of the given stages see. -/
def visibleUniforms (program : ProgramBuilder) (visibility : Visibility) : Declarations :=
  { members := (program.uniforms.filter (·.visibility.meets visibility)).map (·.declared) }

instance : StageHost ProgramBuilder where
  addUniform := addUniform
  issueName := issueName
  uniformText program visibility dialect := (program.visibleUniforms visibility).text dialect
  layout := layout

end ProgramBuilder

end RenderCore
