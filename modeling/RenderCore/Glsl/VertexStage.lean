import RenderCore.Glsl.ProgramBuilder
import RenderCore.Gpu.Session

/-!
# The vertex stage under construction

A vertex stage collects inputs, outputs and the statements of its main function, and emits the
transform of device pixels to normalised coordinates. It is assembled into a source, compiled and
attached to a program; after that it cannot be edited. This module holds the stage itself; how it
is edited together with its program is in `RenderCore.Glsl.Construction`.
-/

namespace RenderCore

/-- How far a stage has come. -/
inductive StagePhase where
  /-- Nothing was declared. -/
  | fresh
  /-- Inputs, outputs or statements were added. -/
  | declaring
  /-- The transform of the position was emitted. -/
  | transformEmitted
  /-- The source was compiled and attached. -/
  | assembled
  deriving DecidableEq, Repr

/-- Place of a phase in the life of a stage. -/
def StagePhase.rank : StagePhase → Nat
  | .fresh => 0
  | .declaring => 1
  | .transformEmitted => 2
  | .assembled => 3

/-- The uniform that holds the adjustment of the render target: its name and its handle. -/
structure AdjustmentUniform where
  name : String
  handle : UniformHandle
  deriving DecidableEq, Repr

/-- The types of position that can be transformed. -/
inductive PositionType where
  /-- Two coordinates. -/
  | planar
  /-- Two coordinates and a divisor. -/
  | homogeneous
  deriving DecidableEq, Repr

/-- The type of position that a data type stands for. -/
def PositionType.ofDataType? : DataType → Option PositionType
  | .vec2 => some .planar
  | .vec3 => some .homogeneous
  | _ => none

/-- The statements that transform a position and set the size of points. -/
def transformCode (type : PositionType) (position adjustment : String) : String :=
  let p := position
  let rt := adjustment
  let assignment := match type with
    | .planar =>
      "gl_Position = vec4(" ++ p ++ ".x * " ++ rt ++ ".x + " ++ rt ++ ".y, "
        ++ p ++ ".y * " ++ rt ++ ".z + " ++ rt ++ ".w, 0, 1);"
    | .homogeneous =>
      "gl_Position = vec4(dot(" ++ p ++ ".xz, " ++ rt ++ ".xy)/" ++ p ++ ".z, dot("
        ++ p ++ ".yz, " ++ rt ++ ".zw)/" ++ p ++ ".z, 0, 1);"
  assignment ++ "gl_PointSize = 1.0;"

/-- A vertex stage. -/
structure VertexStage where
  inputs : Declarations := {}
  outputs : Declarations := {}
  code : String := ""
  /-- The name of the uniform that holds the adjustment of the render target, once the transform was
      emitted. -/
  adjustmentName : Option String := none
  /-- The handle of that uniform. -/
  adjustmentHandle : Option UniformHandle := none
  phase : StagePhase := .fresh
  deriving DecidableEq, Repr

namespace VertexStage

/-- The stage after its first edit. -/
def begun (stage : VertexStage) : VertexStage :=
  if stage.phase = .fresh then { stage with phase := .declaring } else stage

/-- Adds statements. -/
def appendCode (stage : VertexStage) (text : String) : VertexStage :=
  { stage.begun with code := stage.code ++ text }

/-- Adds an input unless its name is taken; says whether it did. -/
def addInput (stage : VertexStage) (input : Variable) : Bool × VertexStage :=
  let (added, inputs) := stage.inputs.pushUnique input
  (added, { stage.begun with inputs })

/-- Adds an output to later stages. -/
def addOutput (stage : VertexStage) (name : String) (type : DataType) : VertexStage :=
  { stage.begun with outputs := stage.outputs.push { name, type, storage := .varyingOut } }

/-- Adds the transform of a position by an adjustment. -/
def addTransform (stage : VertexStage) (type : PositionType) (position : String)
    (adjustment : AdjustmentUniform) : VertexStage :=
  { stage with
    code := stage.code ++ transformCode type position adjustment.name
    adjustmentName := some adjustment.name
    adjustmentHandle := some adjustment.handle
    phase := .transformEmitted }

/-- The uniform that holds the adjustment of the render target. -/
def adjustment (stage : VertexStage) : Option AdjustmentUniform := do
  return { name := ← stage.adjustmentName, handle := ← stage.adjustmentHandle }

/-- The source of the stage: version, uniforms, inputs, outputs and the main function. -/
def source {π : Type} [StageHost π] (stage : VertexStage) (program : π) (dialect : Dialect) :
    String :=
  dialect.versionLine ++ StageHost.uniformText program .vertex dialect
    ++ stage.inputs.text dialect ++ stage.outputs.text dialect
    ++ "void main() \x7b" ++ stage.code ++ "\x7d\n"

end VertexStage

end RenderCore
