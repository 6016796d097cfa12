import RenderCore.Glsl.TargetAdjustment
import RenderCore.Glsl.VertexStage

/-!
# Building the vertex stage of a program

A construction is a program, its vertex stage and the shaders attached so far, within a session.
The edits of this module check that the stage can still be edited, change it, and report what they
refuse.
-/

namespace RenderCore

/-- A program and its vertex stage under construction. -/
structure Construction (δ : Type) (π : Type := ProgramBuilder) where
  program : π
  vertex : VertexStage := {}
  /-- The shaders attached so far, oldest first. -/
  shaders : List ShaderId := []
  session : Session δ

namespace Construction

variable {δ π : Type}

instance : MonadLift (Act (Session δ)) (Act (Construction δ π)) where
  monadLift := Act.within (·.session) fun session construction => { construction with session }

instance : MonadLift (Act π) (Act (Construction δ π)) where
  monadLift := Act.within (·.program) fun program construction => { construction with program }

/-- The component named in reports. -/
def component : String := "canvas2d::VertexShaderBuilder"

/-- The base name of the uniform that holds the adjustment of the render target. -/
def adjustmentBaseName : String := "rtAdjustment"

/-- Changes the stage. -/
def editStage (edit : VertexStage → VertexStage) : Act (Construction δ π) Unit :=
  modify fun construction => { construction with vertex := edit construction.vertex }

/-- Whether the stage can be edited; reports the edit called `what` if it cannot. -/
def checkEditable (build : Build) (what : String) : Act (Construction δ π) Bool := do
  if (← get).vertex.phase = .assembled then
    build.expect false (what ++ " on an assembled vertex shader builder")
    Journal.failure component (what ++ " on an assembled vertex shader builder, ignored")
    return false
  return true

/-- Adds statements to the main function. -/
def appendCode (build : Build) (text : String) : Act (Construction δ π) Unit := do
  if ← checkEditable build "code_append" then
    editStage (·.appendCode text)

/-- Declares an input; says whether its name was new. -/
def addInput (build : Build) (input : Variable) : Act (Construction δ π) Bool := do
  build.expect (input.storage = .vertexInput) ("'" ++ input.name ++ "' is not an attribute")
  if ← checkEditable build "add_attribute" then
    let (added, vertex) := (← get).vertex.addInput input
    editStage fun _ => vertex
    if !added then
      Journal.log .trace component ("Attribute '" ++ input.name ++ "' already declared")
    return added
  return false

/-- Declares the attributes of a vertex layout, in order. -/
def addLayout (build : Build) (layout : VertexLayout) : Act (Construction δ π) Unit :=
  layout.attributes.forM fun a => discard (addInput build a.asInput)

variable [StageHost π]

/-- Declares an output under a new name, which it gives. -/
def addOutput (build : Build) (base : String) (type : DataType) :
    Act (Construction δ π) String := do
  let name ← (StageHost.issueName (some 'v') base : Act π String)
  if ← checkEditable build "add_varying" then
    editStage (·.addOutput name type)
  return name

/-- Emits the transform of a position from device pixels to normalised coordinates, with a new
    uniform for the adjustment. This can be done once. -/
def emitTransform (build : Build) (position : Variable) : Act (Construction δ π) Unit := do
  if (← get).vertex.adjustmentName.isSome then
    build.expect false "position transform emitted twice"
    Journal.failure component "Position transform emitted twice, ignored"
  else if ← checkEditable build "transform_to_normalized_device_space" then
    match PositionType.ofDataType? position.type with
    | none =>
      build.expect false ("position '" ++ position.name ++ "' must be vec2 or vec3")
      Journal.failure component
        ("Position '" ++ position.name ++ "' has unsupported type " ++ position.type.word)
    | some type =>
      let (handle, name) ←
        (StageHost.addUniform build .vertex .vec4 .unspecified adjustmentBaseName : Act π _)
      editStage (·.addTransform type position.name { name, handle })

/-- The source of the vertex stage. -/
def vertexSource (construction : Construction δ π) (dialect : Dialect) : String :=
  construction.vertex.source construction.program dialect

variable [Backend δ]

/-- Binds the attributes of the program's layout to slots, one after the other. -/
def bindAttributes (program : ProgramId) : Act (Construction δ π) Unit := do
  (StageHost.layout (← get).program).slots.zipIdx.forM fun (name, slot) =>
    (Session.bindAttribute program slot.toUInt32 name : Act (Session δ) Unit)

/-- Assembles and compiles the vertex stage and attaches it to a program. If that fails, the stage
    can still be edited. -/
def compile (build : Build) (program : ProgramId) : Act (Construction δ π) ShaderId := do
  let construction ← get
  if construction.vertex.phase = .assembled then
    build.expect false "vertex shader compiled twice"
    Journal.refuse component
      ("Vertex shader for program " ++ toString program.val.toNat ++ " already assembled")
  let source := construction.vertexSource construction.session.dialect
  let shader ← (Session.attachShader program .vertex source : Act (Session δ) ShaderId)
  modify fun construction => { construction with shaders := construction.shaders ++ [shader] }
  editStage fun stage => { stage with phase := .assembled }
  Journal.log .debug component
    ("Attached vertex shader " ++ toString shader.val.toNat ++ " to program "
      ++ toString program.val.toNat)
  return shader

end Construction

end RenderCore
