import RenderCore.Gpu.Backend

/-!
# A backend that records

A GPU that does nothing but number its objects and write down every call, for checking which calls
were made. It can be told to reject every shader and to refuse every allocation.
-/

namespace RenderCore

/-- A recorded call. -/
inductive GpuCall where
  | createProgram (program : ProgramId)
  | deleteProgram (program : ProgramId)
  | attachShader (program : ProgramId) (stage : ShaderStage) (source : String)
  | deleteShader (shader : ShaderId)
  | bindAttribute (program : ProgramId) (slot : UInt32) (name : String)
  | setUniform (program : ProgramId) (handle : UniformHandle) (bytes : List UInt8)
  | createStencil (stencil : StencilId) (shape : StencilShape)
  | deleteStencil (stencil : StencilId)
  deriving DecidableEq, Repr

/-- State of the recording backend. -/
structure Recorder where
  calls : List GpuCall := []
  /-- Name of the next object, of whatever kind. -/
  nextId : UInt32 := 1
  /-- The compiler log that every shader is rejected with, if shaders are rejected. -/
  rejection : Option String := none
  /-- Whether every allocation of stencil storage fails. -/
  outOfMemory : Bool := false
  deriving DecidableEq, Repr

namespace Recorder

/-- Writes down a call. -/
def record (call : GpuCall) (recorder : Recorder) : Recorder :=
  { recorder with calls := recorder.calls ++ [call] }

/-- The name of a new object. -/
def freshId : Act Recorder UInt32 :=
  modifyGet fun recorder => (recorder.nextId, { recorder with nextId := recorder.nextId + 1 })

instance : Backend Recorder where
  createProgram := do
    let program := ⟨← freshId⟩
    modify (record (.createProgram program))
    return program
  deleteProgram program := record (.deleteProgram program)
  attachShader program stage source := do
    modify (record (.attachShader program stage source))
    match (← get).rejection with
    | some log => Act.fail (.compilation log)
    | none => return ⟨← freshId⟩
  deleteShader shader := record (.deleteShader shader)
  bindAttribute program slot name := modify (record (.bindAttribute program slot name))
  setUniform program handle bytes := modify (record (.setUniform program handle bytes))
  createStencil _ shape := do
    if (← get).outOfMemory then Act.fail .outOfMemory
    let stencil := ⟨← freshId⟩
    modify (record (.createStencil stencil shape))
    return stencil
  deleteStencil stencil := record (.deleteStencil stencil)

end Recorder

end RenderCore
