import RenderCore.Effect.Act

/-!
# What a GPU does for its users

The calls that the library makes to a GPU. A backend is a state with these calls; each call either
answers or stops with a fault. Objects are named by words that the backend chooses.
-/

namespace RenderCore

/-- Names a program: the stages that are linked to one another. -/
structure ProgramId where
  val : UInt32
  deriving DecidableEq, Repr

/-- Names a compiled shader. -/
structure ShaderId where
  val : UInt32
  deriving DecidableEq, Repr

/-- Names the storage of a stencil buffer. -/
structure StencilId where
  val : UInt32
  deriving DecidableEq, Repr

/-- Names a uniform by its place in the table of the program that registered it. -/
structure UniformHandle where
  val : UInt32
  deriving DecidableEq, Repr

/-- The programmable stages. -/
inductive ShaderStage where
  | vertex
  | fragment
  deriving DecidableEq, Repr

/-- The name of a stage at the start of a report. -/
def ShaderStage.title : ShaderStage → String
  | .vertex => "Vertex"
  | .fragment => "Fragment"

/-- What decides how much storage a stencil buffer takes. -/
structure StencilShape where
  width : UInt32
  height : UInt32
  /-- Bits for each sample. -/
  bits : UInt32
  /-- Samples for each pixel; 0 stands for a buffer without multisampling. -/
  samples : UInt32
  deriving DecidableEq, Repr

/-- The state of a GPU and the calls it answers. -/
class Backend (δ : Type) where
  /-- Makes an empty program. -/
  createProgram : Act δ ProgramId
  /-- Destroys a program. -/
  deleteProgram : ProgramId → δ → δ
  /-- Compiles a source for a stage and attaches the shader to a program. A source that is
      rejected leaves the programs as they are. -/
  attachShader : ProgramId → ShaderStage → String → Act δ ShaderId
  /-- Destroys a shader. -/
  deleteShader : ShaderId → δ → δ
  /-- Binds a slot of the vertex input to the attribute with the given name. -/
  bindAttribute : ProgramId → UInt32 → String → Act δ Unit
  /-- Uploads the bytes of a uniform. -/
  setUniform : ProgramId → UniformHandle → List UInt8 → Act δ Unit
  /-- Allocates storage for a stencil buffer. -/
  createStencil : Build → StencilShape → Act δ StencilId
  /-- Frees the storage of a stencil buffer. -/
  deleteStencil : StencilId → δ → δ

end RenderCore
