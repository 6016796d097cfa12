import RenderCore.Gpu.Backend
import RenderCore.Gpu.Dialect
import RenderCore.Journal.Basic

/-!
# Working with a GPU

A session is what an operation on GPU objects finds around it: a backend, its dialect, counters of
what was asked of it, the journal, and the supply of resource names. The calls of this module go to
the backend and keep the counters; `Session.onBackend` reaches the backend without being counted.
-/

namespace RenderCore

/-- Counters of a session. -/
structure GpuStats where
  /-- Shaders given to the compiler. -/
  compilations : UInt32 := 0
  /-- Those of them that were rejected. -/
  rejections : UInt32 := 0
  /-- Attributes bound to a slot. -/
  bindings : UInt32 := 0
  /-- Stencil buffers allocated. -/
  stencils : UInt32 := 0
  deriving DecidableEq, Repr

/-- Names a resource. No two resources of a session have the same name. The program counts them in a
    32-bit word that goes round, so there this holds of the first 2^32 resources. -/
structure ResourceId where
  val : Nat
  deriving DecidableEq, Repr

/-- The surroundings of operations on GPU objects. -/
structure Session (δ : Type) where
  backend : δ
  dialect : Dialect
  journal : Journal
  stats : GpuStats := {}
  /-- Number of the next resource. -/
  nextResource : Nat := 1

namespace Session

variable {δ α : Type}

/-- Runs a call on the backend alone. -/
def onBackend (call : Act δ α) : Act (Session δ) α :=
  Act.within (·.backend) (fun backend session => { session with backend }) call

/-- Reports of an operation go to the journal of its session. -/
instance : MonadLift (Act Journal) (Act (Session δ)) where
  monadLift := Act.within (·.journal) fun journal session => { session with journal }

/-- Changes the counters. -/
def count (change : GpuStats → GpuStats) : Act (Session δ) Unit :=
  modify fun session => { session with stats := change session.stats }

/-- The name of a new resource. -/
def freshResource : Act (Session δ) ResourceId :=
  modifyGet fun session =>
    (⟨session.nextResource⟩, { session with nextResource := session.nextResource + 1 })

variable [Backend δ]

/-- Makes an empty program. -/
def createProgram : Act (Session δ) ProgramId := onBackend Backend.createProgram

/-- Destroys a program. -/
def deleteProgram (program : ProgramId) : Act (Session δ) Unit :=
  onBackend (modify (Backend.deleteProgram program))

/-- The report of a shader that was rejected. -/
def rejectionReport (program : ProgramId) (stage : ShaderStage) (fault : Fault) (source : String) :
    String :=
  stage.title ++ " shader compilation failed for program " ++ toString program.val.toNat ++ ": "
    ++ fault.message ++ "\n" ++ source

/-- Compiles a source for a stage and attaches the shader to a program. Whatever the backend
    reports, the caller is told that the compilation failed. -/
def attachShader (program : ProgramId) (stage : ShaderStage) (source : String) :
    Act (Session δ) ShaderId := do
  count fun stats => { stats with compilations := stats.compilations + 1 }
  (onBackend (Backend.attachShader program stage source)).onFault fun fault => do
    count fun stats => { stats with rejections := stats.rejections + 1 }
    Journal.failure "canvas2d::GpuContext" (rejectionReport program stage fault source)
    match fault with
    | .compilation log => Act.fail (.compilation log)
    | other => Act.fail (.compilation other.message)

/-- Destroys a shader. -/
def deleteShader (shader : ShaderId) : Act (Session δ) Unit :=
  onBackend (modify (Backend.deleteShader shader))

/-- Binds a slot of the vertex input to the attribute with the given name. -/
def bindAttribute (program : ProgramId) (slot : UInt32) (name : String) :
    Act (Session δ) Unit := do
  onBackend (Backend.bindAttribute program slot name)
  count fun stats => { stats with bindings := stats.bindings + 1 }

/-- Uploads the bytes of a uniform. -/
def setUniform (program : ProgramId) (handle : UniformHandle) (bytes : List UInt8) :
    Act (Session δ) Unit :=
  onBackend (Backend.setUniform program handle bytes)

/-- Allocates storage for a stencil buffer. -/
def createStencil (build : Build) (shape : StencilShape) : Act (Session δ) StencilId := do
  let stencil ← onBackend (Backend.createStencil build shape)
  count fun stats => { stats with stencils := stats.stencils + 1 }
  return stencil

/-- Frees the storage of a stencil buffer. -/
def deleteStencil (stencil : StencilId) : Act (Session δ) Unit :=
  onBackend (modify (Backend.deleteStencil stencil))

/-- Sets all counters back to zero. -/
def resetStats : Act (Session δ) Unit := count fun _ => {}

end Session

end RenderCore
