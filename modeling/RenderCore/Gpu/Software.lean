import RenderCore.Gpu.Backend
import RenderCore.Text.Search
import Std.Data.TreeMap

/-!
# A backend in software

A GPU that keeps what a driver keeps: the programs with their shaders, attribute slots and uniform
bytes, and the stencil storage that is in use. Its compiler is a check of the outline of a source:
a version line, a main function, and balanced brackets. A limit can be set on the stencil storage.
-/

namespace RenderCore

namespace Outline

/-- What a character adds to the depth of brackets. -/
def nesting (c : Char) : Int :=
  if c = '(' ∨ c = '{' ∨ c = '[' then 1 else if c = ')' ∨ c = '}' ∨ c = ']' then -1 else 0

/-- The depth of brackets after a text that starts at `depth`; none if it falls below zero on the
    way. -/
def depthAfter (depth : Int) : List Char → Option Int
  | [] => some depth
  | c :: rest => if depth + nesting c < 0 then none else depthAfter (depth + nesting c) rest

/-- Accepts a source, or gives the compiler's log. -/
def check (source : String) : Except String Unit :=
  if !("#version ".toList.isPrefixOf source.toList) then .error "0:1: missing #version"
  else if !Text.containsPhrase source "void main() \x7b" then .error "0:0: no main function"
  else match depthAfter 0 source.toList with
    | none => .error "syntax error: unexpected closing bracket"
    | some depth => if depth = 0 then .ok () else .error "syntax error: unbalanced brackets"

end Outline

/-- A shader that is attached to a program. -/
structure AttachedShader where
  id : ShaderId
  stage : ShaderStage
  source : String
  deriving DecidableEq, Repr

/-- What the software backend keeps of a program. -/
structure ProgramObject where
  shaders : List AttachedShader := []
  /-- Slot of each attribute that was bound. -/
  attributes : Std.TreeMap String UInt32 := ∅
  /-- Bytes of each uniform that was uploaded, by handle. -/
  uniforms : Std.TreeMap UInt32 (List UInt8) := ∅

/-- State of the software backend. -/
structure Software where
  /-- Name of the object made last, of whatever kind. -/
  lastId : UInt32 := 0
  /-- The programs, by name. -/
  programs : Std.TreeMap UInt32 ProgramObject := ∅
  /-- The stencil storage in use, by name. -/
  stencils : Std.TreeMap UInt32 StencilShape := ∅
  /-- How often stencil storage was allocated. -/
  allocations : Nat := 0
  /-- The most bytes of stencil storage that may be in use; no limit if there is none. -/
  stencilLimit : Option UInt64 := none

namespace Software

/-- Bytes of storage for a shape, counted in 32-bit words. -/
def storageBytes (build : Build) (shape : StencilShape) : Except Panic UInt64 := do
  let pixels ← build.mul32 shape.width shape.height
  let bits ← build.mul32 pixels shape.bits
  let bytes ← build.mul32 (bits / 8) (max shape.samples 1)
  return bytes.toUInt64

/-- Bytes of stencil storage in use. -/
def stencilBytes (build : Build) (gpu : Software) : Except Panic UInt64 :=
  gpu.stencils.values.foldlM (fun total shape => return total + (← storageBytes build shape)) 0

/-- The name of a new object. -/
def freshId : Act Software UInt32 :=
  modifyGet fun gpu => (gpu.lastId + 1, { gpu with lastId := gpu.lastId + 1 })

/-- Changes a program that exists. -/
def changeProgram (program : ProgramId) (change : ProgramObject → ProgramObject) :
    Act Software Unit := do
  let gpu ← get
  match gpu.programs[program.val]? with
  | some found => set { gpu with programs := gpu.programs.insert program.val (change found) }
  | none => Act.fail (.invalidResource ("no program " ++ toString program.val.toNat))

instance : Backend Software where
  createProgram := do
    let id ← freshId
    modify fun gpu => { gpu with programs := gpu.programs.insert id {} }
    return ⟨id⟩
  deleteProgram program gpu := { gpu with programs := gpu.programs.erase program.val }
  attachShader program stage source := do
    match Outline.check source with
    | .error log => Act.fail (.compilation log)
    | .ok () => pure ()
    let id := ⟨← freshId⟩
    changeProgram program fun found =>
      { found with shaders := found.shaders ++ [{ id, stage, source }] }
    return id
  deleteShader shader gpu :=
    { gpu with programs := gpu.programs.map fun _ found =>
        { found with shaders := found.shaders.filter (·.id ≠ shader) } }
  bindAttribute program slot name :=
    changeProgram program fun found =>
      { found with attributes := found.attributes.insert name slot }
  setUniform program handle bytes :=
    changeProgram program fun found =>
      { found with uniforms := found.uniforms.insert handle.val bytes }
  createStencil build shape := do
    let size ← storageBytes build shape
    let gpu ← get
    match gpu.stencilLimit with
    | none => pure ()
    | some limit => if limit < (← gpu.stencilBytes build) + size then Act.fail .outOfMemory
    let id ← freshId
    modify fun gpu =>
      { gpu with
        stencils := gpu.stencils.insert id shape
        allocations := gpu.allocations + 1 }
    return ⟨id⟩
  deleteStencil stencil gpu := { gpu with stencils := gpu.stencils.erase stencil.val }

end Software

end RenderCore
