import RenderCore.Clip.Record
import RenderCore.Stencil.Header

/-!
# Stencil buffers

A stencil buffer is a resource over the storage that a backend allocated, or over none. It is given
up by releasing it, which frees storage that is owned here, or by abandoning it, when the GPU is
gone. A buffer that goes away while its storage still has to be freed is reported.
-/

namespace RenderCore

namespace StencilShape

/-- Bytes of storage, in 64-bit words that wrap around. -/
def bytes (shape : StencilShape) : UInt64 :=
  shape.width.toUInt64 * shape.height.toUInt64 * shape.bits.toUInt64 / 8
    * (max shape.samples 1).toUInt64

/-- Bytes of storage. A debug build stops at the first product that does not fit. -/
def checkedBytes (build : Build) (shape : StencilShape) : Except Panic UInt64 := do
  let pixels ← build.mul64 shape.width.toUInt64 shape.height.toUInt64
  let bits ← build.mul64 pixels shape.bits.toUInt64
  build.mul64 (bits / 8) (max shape.samples 1).toUInt64

/-- Width and height, as they are reported. -/
def sizeText (shape : StencilShape) : String :=
  toString shape.width.toNat ++ "x" ++ toString shape.height.toNat

end StencilShape

/-- How the storage of a stencil buffer is named in reports. -/
def StencilId.text (id : StencilId) : String := "StencilId(" ++ toString id.val.toNat ++ ")"

/-- A stencil buffer. -/
structure StencilBuffer where
  header : ResourceHeader
  /-- The storage that the buffer was made over. -/
  origin : Option StencilId
  shape : StencilShape
  /-- The clip that was rendered last. -/
  clip : ClipRecord := .blank
  deriving DecidableEq, Repr

namespace StencilBuffer

/-- The component named in reports. -/
def component : String := "canvas2d::StencilBuffer"

/-- The storage, unless the buffer was given up. -/
def backing (buffer : StencilBuffer) : Option StencilId :=
  if buffer.header.released then none else buffer.origin

/-- The storage that has to be freed before the buffer goes away. -/
def owed (buffer : StencilBuffer) : Option StencilId :=
  if buffer.header.lifeCycle = .wrapped then none else buffer.backing

/-- The buffer after its storage was given up. -/
def abandon (buffer : StencilBuffer) : StencilBuffer :=
  { buffer with header := buffer.header.markReleased.2 }

/-- Reports storage that is lost because the buffer goes away. -/
def drop (buffer : StencilBuffer) : Act Journal Unit :=
  match buffer.owed with
  | some storage =>
    Journal.log .warn component
      ("Stencil buffer Some(" ++ storage.text ++ ") dropped without release, GPU object leaked")
  | none => pure ()

/-- Drops buffers one after the other. If a report fails, the others are still dropped. -/
def dropAll : List StencilBuffer → Act Journal Unit
  | [] => pure ()
  | buffer :: rest => do
    buffer.drop.onPanic (dropAll rest)
    dropAll rest

variable {δ : Type}

/-- A buffer over storage that exists, or over none. A cached buffer gets its scratch key at
    once. -/
def wrap (build : Build) (lifeCycle : LifeCycle) (origin : Option StencilId)
    (shape : StencilShape) : Act (Session δ) StencilBuffer := do
  build.expect (0 < shape.bits) "stencil buffer needs at least one bit"
  build.expect (0 < shape.width && 0 < shape.height) "stencil buffer dimensions must be positive"
  let header ← ResourceHeader.create lifeCycle
  if lifeCycle = .cached then
    let key ← ScratchKey.forStencil build shape.width shape.height shape.samples
    return { header := ← header.setScratchKey build key, origin, shape }
  return { header, origin, shape }

variable [Backend δ]

/-- The report of an allocation. -/
def allocationReport (shape : StencilShape) (storage : StencilId) : String :=
  "Allocated " ++ shape.sizeText ++ " stencil (" ++ toString shape.bits.toNat ++ " bits, "
    ++ toString shape.samples.toNat ++ " samples) as " ++ storage.text

/-- A buffer over new storage. -/
def allocate (build : Build) (lifeCycle : LifeCycle) (shape : StencilShape) :
    Act (Session δ) StencilBuffer := do
  let storage ← Session.createStencil build shape
  Journal.log .debug component (allocationReport shape storage)
  wrap build lifeCycle (some storage) shape

/-- Gives the buffer up and frees its storage if it is owned here. A second release does
    nothing. -/
def release (buffer : StencilBuffer) : Act (Session δ) StencilBuffer := do
  match buffer.owed with
  | some storage => Session.deleteStencil storage
  | none => pure ()
  return buffer.abandon

end StencilBuffer

end RenderCore
