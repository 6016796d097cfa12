import RenderCore.Stencil.CacheSession

/-!
# Stencil attachments

A render target does not own its stencil buffer: it holds a weak key into the cache. When the cache
has evicted the buffer, the attachment finds out at its next use and lets the key go.
-/

namespace RenderCore

/-- How the key of a stencil buffer is written in reports. -/
def ArenaKey.text (key : ArenaKey) : String :=
  "StencilBufferKey(" ++ toString key.slot ++ "v" ++ toString key.version.toNat ++ ")"

/-- A render target's reference to its stencil buffer. -/
structure StencilAttachment where
  key : Option ArenaKey := none
  deriving DecidableEq, Repr

namespace StencilAttachment

/-- The component named in reports. -/
def component : String := "canvas2d::StencilAttachment"

/-- Whether a key is held; its buffer may have been evicted. -/
def isAttached (attachment : StencilAttachment) : Bool := attachment.key.isSome

/-- The attachment without a key. The cache keeps the buffer for others. -/
def detached : StencilAttachment := {}

/-- The key held, if its buffer is in the cache and has the size and number of samples of a
    shape. -/
def fitting? (attachment : StencilAttachment) (cache : StencilCache) (shape : StencilShape) :
    Option ArenaKey := do
  let key ← attachment.key
  let buffer ← cache.find? key
  if buffer.shape.width = shape.width ∧ buffer.shape.height = shape.height
      ∧ buffer.shape.samples = shape.samples then
    some key
  else none

variable {δ : Type}

/-- Lets the key of an evicted buffer go. -/
def letGo (key : ArenaKey) : Act (CacheSession δ) StencilAttachment := do
  Journal.log .debug component ("Stencil buffer " ++ key.text ++ " was evicted, detaching")
  return detached

/-- The buffer that is attached. -/
def resolve (attachment : StencilAttachment) :
    Act (CacheSession δ) (Option StencilBuffer × StencilAttachment) := do
  match attachment.key with
  | none => return (none, attachment)
  | some key =>
    match (← get).cache.find? key with
    | some buffer => return (some buffer, attachment)
    | none => return (none, ← letGo key)

/-- The buffer that is attached, to be changed; it becomes the most recently used one. -/
def access (attachment : StencilAttachment) :
    Act (CacheSession δ) (Option StencilBuffer × StencilAttachment) := do
  match attachment.key with
  | none => return (none, attachment)
  | some key =>
    if (← get).cache.contains key then
      return (← CacheSession.access key, attachment)
    else
      return (none, ← letGo key)

/-- Records the clip that was rendered into the buffer that is attached; says whether there is
    one. -/
def setClip (attachment : StencilAttachment) (clip : ClipRecord) :
    Act (CacheSession δ) (Bool × StencilAttachment) := do
  let (found, attachment) ← attachment.access
  match found, attachment.key with
  | some buffer, some key =>
    CacheSession.edit (·.store key { buffer with clip })
    return (true, attachment)
  | _, _ => return (false, attachment)

variable [Backend δ]

/-- Attaches a buffer for a render target of the given shape: the one held, if it fits, or else
    one from the cache. -/
def attach (build : Build) (attachment : StencilAttachment) (shape : StencilShape) :
    Act (CacheSession δ) (ArenaKey × StencilAttachment) := do
  match attachment.fitting? (← get).cache shape with
  | some key => return (key, attachment)
  | none =>
    let key ← CacheSession.findOrCreate build shape
    return (key, { key := some key })

end StencilAttachment

end RenderCore
