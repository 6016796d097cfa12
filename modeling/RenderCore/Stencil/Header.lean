import RenderCore.Gpu.Session
import RenderCore.Stencil.ScratchKey

/-!
# What every GPU resource records
-/

namespace RenderCore

/-- Who owns the GPU object of a resource, and whether it is shared. -/
inductive LifeCycle where
  /-- Owned here, and handed out again under its scratch key. -/
  | cached
  /-- Owned here, for one user. -/
  | uncached
  /-- Owned by someone else, and never freed here. -/
  | wrapped
  deriving DecidableEq, Repr

/-- The record of a resource. -/
structure ResourceHeader where
  lifeCycle : LifeCycle
  id : ResourceId
  scratchKey : Option ScratchKey := none
  /-- Whether the GPU object was given up. -/
  released : Bool := false
  deriving DecidableEq, Repr

namespace ResourceHeader

/-- The record of a new resource. -/
def create {δ : Type} (lifeCycle : LifeCycle) : Act (Session δ) ResourceHeader := do
  return { lifeCycle, id := ← Session.freshResource }

/-- Sets the scratch key. Only cached resources have one, and it is set once. -/
def setScratchKey (build : Build) (key : ScratchKey) (header : ResourceHeader) :
    Except Panic ResourceHeader := do
  build.expect (header.lifeCycle = .cached) "only cached resources get scratch keys"
  build.expect header.scratchKey.isNone "scratch key already set"
  return { header with scratchKey := some key }

/-- Marks the resource as given up; says whether it was not yet. -/
def markReleased (header : ResourceHeader) : Bool × ResourceHeader :=
  (!header.released, { header with released := true })

end ResourceHeader

end RenderCore
