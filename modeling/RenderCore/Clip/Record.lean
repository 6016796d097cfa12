import RenderCore.Clip.Generation
import RenderCore.Clip.Rect

/-!
# The clip a stencil buffer holds

A stencil buffer remembers which clip was last rendered into it, so that the same clip need not be
rendered again.
-/

namespace RenderCore

/-- A rendered clip: its generation, the rectangle it was rendered for in clip space, and the
    displacement from clip space to the buffer. -/
structure ClipRecord where
  generation : ClipGeneration
  rect : Rect
  offset : Offset
  deriving DecidableEq, Repr

namespace ClipRecord

/-- The record of a buffer into which nothing was rendered. -/
def blank : ClipRecord := ⟨.invalid, .empty, .zero⟩

/-- Whether `wanted` has to be rendered into a buffer that holds `held`: unless the same
    generation is there at the same displacement, over a rectangle that covers the wanted one. -/
def mustRender (held wanted : ClipRecord) : Bool :=
  held.generation ≠ wanted.generation || held.offset ≠ wanted.offset
    || !held.rect.contains wanted.rect

end ClipRecord

end RenderCore
