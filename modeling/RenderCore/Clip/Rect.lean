import RenderCore.Effect.Stop

/-!
# Pixel rectangles

Rectangles of device pixels, given by their edges. The left and top edges belong to the rectangle,
the right and bottom edges do not, so a rectangle with `right ≤ left` or `bottom ≤ top` has no
pixel. Edges that would leave the 32-bit range stop at its ends.
-/

namespace RenderCore

/-- Sum of two signed words, stopped at the ends of their range. -/
def clampedAdd (a b : Int32) : Int32 := Int32.ofIntClamp (a.toInt + b.toInt)

/-- A displacement in pixels. -/
structure Offset where
  x : Int32
  y : Int32
  deriving DecidableEq, Repr

/-- No displacement. -/
def Offset.zero : Offset := ⟨0, 0⟩

/-- A rectangle of pixels. -/
structure Rect where
  left : Int32
  top : Int32
  right : Int32
  bottom : Int32
  deriving DecidableEq, Repr

namespace Rect

/-- The rectangle at the origin that has no pixel. -/
def empty : Rect := ⟨0, 0, 0, 0⟩

/-- The rectangle with a corner at `(x, y)` and the given size. -/
def ofSize (x y width height : Int32) : Rect :=
  ⟨x, y, clampedAdd x width, clampedAdd y height⟩

/-- Distance from the left to the right edge. -/
def width (build : Build) (r : Rect) : Except Panic Int32 := build.subInt32 r.right r.left

/-- Distance from the top to the bottom edge. -/
def height (build : Build) (r : Rect) : Except Panic Int32 := build.subInt32 r.bottom r.top

/-- Whether the rectangle has no pixel. -/
def isEmpty (r : Rect) : Bool := r.right ≤ r.left || r.bottom ≤ r.top

/-- Whether `inner` lies within `outer`. A rectangle without pixels lies within none and has none
    within it. -/
def contains (outer inner : Rect) : Bool :=
  !inner.isEmpty && !outer.isEmpty
    && outer.left ≤ inner.left && outer.top ≤ inner.top
    && inner.right ≤ outer.right && inner.bottom ≤ outer.bottom

/-- The rectangle moved by `delta`. -/
def translate (r : Rect) (delta : Offset) : Rect :=
  ⟨clampedAdd r.left delta.x, clampedAdd r.top delta.y,
    clampedAdd r.right delta.x, clampedAdd r.bottom delta.y⟩

end Rect

end RenderCore
