import RenderCore.Gpu.Session

/-!
# From pixels to normalised coordinates

The vertex stage maps device pixels to normalised device coordinates with one vector
`(sx, tx, sy, ty)`: `x` goes to `x * sx + tx` and `y` to `y * sy + ty`. All numbers are single
precision floats, and every operation is rounded.
-/

namespace RenderCore

/-- Where row 0 of a render target is. -/
inductive SurfaceOrigin where
  | topLeft
  | bottomLeft
  deriving DecidableEq, Repr

/-- Four floats. -/
structure Vector4 where
  x : Float32
  y : Float32
  z : Float32
  w : Float32

namespace Vector4

/-- The four floats in order. -/
def toList (v : Vector4) : List Float32 := [v.x, v.y, v.z, v.w]

/-- Equality of numbers, which a float that is no number does not meet. -/
def sameNumbers (a b : Vector4) : Bool := a.x == b.x && a.y == b.y && a.z == b.z && a.w == b.w

end Vector4

/-- The four bytes of a word, lowest first. -/
def littleEndian (word : UInt32) : List UInt8 :=
  [word.toUInt8, (word >>> 8).toUInt8, (word >>> 16).toUInt8, (word >>> 24).toUInt8]

/-- The vector that maps pixels to normalised coordinates: scale and shift of `x`, then of `y`. -/
structure TargetAdjustment where
  vector : Vector4

namespace TargetAdjustment

/-- The adjustment that maps a target of the given size onto the square from -1 to 1. With the
    origin at the top, row 0 is mapped to the top of the square. -/
def ofTarget (build : Build) (width height : UInt32) (origin : SurfaceOrigin) :
    Except Panic TargetAdjustment := do
  build.expect (0 < width && 0 < height) "render target must not be empty"
  let sx := 2 / width.toFloat32
  let sy := 2 / height.toFloat32
  return match origin with
    | .topLeft => ⟨⟨sx, -1, -sy, 1⟩⟩
    | .bottomLeft => ⟨⟨sx, -1, sy, -1⟩⟩

/-- Where the vertex stage puts a pixel position. -/
def apply (adjustment : TargetAdjustment) (x y : Float32) : Vector4 :=
  let v := adjustment.vector
  ⟨x * v.x + v.y, y * v.z + v.w, 0, 1⟩

/-- Where the vertex stage puts a pixel position in homogeneous coordinates. -/
def applyHomogeneous (adjustment : TargetAdjustment) (x y z : Float32) : Vector4 :=
  let v := adjustment.vector
  ⟨(x * v.x + z * v.y) / z, (y * v.z + z * v.w) / z, 0, 1⟩

/-- The bytes that are uploaded. -/
def bytes (adjustment : TargetAdjustment) : List UInt8 :=
  adjustment.vector.toList.flatMap fun number => littleEndian number.toBits

/-- Uploads the adjustment as the value of a uniform. -/
def upload {δ : Type} [Backend δ] (adjustment : TargetAdjustment) (program : ProgramId)
    (handle : UniformHandle) : Act (Session δ) Unit :=
  Session.setUniform program handle adjustment.bytes

end TargetAdjustment

end RenderCore
