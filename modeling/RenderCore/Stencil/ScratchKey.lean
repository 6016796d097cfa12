import RenderCore.Journal.Basic

/-!
# Scratch keys

Resources that can stand in for one another have the same scratch key: their type and the words
that describe their form. A key carries a digest of both, so that most comparisons end at the
first word.
-/

namespace RenderCore

/-- A type of resource. Keys of different types are different whatever their words. -/
structure ResourceType where
  value : UInt16
  deriving DecidableEq, Repr

/-- The type of stencil buffers. -/
def ResourceType.stencil : ResourceType := ⟨1⟩

/-- Hands out resource types; the first ones are taken by this library. -/
structure TypeSupply where
  next : UInt16 := 2
  deriving DecidableEq, Repr

/-- A new resource type. The value 0 shows that the supply is used up. -/
def TypeSupply.generate (build : Build) : Act TypeSupply ResourceType := do
  let value ← modifyGet fun supply => (supply.next, { supply with next := supply.next + 1 })
  build.expect (value ≠ 0) "resource type counter overflowed"
  return ⟨value⟩

/-- A scratch key. -/
structure ScratchKey where
  digest : UInt32
  type : ResourceType
  words : List UInt32
  deriving DecidableEq, Repr

namespace ScratchKey

/-- The digest of a type and words. No answer depends on which function this is: words decide
    every comparison that digests do not end. -/
def digestOf (type : ResourceType) (words : List UInt32) : UInt32 :=
  words.foldl (fun digest word => (digest ^^^ word) * 16777619)
    (2166136261 ^^^ type.value.toUInt32)

/-- The key of a type and words. -/
def ofWords (type : ResourceType) (words : List UInt32) : ScratchKey :=
  { digest := digestOf type words, type, words }

/-- Whether a length fits into half a word. -/
def fitsHalf (length : UInt32) : Bool := length ≤ 65535

/-- The words of a stencil buffer: width and height in one word if both fit, and the samples.
    Lengths that do not fit get a word each, so the number of words tells the two forms apart. -/
def stencilWords (width height samples : UInt32) : List UInt32 :=
  if fitsHalf width && fitsHalf height then [width ||| (height <<< 16), samples]
  else [width, height, samples]

/-- The key of a stencil buffer. The bits of a sample do not matter. -/
def ofStencil (width height samples : UInt32) : ScratchKey :=
  ofWords .stencil (stencilWords width height samples)

/-- The key of a stencil buffer, with a report if a length does not fit into half a word. -/
def forStencil (build : Build) (width height samples : UInt32) : Act Journal ScratchKey := do
  if !(fitsHalf width && fitsHalf height) then
    let size := toString width.toNat ++ "x" ++ toString height.toNat
    build.expect false ("stencil size " ++ size ++ " exceeds 16 bits")
    Journal.log .warn "canvas2d::StencilBuffer"
      ("Stencil size " ++ size ++ " exceeds 16 bits, using an unpacked key")
  return ofStencil width height samples

end ScratchKey

end RenderCore
