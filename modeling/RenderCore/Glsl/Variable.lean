import RenderCore.Gpu.Dialect

/-!
# Variables of generated shaders

A variable has a name, a data type, a storage class, a precision and perhaps an array length. Its
declaration depends on the dialect: older versions have other words for inputs and outputs, and
only embedded devices take precisions.
-/

namespace RenderCore

/-- Data types. -/
inductive DataType where
  | float
  | vec2
  | vec3
  | vec4
  | mat3
  | mat4
  | sampler2D
  deriving DecidableEq, Repr

/-- The word for a data type. -/
def DataType.word : DataType → String
  | .float => "float"
  | .vec2 => "vec2"
  | .vec3 => "vec3"
  | .vec4 => "vec4"
  | .mat3 => "mat3"
  | .mat4 => "mat4"
  | .sampler2D => "sampler2D"

/-- Number of floats in a value of the type; samplers hold none. -/
def DataType.components : DataType → Nat
  | .float => 1
  | .vec2 => 2
  | .vec3 => 3
  | .vec4 => 4
  | .mat3 => 9
  | .mat4 => 16
  | .sampler2D => 0

/-- Precisions of a variable. -/
inductive Precision where
  /-- The precision that the stage has by default. -/
  | unspecified
  | low
  | medium
  | high
  deriving DecidableEq, Repr

/-- The word for a precision and the blank after it. -/
def Precision.qualifier : Precision → String
  | .unspecified => ""
  | .low => "lowp "
  | .medium => "mediump "
  | .high => "highp "

/-- Where the value of a variable comes from or goes to. -/
inductive Storage where
  /-- Nowhere: the variable belongs to the shader. -/
  | plain
  /-- From the vertex being drawn. -/
  | vertexInput
  /-- From an earlier stage, interpolated. -/
  | varyingIn
  /-- To a later stage, interpolated. -/
  | varyingOut
  /-- From the program. -/
  | uniform
  /-- To what the last stage writes. -/
  | output
  deriving DecidableEq, Repr

/-- The word for a storage class in a version of the language. -/
def Storage.keyword (version : GlslVersion) : Storage → String
  | .plain => ""
  | .vertexInput => if version.usesInOut then "in" else "attribute"
  | .varyingIn => if version.usesInOut then "in" else "varying"
  | .varyingOut => if version.usesInOut then "out" else "varying"
  | .uniform => "uniform"
  | .output => "out"

/-- A variable of a shader. -/
structure Variable where
  name : String
  type : DataType
  storage : Storage := .plain
  precision : Precision := .unspecified
  /-- Number of elements, if the variable is an array. -/
  arrayCount : Option UInt32 := none
  deriving DecidableEq, Repr

namespace Variable

/-- An input of the vertex stage. -/
def vertexInput (name : String) (type : DataType) : Variable :=
  { name, type, storage := .vertexInput }

/-- A uniform. -/
def uniform (name : String) (type : DataType) : Variable :=
  { name, type, storage := .uniform }

/-- A variable of the shader's own. -/
def plain (name : String) (type : DataType) : Variable := { name, type }

/-- The length of an array in brackets. -/
def arraySuffix : Option UInt32 → String
  | some count => "[" ++ toString count.toNat ++ "]"
  | none => ""

/-- The storage class and the blank after it. -/
def storageWords (dialect : Dialect) (v : Variable) : String :=
  let keyword := v.storage.keyword dialect.version
  if keyword = "" then "" else keyword ++ " "

/-- The precision and the blank after it, for dialects that have precisions. -/
def precisionWords (dialect : Dialect) (v : Variable) : String :=
  if dialect.usesPrecision then v.precision.qualifier else ""

/-- The declaration of a variable, up to the semicolon. -/
def declaration (dialect : Dialect) (v : Variable) : String :=
  v.storageWords dialect ++ v.precisionWords dialect ++ v.type.word ++ " " ++ v.name
    ++ arraySuffix v.arrayCount

end Variable

end RenderCore
