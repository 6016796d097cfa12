/-!
# How an operation ends early

An operation either answers, or reports a `Fault` to its caller, or is cut short by a `Panic`.
A fault is an expected failure that callers handle; a panic is a broken expectation, an overflow
or a failing logger, and it unwinds through every caller. Which expectations are checked depends
on the `Build`.
-/

namespace RenderCore

/-- How strictly a program checks itself. A debug build stops at a broken expectation and at an
    arithmetic overflow; a release build carries on, and its arithmetic wraps around. -/
inductive Build where
  | release
  | debug
  deriving DecidableEq, Repr

/-- The arithmetic operations that can overflow. -/
inductive Arithmetic where
  | add
  | subtract
  | multiply
  deriving DecidableEq, Repr

/-- The verb that names an operation in the report of its overflow. -/
def Arithmetic.verb : Arithmetic → String
  | .add => "add"
  | .subtract => "subtract"
  | .multiply => "multiply"

/-- Why an operation was cut short. -/
inductive Panic where
  /-- A debug build found an expectation broken. -/
  | expectation (text : String)
  /-- A debug build met a result that does not fit its word. -/
  | overflow (operation : Arithmetic)
  /-- The logger failed on an entry. -/
  | logger
  deriving DecidableEq, Repr

/-- The text a panic is reported with. -/
def Panic.message : Panic → String
  | .expectation text => text
  | .overflow operation => "attempt to " ++ operation.verb ++ " with overflow"
  | .logger => "logger panic"

/-- A failure that is reported to the caller. -/
inductive Fault where
  /-- The GPU backend, or a service shared by its users, refused a request. -/
  | backend (text : String)
  /-- No GPU memory is left for an allocation. -/
  | outOfMemory
  /-- A request named an object that does not exist. -/
  | invalidResource (text : String)
  /-- A service was used in the wrong order of set-up and tear-down. -/
  | initialization (text : String)
  /-- A shader was rejected; the text is the compiler's log. -/
  | compilation (log : String)
  deriving DecidableEq, Repr

/-- The text a fault is shown with. -/
def Fault.message : Fault → String
  | .backend text => "Backend error: " ++ text
  | .outOfMemory => "Out of GPU memory"
  | .invalidResource text => "Invalid resource: " ++ text
  | .initialization text => "Initialization failed: " ++ text
  | .compilation log => "Shader compilation failed: " ++ log

/-- The two ways of not answering. -/
inductive Stop where
  | fault (fault : Fault)
  | panic (panic : Panic)
  deriving DecidableEq, Repr

namespace Build

/-- In a debug build, stops with `text` unless `holds`; a release build does not look. -/
def expect (build : Build) (holds : Bool) (text : String) : Except Panic Unit :=
  if build = .debug ∧ holds = false then .error (.expectation text) else .ok ()

/-- The wrapped result of an operation. A debug build stops if the result is not `exact`. -/
def checked {α : Type} (build : Build) (operation : Arithmetic) (exact : Bool) (wrapped : α) :
    Except Panic α :=
  if build = .debug ∧ exact = false then .error (.overflow operation) else .ok wrapped

/-- Sum of two 64-bit words. -/
def add64 (build : Build) (a b : UInt64) : Except Panic UInt64 :=
  build.checked .add ((a + b).toNat == a.toNat + b.toNat) (a + b)

/-- Difference of two 64-bit words. -/
def sub64 (build : Build) (a b : UInt64) : Except Panic UInt64 :=
  build.checked .subtract ((a - b).toNat + b.toNat == a.toNat) (a - b)

/-- Product of two 64-bit words. -/
def mul64 (build : Build) (a b : UInt64) : Except Panic UInt64 :=
  build.checked .multiply ((a * b).toNat == a.toNat * b.toNat) (a * b)

/-- Product of two 32-bit words. -/
def mul32 (build : Build) (a b : UInt32) : Except Panic UInt32 :=
  build.checked .multiply ((a * b).toNat == a.toNat * b.toNat) (a * b)

/-- Difference of two signed 32-bit words. -/
def subInt32 (build : Build) (a b : Int32) : Except Panic Int32 :=
  build.checked .subtract ((a - b).toInt == a.toInt - b.toInt) (a - b)

end Build

end RenderCore
