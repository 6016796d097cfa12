import RenderCore.Journal.Calendar

/-!
# Log entries
-/

namespace RenderCore

/-- How serious an entry is. -/
inductive Severity where
  /-- Look-ups and emitted lines. -/
  | trace
  /-- Steps of the work. -/
  | debug
  /-- Set-up and tear-down. -/
  | info
  /-- Possible mistakes of the user. -/
  | warn
  /-- Failures. -/
  | error
  deriving DecidableEq, Repr

/-- Place of a severity in the order from the least to the most serious. -/
def Severity.rank : Severity → Nat
  | .trace => 0
  | .debug => 1
  | .info => 2
  | .warn => 3
  | .error => 4

/-- Where an entry was written. -/
inductive Site where
  /-- A place within this library. -/
  | internal
  /-- A line of a user's file. -/
  | code (file : String) (line : UInt32)
  deriving DecidableEq, Repr

/-- The place given by a file and a line; with only one of them there is none. -/
def Site.ofParts? : Option String → Option UInt32 → Option Site
  | some file, some line => some (.code file line)
  | _, _ => none

/-- One entry of a log. -/
structure Entry where
  severity : Severity
  /-- The component that reports. -/
  source : String
  message : String
  /-- The place that reports; failures have one. -/
  site : Option Site := none
  /-- The time of the report, if a clock was read. -/
  time : Option Instant := none
  deriving DecidableEq, Repr

end RenderCore
