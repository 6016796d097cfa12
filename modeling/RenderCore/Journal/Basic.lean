import RenderCore.Effect.Act
import RenderCore.Effect.Guarded
import RenderCore.Journal.Console

/-!
# The journal

All components report to one journal. It passes each entry to the logger in charge, which stands
behind a lock; writing an entry only reads the lock, so a logger that fails does not poison it.
-/

namespace RenderCore

/-- What becomes of an entry. -/
inductive Logger where
  /-- Prints the entries that are at least as serious as the threshold. -/
  | console (threshold : Severity)
  /-- Keeps every entry. It then fails if `alarm` holds of the entries kept before and the new
      one. -/
  | keeper (alarm : List Entry → Entry → Bool)

/-- The logger of a program that has chosen none. -/
def Logger.standard (build : Build) : Logger := .console (Console.defaultThreshold build)

/-- A logger that keeps every entry and never fails. -/
def Logger.quiet : Logger := .keeper fun _ _ => false

/-- The logger in charge, and what loggers have kept and printed so far. -/
structure Journal where
  logger : Guarded Logger
  kept : List Entry := []
  printed : List String := []

namespace Journal

/-- A journal in which nothing was written. -/
def ofLogger (logger : Logger) : Journal := { logger := { value := logger } }

/-- Passes an entry to the logger. -/
def write (entry : Entry) : Act Journal Unit := do
  let journal ← get
  match journal.logger.open? with
  | none => pure ()
  | some (.console threshold) =>
    if Console.enabled threshold entry.severity then
      set { journal with printed := journal.printed ++ [Console.line false entry] }
  | some (.keeper alarm) =>
    set { journal with kept := journal.kept ++ [entry] }
    if alarm journal.kept entry then Act.panic .logger

/-- Reports a message. -/
def log (severity : Severity) (source message : String) : Act Journal Unit :=
  write { severity, source, message }

/-- Reports a failure, with the place of the report. -/
def failure (source message : String) : Act Journal Unit :=
  write { severity := .error, source, message, site := some .internal }

/-- Reports a refusal and gives the fault that tells the caller of it. -/
def refusal (source text : String) : Act Journal Fault := do
  failure source text
  return .backend text

/-- Reports a refusal and stops with it. -/
def refuse {α : Type} (source text : String) : Act Journal α := do
  Act.fail (← refusal source text)

/-- Puts another logger in charge. -/
def setLogger (logger : Logger) : Act Journal Unit :=
  modify fun journal =>
    match journal.logger.open? with
    | some _ => { journal with logger := { value := logger } }
    | none => journal

end Journal

end RenderCore
