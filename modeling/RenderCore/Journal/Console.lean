import RenderCore.Effect.Stop
import RenderCore.Journal.Entry

/-!
# Entries on a console

An entry is printed on one line: time, severity, source, message and, if it is known, the place
that reported it. On a console with colours the severity and the source are coloured.
-/

namespace RenderCore.Console

/-- Ends a coloured stretch of text. -/
def reset : String := "\x1b[0m"

/-- Starts a stretch of text in the colour with the given code. -/
def opening (code : String) : String := "\x1b[" ++ code ++ "m"

/-- Colours a text. Where a coloured stretch within the text ends, the outer colour resumes. -/
def paint (code text : String) : String :=
  opening code ++ (reset ++ opening code).intercalate (text.splitOn reset) ++ reset

/-- Five letters for each severity. -/
def label : Severity → String
  | .trace => "TRACE"
  | .debug => "DEBUG"
  | .info => "INFO "
  | .warn => "WARN "
  | .error => "ERROR"

/-- Bright black, cyan, green, yellow and bold red. -/
def severityColour : Severity → String
  | .trace => "90"
  | .debug => "36"
  | .info => "32"
  | .warn => "33"
  | .error => "1;31"

/-- Bright blue. -/
def sourceColour : String := "94"

/-- Time of an entry; a placeholder if no clock was read. -/
def timeText : Option Instant → String
  | some instant => instant.text
  | none => "<time>"

/-- Place of an entry, with a placeholder for one within this library. -/
def siteText : Site → String
  | .internal => "<file>:<line>"
  | .code file line => file ++ ":" ++ toString line.toNat

/-- The line printed for an entry. -/
def line (coloured : Bool) (entry : Entry) : String :=
  let paint := fun code text => if coloured then paint code text else text
  let place := match entry.site with
    | some site => " (" ++ siteText site ++ ")"
    | none => ""
  "[" ++ timeText entry.time ++ "] [" ++ paint (severityColour entry.severity) (label entry.severity)
    ++ "] [" ++ paint sourceColour entry.source ++ "] " ++ entry.message ++ place ++ "\n"

/-- Whether a console with the given threshold prints entries of a severity. -/
def enabled (threshold severity : Severity) : Bool := threshold.rank ≤ severity.rank

/-- A debug build prints more of its own accord. -/
def defaultThreshold : Build → Severity
  | .release => .info
  | .debug => .debug

end RenderCore.Console
