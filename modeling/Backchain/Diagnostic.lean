import Backchain.Log
import Backchain.Span

/-! Diagnostics: what a user is told about a step, with its severity and its place in a source. -/

namespace Backchain

/-- How serious a diagnostic is. Only errors make a check fail. -/
inductive Severity where
  | error
  | warning
deriving DecidableEq

/-- The name of a severity. -/
def Severity.label : Severity → String
  | .error => "error"
  | .warning => "warning"

/-- What a diagnostic is about. -/
inductive DiagnosticKind where
  | solveFailed
  | solveMalformedGoal
  | solveUnreliable
deriving DecidableEq

/-- The stable code of each kind. -/
def DiagnosticKind.code : DiagnosticKind → String
  | .solveFailed => "solve-failed"
  | .solveMalformedGoal => "solve-malformed-goal"
  | .solveUnreliable => "solve-unreliable"

/-- A message to the user. Debugging details are not part of the message. -/
structure Diagnostic where
  severity : Severity
  kind : DiagnosticKind
  message : String
  span : Option Span
  debugInfo : Option String := none
deriving DecidableEq

namespace Diagnostic

/-- Whether a diagnostic makes a check fail. -/
def isError (d : Diagnostic) : Bool := d.severity = .error

/-- The message after its place and, for a warning, the word that marks it. -/
def fullMessage (d : Diagnostic) : String :=
  let location :=
    match d.span with
    | some span => span.display ++ ": "
    | none => "unknown file: "
  let mark := if d.isError then "" else "warning: "
  location ++ mark ++ d.message

/-- The log record of a diagnostic. -/
def record (d : Diagnostic) : Log.Record :=
  match d.severity with
  | .error => ⟨.error, d.fullMessage⟩
  | .warning => ⟨.warn, d.fullMessage⟩

end Diagnostic

end Backchain
