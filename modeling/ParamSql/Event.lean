import ParamSql.Compiler

/-!
# Events

What is reported about a request: the statement that it led to, or why it was rejected. There is
exactly one event for each request.
-/
namespace ParamSql

/-- How much an event matters to someone who follows the reports. -/
inductive Severity where
  | debug | trace
  deriving DecidableEq, Repr

def Severity.label : Severity → String
  | .debug => "DEBUG"
  | .trace => "TRACE"

inductive Event where
  | compiled (kind : RequestKind) (placeholders params : Nat) (sql : String)
  | rejected (kind : RequestKind) (cause : Error)
  deriving DecidableEq, Repr

namespace Event

def severity : Event → Severity
  | compiled .. => .debug
  | rejected .. => .trace

def message : Event → String
  | compiled .. => "compiled statement"
  | rejected .. => "rejected statement input"

/-- The event for the outcome of a request. -/
def ofOutcome (kind : RequestKind) : Except Error Statement → Event
  | .ok statement =>
    compiled kind statement.placeholderCount statement.params.length statement.text
  | .error cause => rejected kind cause

end Event

/-- Compile a request and report about it. -/
def Compiler.report (compiler : Compiler) (request : Request) : Except Error Statement × Event :=
  let outcome := compiler.compile request
  (outcome, Event.ofOutcome request.kind outcome)

end ParamSql
