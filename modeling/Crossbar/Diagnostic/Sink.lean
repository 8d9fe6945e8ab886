import Crossbar.Diagnostic.Basic

/-!
# Collected diagnostics

A sink gathers diagnostics over several tasks.  Draining it takes the pending
diagnostics away but not the count of errors, which covers the whole life of
the sink.
-/

namespace Crossbar

/-- The diagnostics not yet drained and the number of errors ever emitted. -/
structure Sink where
  pending : List Diagnostic
  /-- Counted without bound, so a counter of 64 bits agrees with it for fewer than
  2 ^ 64 errors. -/
  errorCount : Nat
  deriving DecidableEq, Repr

namespace Sink

def empty : Sink := ⟨[], 0⟩

def emit (sink : Sink) (diagnostic : Diagnostic) : Sink where
  pending := sink.pending ++ [diagnostic]
  errorCount := if diagnostic.severity.isError then sink.errorCount + 1 else sink.errorCount

def emitAll (sink : Sink) (diagnostics : List Diagnostic) : Sink :=
  diagnostics.foldl emit sink

/-- Whether an error was ever emitted. -/
def hasErrors (sink : Sink) : Bool := 0 < sink.errorCount

/-- Number of pending diagnostics with a code. -/
def count (sink : Sink) (code : Code) : Nat :=
  sink.pending.countP fun diagnostic => diagnostic.code == code

/-- Takes the pending diagnostics out, in the order they were emitted. -/
def drain (sink : Sink) : List Diagnostic × Sink :=
  (sink.pending, { sink with pending := [] })

/-- Renders the pending diagnostics one after another. -/
def render (sink : Sink) (style : Diagnostic.Style) : String :=
  String.join (sink.pending.map fun diagnostic => diagnostic.render style)

end Sink

end Crossbar
