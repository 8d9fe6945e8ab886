import Crossbar.Element.Identifier

/-!
# Connections

A wire leads a signal from one port to another.  A connection is a wire whose
ends may carry state.  Connections come from an editor as they are drawn, so
they may have shapes that can never be routed.
-/

namespace Crossbar

structure Wire where
  source : Port
  target : Port
  deriving DecidableEq, Repr

structure Connection where
  source : Endpoint
  target : Endpoint
  deriving BEq, Repr

namespace Wire

def text (wire : Wire) : String := s!"{wire.source.text} -> {wire.target.text}"

/-- Why a wire can never be routed.  The signal leaves through an output and
enters through an input, and two virtual elements are joined by exactly one
potentiometer. -/
def shapeFault? (wire : Wire) : Option ShapeFault :=
  let source := wire.source.kind
  let target := wire.target.kind
  if source.isSink then some .sinkAsSource
  else if target.isSource then some .sourceAsTarget
  else if wire.source.direction ≠ .source then some .inputAsSource
  else if wire.target.direction ≠ .sink then some .outputAsTarget
  else if source.isVirtual ∧ target.isVirtual ∧
      (source = .potentiometer ↔ target = .potentiometer) then
    some .virtualToVirtual
  else none

/-- The number of the potentiometer at one end, that of the source first. -/
def potentiometer? (wire : Wire) : Option UInt32 :=
  if wire.source.kind = .potentiometer then some wire.source.number
  else if wire.target.kind = .potentiometer then some wire.target.number
  else none

end Wire

namespace Connection

def wire (connection : Connection) : Wire :=
  ⟨connection.source.port, connection.target.port⟩

def text (connection : Connection) : String := connection.wire.text

/-- Connects two ends, refusing shapes that can never be routed. -/
def checked (source target : Endpoint) : Except ElementError Connection :=
  match Wire.shapeFault? ⟨source.port, target.port⟩ with
  | some fault => .error (.invalidConnection source.port.text target.port.text fault)
  | none => .ok ⟨source, target⟩

/-- Reads a connection from the identifiers of its ports.  Its shape is left to
the router. -/
def parse (source target : String) : Except ElementError Connection := do
  let source ← Port.parse source
  let target ← Port.parse target
  return ⟨.bare source, .bare target⟩

def parseAll (edges : List (String × String)) : Except ElementError (List Connection) :=
  edges.mapM fun (source, target) => parse source target

end Connection

end Crossbar
