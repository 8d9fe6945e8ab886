import Crossbar.Diagnostic.Basic
import Crossbar.Element.Kind

/-!
# Faults of identifiers and connections
-/

namespace Crossbar

/-- Why two ports cannot be connected in the given direction. -/
inductive ShapeFault where
  | sinkAsSource
  | sourceAsTarget
  | inputAsSource
  | outputAsTarget
  | virtualToVirtual
  deriving DecidableEq, Repr

def ShapeFault.reason : ShapeFault → String
  | .sinkAsSource => "a sink cannot act as a source"
  | .sourceAsTarget => "a source cannot act as a target"
  | .inputAsSource => "an input port cannot drive a signal"
  | .outputAsTarget => "an output port cannot receive a signal"
  | .virtualToVirtual => "two virtual elements cannot be connected directly"

/-- A fault in naming or connecting elements. -/
inductive ElementError where
  | unknownKind (name : String)
  | unknownPort (kind : Kind) (port : String)
  | malformed (identifier : String)
  | invalidConnection (source target : String) (fault : ShapeFault)
  deriving DecidableEq, Repr

namespace ElementError

def message : ElementError → String
  | .unknownKind name => s!"unknown element kind '{name}'"
  | .unknownPort kind port => s!"element kind {kind.name} has no port '{port}'"
  | .malformed identifier => s!"malformed element identifier '{identifier}'"
  | .invalidConnection source target fault =>
    s!"cannot connect {source} to {target}: {fault.reason}"

def code : ElementError → Code
  | .unknownKind _ => ⟨.catalog, 301⟩
  | .unknownPort _ _ => ⟨.catalog, 302⟩
  | .malformed _ => ⟨.catalog, 303⟩
  | .invalidConnection _ _ _ => ⟨.catalog, 304⟩

def diagnostic (error : ElementError) : Diagnostic :=
  let plain := Diagnostic.error error.code error.message
  match error with
  | .unknownKind name =>
    (plain.withSubject name).withHelp
      "element kinds are Int, Mul, Pot, Extin, Const, Daq and Extout"
  | .unknownPort kind port => plain.withSubject (kind.name ++ port)
  | .malformed identifier =>
    (plain.withSubject identifier).withNote
      "identifiers read `\x7bkind\x7d\x7bid\x7d\x7bport\x7d`, e.g. `Int0out`"
  | .invalidConnection source target _ => plain.withSubject s!"{source} -> {target}"

end ElementError

end Crossbar
