import Crossbar.Element.Error
import Crossbar.Element.Kind

/-!
# Elements, ports and their state

An element is a numbered instance of a kind, and a port is a terminal of an
element.  Both are identities: state such as a coefficient or an initial value
is attached to the end of a connection and never takes part in them.
-/

namespace Crossbar

/-- State attached to an element at one end of a connection. -/
inductive State where
  /-- The coefficient of a potentiometer. -/
  | potentiometer (coefficient : Float)
  /-- The initial value of an integrator, and its time scale if it is not the
  default. -/
  | integrator (initial : Float) (timeScale : Option UInt32)
  deriving BEq, Repr

/-- A numbered instance of a kind. -/
structure Element where
  kind : Kind
  number : UInt32
  deriving DecidableEq, Repr

/-- A terminal of an element.  The kind of the element has the terminal. -/
structure Port where
  element : Element
  terminal : Terminal
  listed : terminal ∈ element.kind.terminals
  deriving DecidableEq, Repr

def Element.text (element : Element) : String :=
  element.kind.name ++ toString element.number.toNat

/-- The port of an element with a terminal of the given name. -/
def Element.port (element : Element) (name : String) : Except ElementError Port :=
  match found : element.kind.terminal? name with
  | some terminal => .ok ⟨element, terminal, List.mem_of_find?_eq_some found⟩
  | none => .error (.unknownPort element.kind name)

namespace Port

/-- A port of a kind that is known to have the terminal. -/
def ofTerminal (kind : Kind) (number : UInt32) (terminal : Terminal)
    (listed : terminal ∈ kind.terminals) : Port :=
  ⟨⟨kind, number⟩, terminal, listed⟩

def kind (port : Port) : Kind := port.element.kind

def number (port : Port) : UInt32 := port.element.number

def text (port : Port) : String := port.element.text ++ port.terminal.name

def direction (port : Port) : Direction :=
  if port.terminal ∈ port.kind.inputs then .sink else .source

/-! ## Ports of virtual elements -/

/-- One side of the potentiometer of a lane. -/
def potentiometer (lane : UInt32) : Direction → Port
  | .sink => .ofTerminal .potentiometer lane .input (by decide)
  | .source => .ofTerminal .potentiometer lane .output (by decide)

def externalInput (channel : UInt32) : Port :=
  .ofTerminal .externalInput channel .source (by decide)

def constant (number : UInt32) : Port :=
  .ofTerminal .constant number .source (by decide)

def converter (channel : UInt32) : Port :=
  .ofTerminal .converter channel .sink (by decide)

def externalOutput (channel : UInt32) : Port :=
  .ofTerminal .externalOutput channel .sink (by decide)

end Port

/-- The end of a connection: a port and the state its element has there. -/
structure Endpoint where
  port : Port
  state : Option State
  deriving BEq, Repr

namespace Endpoint

/-- An end without state. -/
def bare (port : Port) : Endpoint := ⟨port, none⟩

/-- The coefficient, if the state is that of a potentiometer. -/
def coefficient? (endpoint : Endpoint) : Option Float :=
  match endpoint.state with
  | some (.potentiometer coefficient) => some coefficient
  | _ => none

end Endpoint

end Crossbar
