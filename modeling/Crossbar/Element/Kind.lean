import Crossbar.Index

/-!
# Kinds of elements

A circuit is made of multipliers and integrators, which sit on computing blocks,
and of virtual elements, which have no block: converter channels and external
outputs that listen to a lane, external inputs and constants that feed a
cross-lane, and the potentiometer that stands for the coefficient of a lane.
-/

namespace Crossbar

/-- Whether a port takes a signal or gives one. -/
inductive Direction where
  | sink
  | source
  deriving DecidableEq, Repr

def Direction.name : Direction → String
  | .sink => "Sink"
  | .source => "Source"

def Direction.all : List Direction := [.sink, .source]

/-- A terminal that some kind of element has. -/
inductive Terminal where
  | a
  | b
  | input
  | output
  | sink
  | source
  deriving DecidableEq, Repr

def Terminal.name : Terminal → String
  | .a => "a"
  | .b => "b"
  | .input => "in"
  | .output => "out"
  | .sink => "sink"
  | .source => "source"

inductive Kind where
  | multiplier
  | integrator
  /-- A channel of the analog-to-digital converter. -/
  | converter
  | externalOutput
  | externalInput
  | constant
  | potentiometer
  deriving DecidableEq, Repr

namespace Kind

def name : Kind → String
  | .multiplier => "Mul"
  | .integrator => "Int"
  | .converter => "Daq"
  | .externalOutput => "Extout"
  | .externalInput => "Extin"
  | .constant => "Const"
  | .potentiometer => "Pot"

/-- All kinds in catalog order. -/
def all : List Kind :=
  [.multiplier, .integrator, .converter, .externalOutput, .externalInput, .constant,
    .potentiometer]

def ofName? (name : String) : Option Kind :=
  all.find? fun kind => kind.name == name

/-! ## Terminals -/

def inputs : Kind → List Terminal
  | .multiplier => [.a, .b]
  | .integrator | .potentiometer => [.input]
  | .converter | .externalOutput => [.sink]
  | .externalInput | .constant => []

def outputs : Kind → List Terminal
  | .multiplier | .integrator | .potentiometer => [.output]
  | .converter | .externalOutput => []
  | .externalInput | .constant => [.source]

def terminals (kind : Kind) : List Terminal := kind.inputs ++ kind.outputs

def terminal? (kind : Kind) (name : String) : Option Terminal :=
  kind.terminals.find? fun terminal => terminal.name == name

/-- The direction of a terminal, if the kind has it. -/
def direction? (kind : Kind) (terminal : Terminal) : Option Direction :=
  if terminal ∈ kind.inputs then some .sink
  else if terminal ∈ kind.outputs then some .source
  else none

/-! ## Roles -/

/-- Whether the kind has no place on a computing block. -/
def isVirtual : Kind → Bool
  | .multiplier | .integrator => false
  | _ => true

/-- Whether the kind only takes signals. -/
def isSink (kind : Kind) : Bool := kind.outputs.isEmpty

/-- Whether the kind only gives signals. -/
def isSource (kind : Kind) : Bool := kind.inputs.isEmpty

/-- The lane a sink listens to: converter channels have the first eight lanes and
external outputs the next eight. -/
def reservedLane (kind : Kind) (number : Nat) : Option Lane :=
  if number < channelCount then
    match kind with
    | .converter => Lane.ofNat? number
    | .externalOutput => Lane.ofNat? (channelCount + number)
    | _ => none
  else none

/-- The cross-lane a virtual source feeds: external input `n` feeds cross-lane
`8 + n`, and all constants share the reference. -/
def injectionCrossLane (kind : Kind) (number : Nat) : Option CrossLane :=
  match kind with
  | .externalInput =>
    if number < channelCount then CrossLane.ofNat? (8 + number) else none
  | .constant => some referenceCrossLane
  | _ => none

/-- The lane an external input is routed on. -/
def injectionLane (kind : Kind) (number : Nat) : Option Lane :=
  match kind with
  | .externalInput => if number < channelCount then Lane.ofNat? (16 + number) else none
  | _ => none

end Kind

end Crossbar
