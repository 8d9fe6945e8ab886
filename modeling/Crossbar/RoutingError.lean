import Crossbar.CodecError
import Crossbar.Connection
import Crossbar.Decimal.Text
import Crossbar.Diagnostic.Sink

/-!
# Routing errors and faults

A routing error leaves one connection out and lets the rest of the circuit
route.  A fault stops the routing altogether.
-/

namespace Crossbar

/-- The two groups of routes: those tied to a lane or cross-lane by a virtual
element, and those between physical elements. -/
inductive Group where
  | pinned
  | flexible
  deriving DecidableEq, Repr

/-- An auxiliary signal that takes a cross-lane over. -/
inductive AuxSignal where
  | externalInput
  | constantReference
  deriving DecidableEq, Repr

def AuxSignal.text : AuxSignal → String
  | .externalInput => "external input"
  | .constantReference => "constant reference"

/-- Why a connection or a lane is left out. -/
inductive Cause where
  | unconnectedPotentiometer
  | illegalConnection (fault : ShapeFault)
  | sourceNotAssignable (group : Group) (port : Port)
  | targetNotAssignable (group : Group) (port : Port)
  | noFreeLane (group : Group)
  | illegalVirtual (source target : Kind)
  | channelOutOfRange (kind : Kind) (channel : UInt32)
  | coefficientOutOfRange (coefficient : Float)
  | potentiometerOutOfRange (number : UInt32)
  | shadowedSource (crossLane : CrossLane) (signal : AuxSignal) (source : Port)
  | doubleAllocation (conflict : Conflict)
  /-- A problem reported by someone else. -/
  | reported (code : Code) (message : String)
  deriving BEq, Repr

namespace Cause

def code : Cause → Code
  | .unconnectedPotentiometer => ⟨.routing, 101⟩
  | .illegalConnection _ => ⟨.routing, 102⟩
  | .sourceNotAssignable _ _ => ⟨.routing, 103⟩
  | .targetNotAssignable _ _ => ⟨.routing, 104⟩
  | .noFreeLane _ => ⟨.routing, 105⟩
  | .illegalVirtual _ _ => ⟨.routing, 106⟩
  | .channelOutOfRange _ _ => ⟨.routing, 107⟩
  | .coefficientOutOfRange _ => ⟨.routing, 108⟩
  | .potentiometerOutOfRange _ => ⟨.routing, 109⟩
  | .shadowedSource _ _ _ => ⟨.routing, 110⟩
  | .doubleAllocation _ => ⟨.codec, 201⟩
  | .reported code _ => code

def message : Cause → String
  | .unconnectedPotentiometer => "unconnected potentiometer"
  | .illegalConnection fault => fault.reason
  | .sourceNotAssignable .pinned port => s!"source {port.text} not assignable"
  | .sourceNotAssignable .flexible port => s!"physical source {port.text} not assignable"
  | .targetNotAssignable .pinned port => s!"target {port.text} not assignable"
  | .targetNotAssignable .flexible port => s!"physical target {port.text} not assignable"
  | .noFreeLane .pinned => "no free lane for pinned route"
  | .noFreeLane .flexible => "no free lane left"
  | .illegalVirtual source target => s!"cannot route {source.name} to {target.name}"
  | .channelOutOfRange kind channel => s!"{kind.name} has no channel {channel.toNat}"
  | .coefficientOutOfRange coefficient =>
    let limit := Decimal.Form.message.write maxCoefficient
    s!"coefficient {Decimal.Form.message.write coefficient} outside [-{limit}, {limit}]"
  | .potentiometerOutOfRange number => s!"potentiometer {number.toNat} is not a lane"
  | .shadowedSource crossLane signal source =>
    s!"cross-lane {crossLane.val} carries the {signal.text}, not {source.text}"
  | .doubleAllocation conflict => conflict.message
  | .reported _ message => message

end Cause

/-- What a routing error is about. -/
inductive RoutingSubject where
  /-- A connection as it was drawn. -/
  | connection (wire : Wire)
  /-- A connection on its way to a lane, with the lane it asked for. -/
  | route (wire : Wire) (lane : Option UInt32)
  | matrixLane (lane : Lane)
  deriving DecidableEq, Repr

namespace RoutingSubject

/-- A route that asks for an existing lane. -/
def onLane (wire : Wire) (lane : Option Lane) : RoutingSubject :=
  .route wire (lane.map fun lane => lane.val.toUInt32)

def lane? : RoutingSubject → Option UInt32
  | .connection _ => none
  | .route _ lane => lane
  | .matrixLane lane => some lane.val.toUInt32

def text : RoutingSubject → String
  | .connection wire => wire.text
  | .route wire (some lane) => s!"{wire.text} (lane {lane.toNat})"
  | .route wire none => wire.text
  | .matrixLane lane => s!"lane {lane.val}"

end RoutingSubject

structure RoutingError where
  cause : Cause
  subject : RoutingSubject
  deriving BEq, Repr

namespace RoutingError

def code (error : RoutingError) : Code := error.cause.code

def message (error : RoutingError) : String := error.cause.message

def text (error : RoutingError) : String :=
  s!"[{error.code.text}] {error.message}: {error.subject.text}"

/-- Some kinds of problem come with an explanation. -/
def diagnostic (error : RoutingError) : Diagnostic :=
  let plain := (Diagnostic.error error.code error.message).withSubject error.subject.text
  if error.code = Cause.unconnectedPotentiometer.code then
    plain.withHelp "connect both the `in` and the `out` port of the potentiometer"
  else if error.code = (Cause.noFreeLane .pinned).code then
    plain.withNote "the matrix has 32 lanes"
  else if error.code = ⟨.codec, 201⟩ then
    plain.withNote "the first cross-lane claiming the lane was kept"
  else plain

/-- Emits every error into a sink. -/
def report (errors : List RoutingError) (sink : Sink) : Sink :=
  sink.emitAll (errors.map diagnostic)

end RoutingError

/-- What stops a routing. -/
inductive RoutingFault where
  /-- A converter channel or external output reached through a coefficient other
  than 0 or 1. -/
  | sinkCoefficient (sink : Port) (coefficient : Float)
  | element (error : ElementError)
  | codec (error : CodecError)
  deriving BEq, Repr

namespace RoutingFault

def message : RoutingFault → String
  | .sinkCoefficient sink coefficient =>
    let weight := Decimal.Form.message.write coefficient
    s!"virtual sink {sink.text} cannot be weighted, found coefficient {weight}"
  | .element error => error.message
  | .codec error => error.message

def diagnostic (fault : RoutingFault) : Diagnostic :=
  match fault with
  | .sinkCoefficient sink _ =>
    ((Diagnostic.error ⟨.routing, 111⟩ fault.message).withSubject sink.text).withHelp
      "set the potentiometer to 1 or remove it"
  | .element error => error.diagnostic
  | .codec error => error.diagnostic

end RoutingFault

end Crossbar
