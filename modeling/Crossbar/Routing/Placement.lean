import Crossbar.AuxSwitches
import Crossbar.Event
import Crossbar.Layout
import Crossbar.Routing.Resolved

/-!
# Placements

A placement is a route whose cross-lanes are known and whose lane may still be
open.  Connections with a virtual element are pinned: sinks listen to a reserved
lane, and external inputs and constants feed the cross-lane that their auxiliary
signal takes over.  All other connections go between two computing blocks and
are flexible.
-/

namespace Crossbar

structure Placement where
  /-- The lane asked for. -/
  lane : Option Lane
  input : CrossLane
  coefficient : Float
  output : Option CrossLane
  /-- The resolved connection. -/
  wire : Wire
  deriving BEq, Repr

namespace Placement

def subject (placement : Placement) : RoutingSubject :=
  .onLane placement.wire placement.lane

/-- The route once the lane is settled. -/
def onLane (placement : Placement) (lane : Lane) : Route :=
  ⟨lane, placement.input, placement.coefficient, placement.output⟩

/-- The route of a placement that has a lane. -/
def route? (placement : Placement) : Option Route := placement.lane.map placement.onLane

/-! ## Pinned connections -/

/-- Either a fault, or a placement or the reason why there is none. -/
abbrev Pinned := Except RoutingFault (Except RoutingError Placement)

/-- A sink listens to its own lane and cannot be weighted. -/
def pinSink (layout : Layout) (resolved : Resolved) : Pinned :=
  let source := resolved.wire.source
  let target := resolved.wire.target
  let fail (cause : Cause) : Pinned := .ok (.error ⟨cause, .onLane resolved.wire resolved.lane⟩)
  match resolved.coefficient.filter fun c => c != 0.0 && c != 1.0 with
  | some coefficient => .error (.sinkCoefficient target coefficient)
  | none =>
    match target.kind.reservedLane target.number.toNat, layout.crossLaneOf source with
    | none, _ => fail (.channelOutOfRange target.kind target.number)
    | some _, none => fail (.sourceNotAssignable .pinned source)
    | some lane, some input => .ok (.ok ⟨some lane, input, 0.0, none, resolved.wire⟩)

/-- An external input has a lane and a cross-lane of its own. -/
def pinExternalInput (layout : Layout) (resolved : Resolved) : Except RoutingError Placement :=
  let source := resolved.wire.source
  let target := resolved.wire.target
  let channel := source.number.toNat
  let fail (cause : Cause) := Except.error ⟨cause, .onLane resolved.wire resolved.lane⟩
  match source.kind.injectionLane channel, source.kind.injectionCrossLane channel with
  | some lane, some input =>
    match layout.crossLaneOf target with
    | some output => .ok ⟨some lane, input, resolved.weight, some output, resolved.wire⟩
    | none => fail (.targetNotAssignable .pinned target)
  | _, _ => fail (.channelOutOfRange source.kind source.number)

/-- A constant feeds the reference cross-lane and keeps the lane of its
potentiometer. -/
def pinConstant (layout : Layout) (resolved : Resolved) : Except RoutingError Placement :=
  let target := resolved.wire.target
  match layout.crossLaneOf target with
  | some output =>
    .ok ⟨resolved.lane, referenceCrossLane, resolved.weight, some output, resolved.wire⟩
  | none =>
    .error ⟨.targetNotAssignable .pinned target, .onLane resolved.wire resolved.lane⟩

/-- Places a connection with a virtual element. -/
def pin (layout : Layout) (resolved : Resolved) : Pinned :=
  match resolved.wire.source.kind, resolved.wire.target.kind with
  | _, .converter | _, .externalOutput => pinSink layout resolved
  | .externalInput, _ => .ok (pinExternalInput layout resolved)
  | .constant, _ => .ok (pinConstant layout resolved)
  | source, target =>
    .ok (.error ⟨.illegalVirtual source target, .onLane resolved.wire resolved.lane⟩)

/-- Places connections with a virtual element up to the first fault. -/
def pinAll (layout : Layout) : List Resolved → Traced (Except RoutingFault (List Placement))
  | [] => .of (.ok [])
  | resolved :: rest =>
    match pin layout resolved with
    | .error fault => .of (.error fault)
    | .ok placed => do
      let placement ← Traced.collect placed
      let later ← pinAll layout rest
      return later.map fun placements => placement.toList ++ placements

/-- Switches the auxiliary signal of a placement on. -/
def enable (switches : AuxSwitches) (placement : Placement) : AuxSwitches :=
  match placement.wire.source.kind, AuxSwitches.channelOf? placement.input with
  | .externalInput, some channel => switches.setInput channel true
  | .constant, _ => switches.setReference true
  | _, _ => switches

/-- The auxiliary signals that placements depend on. -/
def switches (placements : List Placement) : AuxSwitches :=
  placements.foldl enable .off

/-! ## Flexible connections -/

/-- Places the connection at a position among the flexible ones.  Without a
potentiometer it asks for the lane of that number. -/
def ofPosition (layout : Layout) (resolved : Resolved) (position : Nat) :
    Except RoutingError Placement :=
  let source := resolved.wire.source
  let target := resolved.wire.target
  let lane := resolved.lane <|> Lane.ofNat? position
  let fail (cause : Cause) := Except.error ⟨cause, .onLane resolved.wire lane⟩
  match layout.crossLaneOf source, layout.crossLaneOf target with
  | none, _ => fail (.sourceNotAssignable .flexible source)
  | some _, none => fail (.targetNotAssignable .flexible target)
  | some input, some output =>
    .ok ⟨lane, input, resolved.weight, some output, resolved.wire⟩

def placeAll (layout : Layout) (resolved : List Resolved) : Traced (List Placement) :=
  Traced.collectAll (resolved.zipIdx.map fun (resolved, position) =>
    ofPosition layout resolved position)

/-! ## Shadowed sources -/

/-- The auxiliary signal that a placement finds on its cross-lane instead of its
own source. -/
def shadow? (switches : AuxSwitches) (placement : Placement) : Option AuxSignal :=
  let source := placement.wire.source
  let foreignInput : Bool := match switches.activeInput? placement.input with
    | some channel => source.kind != .externalInput || source.number.toNat != channel.val
    | none => false
  let foreignReference : Bool :=
    switches.carriesReference placement.input && source.kind != .constant
  if foreignInput then some .externalInput
  else if foreignReference then some .constantReference
  else none

def checkShadow (switches : AuxSwitches) (placement : Placement) :
    Except RoutingError Placement :=
  match shadow? switches placement with
  | some signal =>
    .error ⟨.shadowedSource placement.input signal placement.wire.source, placement.subject⟩
  | none => .ok placement

/-- Drops the placements whose cross-lane carries something else. -/
def dropShadowed (switches : AuxSwitches) (placements : List Placement) :
    Traced (List Placement) :=
  Traced.collectAll (placements.map (checkShadow switches))

end Placement

end Crossbar
