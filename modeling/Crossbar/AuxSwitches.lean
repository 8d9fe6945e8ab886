import Crossbar.CodecError
import Crossbar.Index

/-!
# Auxiliary signals

Nine switches replace what a cross-lane carries into the lanes.  With switch `n`
of the first eight on, cross-lane `8 + n` carries external input `n`; with the
ninth on, cross-lane 7 carries the constant reference.
-/

namespace Crossbar

/-- An external input channel. -/
abbrev Channel := Fin 8

/-- The nine switches. -/
structure AuxSwitches where
  inputs : Vector Bool 8
  reference : Bool
  deriving DecidableEq, Repr

namespace AuxSwitches

/-- All switches off. -/
def off : AuxSwitches := ⟨Vector.replicate 8 false, false⟩

instance : Inhabited AuxSwitches := ⟨off⟩

def toList (switches : AuxSwitches) : List Bool :=
  switches.inputs.toList ++ [switches.reference]

/-- The switches in their order: the eight inputs and then the reference. -/
def ofVector (signals : Vector Bool 9) : AuxSwitches :=
  ⟨Vector.ofFn fun channel : Channel => signals[channel.val], signals[8]⟩

/-- Whether no switch is on. -/
def isOff (switches : AuxSwitches) : Bool := !switches.toList.any id

/-! ## External inputs -/

def setInput (switches : AuxSwitches) (channel : Channel) (on : Bool) : AuxSwitches :=
  { switches with inputs := switches.inputs.set channel.val on }

def setInput? (switches : AuxSwitches) (channel : Nat) (on : Bool) :
    Except CodecError AuxSwitches :=
  if inRange : channel < 8 then .ok (switches.setInput ⟨channel, inRange⟩ on)
  else .error (.channelOutOfRange channel)

def hasInput (switches : AuxSwitches) (channel : Nat) : Bool :=
  switches.inputs[channel]?.getD false

/-- The cross-lane an external input replaces. -/
def crossLaneOf? (channel : Nat) : Option CrossLane :=
  if channel < channelCount then CrossLane.ofNat? (8 + channel) else none

/-- The external input that can replace a cross-lane. -/
def channelOf? (crossLane : CrossLane) : Option Channel :=
  if onUpperHalf : 8 ≤ crossLane.val then some ⟨crossLane.val - 8, by omega⟩ else none

/-- The external input a cross-lane carries. -/
def activeInput? (switches : AuxSwitches) (crossLane : CrossLane) : Option Channel :=
  (channelOf? crossLane).filter fun channel => switches.inputs[channel.val]

/-! ## The constant reference -/

def setReference (switches : AuxSwitches) (on : Bool) : AuxSwitches :=
  { switches with reference := on }

/-- Whether a cross-lane carries the constant reference. -/
def carriesReference (switches : AuxSwitches) (crossLane : CrossLane) : Bool :=
  switches.reference && crossLane == referenceCrossLane

end AuxSwitches

end Crossbar
