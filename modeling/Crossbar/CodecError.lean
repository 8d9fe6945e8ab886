import Crossbar.Diagnostic.Basic
import Crossbar.Index

/-!
# Faults of encoded configurations

What a device reports may address lanes that do not exist, list too many
entries, or claim one lane for two cross-lanes.
-/

namespace Crossbar

/-- A second claim of a lane that a cross-lane already holds. -/
structure Conflict where
  lane : Lane
  holder : CrossLane
  claimant : CrossLane
  deriving DecidableEq, Repr

def Conflict.message (conflict : Conflict) : String :=
  s!"lane {conflict.lane.val} is claimed by cross-lane {conflict.holder.val} and "
    ++ s!"cross-lane {conflict.claimant.val}; double allocation not representable"

/-- A list of a configuration. -/
inductive BlockField where
  | inputSwitches
  | coefficients
  | outputSwitches
  | elementStates
  deriving DecidableEq, Repr

def BlockField.path : BlockField → String
  | .inputSwitches => "/U outputs"
  | .coefficients => "/C elements"
  | .outputSwitches => "/I outputs"
  | .elementStates => "/M elements"

inductive CodecError where
  | doubleAllocation (conflict : Conflict)
  | laneOutOfRange (field : BlockField) (lane : Nat)
  | crossLaneOutOfRange (field : BlockField) (crossLane : Nat)
  | tooManyEntries (field : BlockField) (limit found : Nat)
  | channelOutOfRange (channel : Nat)
  deriving DecidableEq, Repr

namespace CodecError

def message : CodecError → String
  | .doubleAllocation conflict => conflict.message
  | .laneOutOfRange field lane => s!"{field.path}: lane {lane} out of range 0..32"
  | .crossLaneOutOfRange field crossLane =>
    s!"{field.path}: cross-lane {crossLane} out of range 0..16"
  | .tooManyEntries field limit found =>
    s!"{field.path}: expected at most {limit} entries, found {found}"
  | .channelOutOfRange channel => s!"external input channel {channel} out of range 0..8"

def code : CodecError → Code
  | .doubleAllocation _ => ⟨.codec, 201⟩
  | _ => ⟨.codec, 202⟩

def diagnostic (error : CodecError) : Diagnostic :=
  let plain := Diagnostic.error error.code error.message
  match error with
  | .doubleAllocation conflict => plain.withSubject s!"lane {conflict.lane.val}"
  | _ => plain

end CodecError

end Crossbar
