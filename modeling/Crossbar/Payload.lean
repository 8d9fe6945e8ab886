import Crossbar.Cluster
import Crossbar.Json.Basic
import Crossbar.LaneGroup
import Crossbar.Layout

/-!
# Payloads of the device

A device describes its cluster block by block: the states of the elements in
each slot, the switches that feed the lanes with the auxiliary signals, the
coefficients, and the groups of lanes summed into each cross-lane.  The lists
may be shorter than the hardware; what is missing is unused.

A payload that comes from a device can be out of range or claim a lane twice,
so reading it can fail.
-/

namespace Crossbar

/-- The blocks of one cluster as a device lists them. -/
structure BlockTree where
  slot0 : Option (List IntegratorState)
  slot1 : Option (List IntegratorState)
  inputs : List (Option UInt32)
  switches : Option AuxSwitches
  coefficients : List Float
  groups : List (Option LaneGroup)
  deriving BEq, Repr

/-- The blocks together with the entity they belong to. -/
structure Payload where
  entity : Json
  blocks : BlockTree

namespace BlockTree

/-! ## Encoding -/

/-- The element states of a slot: only the first slot with integrators has any. -/
def slotStates (layout : Layout) (slot : Slot) (integrators : IntegratorBank) :
    Option (List IntegratorState) :=
  if layout.integratorSlot? = some slot then some integrators.toList else none

def ofCluster (layout : Layout) (cluster : Cluster) : BlockTree where
  slot0 := slotStates layout .first cluster.integrators
  slot1 := slotStates layout .second cluster.integrators
  inputs := cluster.matrix.inputs.toList.map fun input =>
    input.map fun crossLane => crossLane.val.toUInt32
  switches := some cluster.switches
  coefficients := cluster.matrix.coefficients.toList
  groups := LaneGroup.ofSwitches cluster.matrix.outputs

/-! ## Decoding -/

/-- Refuses a list longer than the hardware. -/
def checkLength {α : Type} (field : BlockField) (limit : Nat) (entries : List α) :
    Except CodecError Unit :=
  if limit < entries.length then .error (.tooManyEntries field limit entries.length)
  else .ok ()

/-- The first number of a list that is no cross-lane. -/
def firstBeyond (entries : List (Option UInt32)) : Option Nat :=
  entries.findSome? fun entry =>
    entry.bind fun number => if 16 ≤ number.toNat then some number.toNat else none

/-- The cross-lanes that feed the lanes; lanes beyond the list are unused. -/
def decodeInputs (entries : List (Option UInt32)) : Except CodecError Switches := do
  checkLength .inputSwitches laneCount entries
  match firstBeyond entries with
  | some number => throw (.crossLaneOutOfRange .inputSwitches number)
  | none =>
    return .ofFn fun lane : Lane =>
      entries[lane.val]?.join.bind fun number => CrossLane.ofNat? number.toNat

def decodeCoefficients (entries : List Float) : Except CodecError (Vector Float 32) := do
  checkLength .coefficients laneCount entries
  return .ofFn fun lane : Lane => entries[lane.val]?.getD 0.0

/-- The states of the first slot that has any; integrators beyond the list are
reset. -/
def decodeIntegrators (blocks : BlockTree) : Except CodecError IntegratorBank := do
  let states := (blocks.slot0 <|> blocks.slot1).getD []
  checkLength .elementStates integratorCount states
  return .ofFn fun number : Fin 8 => states[number.val]?.getD .reset

/-- Reads the blocks, granting lanes to their first claimants and returning the
claims that came too late. -/
def toClusterLenient (blocks : BlockTree) :
    Traced (Except CodecError (Cluster × List Conflict)) :=
  let ahead : Except CodecError (Switches × Vector Float 32) := do
    let inputs ← decodeInputs blocks.inputs
    let coefficients ← decodeCoefficients blocks.coefficients
    return (inputs, coefficients)
  match ahead with
  | .error error => .of (.error error)
  | .ok (inputs, coefficients) =>
    let ungrouped := LaneGroup.toSwitchesLenient blocks.groups
    let result : Except CodecError (Cluster × List Conflict) := do
      let (outputs, conflicts) ← ungrouped.value
      let integrators ← blocks.decodeIntegrators
      return (⟨⟨inputs, coefficients, outputs⟩, integrators, blocks.switches.getD .off⟩,
        conflicts)
    let summary := match result with
      | .error _ => []
      | .ok (_, conflicts) =>
        let lanes := coefficients.toList.countP fun coefficient => coefficient != 0.0
        [.payloadDecoded lanes conflicts.length]
    ⟨result, ungrouped.events ++ summary⟩

/-- Reads the blocks, refusing a lane claimed twice. -/
def toCluster (blocks : BlockTree) : Traced (Except CodecError Cluster) :=
  let read := blocks.toClusterLenient
  let result := match read.value with
    | .error error => .error error
    | .ok (_, conflict :: _) => .error (.doubleAllocation conflict)
    | .ok (cluster, []) => .ok cluster
  ⟨result, read.events⟩

end BlockTree

/-- The payload that configures a cluster. -/
def Payload.ofCluster (layout : Layout) (entity : Json) (cluster : Cluster) : Payload :=
  ⟨entity, .ofCluster layout cluster⟩

end Crossbar
