import Crossbar.Event
import Crossbar.Matrix

/-!
# Lanes by cross-lane

The matrix says of every lane which cross-lane it feeds.  A device says of every
cross-lane which lanes are summed into it.  Both describe the same sparse table,
seen along its two axes, as long as no lane is listed twice.

A group of lanes has a shorthand: nothing for no lane, a bare number for one,
and a list for several.
-/

namespace Crossbar

/-- The lanes that feed one cross-lane, as a device lists them.  Numbers come
from outside and need not be lanes. -/
inductive LaneGroup where
  | single (lane : UInt32)
  | several (lanes : List UInt32)
  deriving DecidableEq, Repr

namespace LaneGroup

def lanes : LaneGroup → List UInt32
  | .single lane => [lane]
  | .several lanes => lanes

/-- The shorthand for a list of lanes. -/
def ofLanes : List UInt32 → Option LaneGroup
  | [] => none
  | [lane] => some (.single lane)
  | lanes => some (.several lanes)

/-! ## Grouping -/

/-- The lanes that feed a cross-lane, in ascending order. -/
def feeding (outputs : Switches) (crossLane : CrossLane) : List Lane :=
  Lane.all.filter fun lane => outputs.get lane == some crossLane

/-- One group for every cross-lane. -/
def ofSwitches (outputs : Switches) : List (Option LaneGroup) :=
  CrossLane.all.map fun crossLane =>
    ofLanes ((feeding outputs crossLane).map fun lane => lane.val.toUInt32)

/-! ## Ungrouping -/

/-- A cross-lane lists a lane. -/
structure Claim where
  crossLane : CrossLane
  lane : UInt32
  deriving DecidableEq, Repr

/-- All claims, cross-lane after cross-lane. -/
def claims (groups : List (Option LaneGroup)) : List Claim :=
  groups.zipIdx.flatMap fun (group, place) =>
    match CrossLane.ofNat? place, group with
    | some crossLane, some group => group.lanes.map fun lane => ⟨crossLane, lane⟩
    | _, _ => []

/-- How far a list of claims could be met: which cross-lane every lane feeds, the
claims that came too late, and the number that is no lane, if there is one.  No
claim after that number counts. -/
structure Settlement where
  outputs : Switches
  conflicts : List Conflict
  fault : Option CodecError
  deriving Repr

/-- Grants every lane to its first claimant. -/
def settle (outputs : Switches) : List Claim → Settlement
  | [] => ⟨outputs, [], none⟩
  | claim :: rest =>
    match Lane.ofNat? claim.lane.toNat with
    | none => ⟨outputs, [], some (.laneOutOfRange .outputSwitches claim.lane.toNat)⟩
    | some lane =>
      match outputs.get lane with
      | none => settle (outputs.setIfInBounds lane.val (some claim.crossLane)) rest
      | some holder =>
        let settled := settle outputs rest
        { settled with conflicts := ⟨lane, holder, claim.crossLane⟩ :: settled.conflicts }

/-- The settlement of all claims on unused lanes. -/
def settlement (groups : List (Option LaneGroup)) : Settlement :=
  settle (Vector.replicate 32 none) (claims groups)

/-- Refuses more groups than there are cross-lanes. -/
def checkCount (groups : List (Option LaneGroup)) : Except CodecError Unit :=
  if crossLaneCount < groups.length then
    .error (.tooManyEntries .outputSwitches crossLaneCount groups.length)
  else .ok ()

/-- Reads groups back, granting lanes to their first claimants and returning the
claims that came too late. -/
def toSwitchesLenient (groups : List (Option LaneGroup)) :
    Traced (Except CodecError (Switches × List Conflict)) :=
  match checkCount groups with
  | .error error => .of (.error error)
  | .ok () =>
    let settled := settlement groups
    let result := match settled.fault with
      | some fault => .error fault
      | none => .ok (settled.outputs, settled.conflicts)
    ⟨result, settled.conflicts.map .claimDropped⟩

/-- Reads groups back, refusing the first claim that comes too late. -/
def toSwitches (groups : List (Option LaneGroup)) : Except CodecError Switches := do
  checkCount groups
  let settled := settlement groups
  match settled.conflicts, settled.fault with
  | conflict :: _, _ => throw (.doubleAllocation conflict)
  | [], some fault => throw fault
  | [], none => return settled.outputs

end LaneGroup

end Crossbar
