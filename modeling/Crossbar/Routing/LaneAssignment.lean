import Crossbar.Routing.Placement

/-!
# Lane assignment

Every placement gets a lane of its own.  The first placement that asks for a
lane keeps it, unless the lane is reserved.  Each of the others takes, in order,
the lowest lane that is neither reserved nor asked for by anyone.  When no such
lane is left the placement is dropped.

Pinned placements are settled in two passes: first they claim lanes, and then
those that came too late are moved.  Flexible placements are settled in one pass,
as all lanes that are asked for are known before it.
-/

namespace Crossbar.LaneAssignment

/-- The lanes that placements ask for. -/
def requested (placements : List Placement) : List Lane :=
  placements.filterMap Placement.lane

/-- Moves a placement to the lowest lane that is not taken.  When every lane is
taken the placement loses the lane it asked for. -/
def relocate (group : Group) (taken : LaneSet) (placement : Placement) : Traced Placement :=
  match taken.lowestFree with
  | some lane => do
    Traced.emit (.reassigned group placement.lane lane placement.wire)
    return { placement with lane := some lane }
  | none => do
    Traced.emit (.rejected ⟨.noFreeLane group, placement.subject⟩)
    return { placement with lane := none }

/-! ## Pinned placements -/

/-- The first pass: numbered placements claim the lanes they ask for, in order.  Gives
the lanes that are claimed in the end and the numbers of the placements that have to
move, as they ask for no lane or for one that is claimed. -/
def claimLanes (claimed : LaneSet) : List (Placement × Nat) → LaneSet × List Nat
  | [] => (claimed, [])
  | (placement, position) :: rest =>
    match placement.lane.map claimed.claim with
    | some (true, grown) => claimLanes grown rest
    | some (false, _) | none =>
      let (final, late) := claimLanes claimed rest
      (final, position :: late)

/-- The second pass: moves the placements at the given positions, in order. -/
def moveLate (claimed : LaneSet) (placements : List Placement) :
    List Nat → Traced (List Placement)
  | [] => .of placements
  | position :: rest =>
    match placements[position]? with
    | some placement => do
      let moved ← relocate .pinned claimed placement
      moveLate (moved.lane.elim claimed claimed.insert) (placements.set position moved) rest
    | none => moveLate claimed placements rest

/-- Gives pinned placements distinct lanes. -/
def settlePinned (placements : List Placement) : Traced (List Route) := do
  let (claimed, late) := claimLanes ∅ placements.zipIdx
  let settled ← moveLate claimed placements late
  return settled.filterMap Placement.route?

/-! ## Flexible placements -/

/-- Moves placements off the reserved lanes and off each other.  `occupied` holds the
lanes that no moved placement may take, and `kept` those of the placements before. -/
def correct (reserved occupied kept : LaneSet) : List Placement → Traced (List Placement)
  | [] => .of []
  | placement :: rest =>
    match (placement.lane.filter fun lane => lane ∉ reserved).map kept.claim with
    | some (true, grown) => do
      let later ← correct reserved occupied grown rest
      return placement :: later
    | some (false, _) | none => do
      let moved ← relocate .flexible occupied placement
      let later ← correct reserved (moved.lane.elim occupied occupied.insert)
        (moved.lane.elim kept kept.insert) rest
      return moved :: later

/-- Gives flexible placements distinct lanes outside the reserved ones. -/
def settleFlexible (reserved : LaneSet) (placements : List Placement) :
    Traced (List Route) := do
  let occupied := (requested placements).foldl LaneSet.insert reserved
  let corrected ← correct reserved occupied ∅ placements
  return corrected.filterMap Placement.route?

end Crossbar.LaneAssignment
