/-!
# Lanes and cross-lanes

The crossbar of one cluster has 32 coefficient-weighted lanes.  Sixteen
cross-lanes run from the computing blocks into the lanes, and sixteen run from
the lanes back into the blocks.  Every index is kept inside its range by its
type, so a table indexed by lanes is never read outside its bounds.
-/

namespace Crossbar

/-- One of the 32 coefficient-weighted lanes. -/
abbrev Lane := Fin 32

/-- One of the 16 cross-lanes on either side of the lanes. -/
abbrev CrossLane := Fin 16

/-- One of the two positions of a computing block. -/
abbrev Slot := Fin 2

/-! ## Dimensions of a cluster -/

/-- Number of lanes. -/
def laneCount : Nat := 32

/-- Number of cross-lanes on each side of the lanes. -/
def crossLaneCount : Nat := 16

/-- Number of slots that take a computing block. -/
def slotCount : Nat := 2

/-- Number of cross-lanes wired to one slot. -/
def crossLanesPerSlot : Nat := 8

/-- Number of integrators on one integrator block. -/
def integratorCount : Nat := 8

/-- Number of external input channels, and likewise of converter channels and
of external outputs. -/
def channelCount : Nat := 8

/-- Largest magnitude of a coefficient. -/
def maxCoefficient : Float := 20.0

/-- The cross-lane that carries the constant reference once it is switched on. -/
def referenceCrossLane : CrossLane := 7

/-! ## Checked construction -/

/-- What an index counts. -/
inductive Resource where
  | lane
  | crossLane
  deriving DecidableEq, Repr

namespace Resource

def name : Resource → String
  | .lane => "lane"
  | .crossLane => "cross-lane"

def bound : Resource → Nat
  | .lane => laneCount
  | .crossLane => crossLaneCount

end Resource

/-- An index that lies outside the range of what it counts. -/
structure IndexError where
  resource : Resource
  index : Nat
  deriving DecidableEq, Repr

def IndexError.message (error : IndexError) : String :=
  s!"{error.resource.name} index {error.index} out of range 0..{error.resource.bound}"

namespace Slot

def first : Slot := 0

def second : Slot := 1

/-- Both slots in ascending order. -/
def all : List Slot := [first, second]

end Slot

namespace Lane

def ofNat? (index : Nat) : Option Lane :=
  if inRange : index < 32 then some ⟨index, inRange⟩ else none

def checked (index : Nat) : Except IndexError Lane :=
  match ofNat? index with
  | some lane => .ok lane
  | none => .error ⟨.lane, index⟩

/-- All lanes in ascending order. -/
def all : List Lane := List.finRange 32

end Lane

namespace CrossLane

def ofNat? (index : Nat) : Option CrossLane :=
  if inRange : index < 16 then some ⟨index, inRange⟩ else none

def checked (index : Nat) : Except IndexError CrossLane :=
  match ofNat? index with
  | some crossLane => .ok crossLane
  | none => .error ⟨.crossLane, index⟩

/-- All cross-lanes in ascending order. -/
def all : List CrossLane := List.finRange 16

end CrossLane

end Crossbar
