import Crossbar.Element.Basic
import Crossbar.Index

/-!
# Slots and their wiring

A cluster has two slots.  Slot `s` owns cross-lanes `8 s` to `8 s + 7` on the
side that feeds the lanes and on the side that is fed by them, and takes one
computing block.  An integrator block has eight integrators with one cross-lane
each.  A multiplier block has four multipliers: their outputs have the first
four cross-lanes of the slot, the other four carry constants, and their inputs
have two neighbouring cross-lanes each.

Elements are numbered through all blocks of their kind.
-/

namespace Crossbar

/-- The kind of a computing block. -/
inductive Block where
  | integrators
  | multipliers
  deriving DecidableEq, Repr

namespace Block

def name : Block → String
  | .integrators => "Int"
  | .multipliers => "Mul"

def all : List Block := [.integrators, .multipliers]

def ofName? (name : String) : Option Block :=
  all.find? fun block => block.name == name

/-- Number of elements on one block. -/
def capacity : Block → Nat
  | .integrators => 8
  | .multipliers => 4

/-- The kind of the elements on a block. -/
def kind : Block → Kind
  | .integrators => .integrator
  | .multipliers => .multiplier

def ofKind? : Kind → Option Block
  | .integrator => some .integrators
  | .multiplier => some .multipliers
  | _ => none

end Block

/-- The blocks in the two slots. -/
structure Layout where
  slot0 : Block
  slot1 : Block
  deriving DecidableEq, Repr

namespace Layout

/-- Multipliers in slot 0 and integrators in slot 1. -/
def standard : Layout := ⟨.multipliers, .integrators⟩

def slots (layout : Layout) : List Block := [layout.slot0, layout.slot1]

def block (layout : Layout) (slot : Slot) : Block :=
  if slot = .first then layout.slot0 else layout.slot1

/-- The first slot with integrators. -/
def integratorSlot? (layout : Layout) : Option (Slot) :=
  Slot.all.find? fun slot => layout.block slot == .integrators

/-- How many elements of a kind the two blocks provide. -/
def capacity (layout : Layout) (kind : Kind) : Nat :=
  match Block.ofKind? kind with
  | some block => layout.slots.count block * block.capacity
  | none => 0

/-- The slot of the block with the given number among the blocks of its kind. -/
def nthSlot? (layout : Layout) (block : Block) (nth : Nat) : Option (Slot) :=
  (Slot.all.filter fun slot => layout.block slot == block)[nth]?

/-- Number of blocks of the same kind in earlier slots. -/
def rank (layout : Layout) (slot : Slot) : Nat :=
  (layout.slots.take slot.val).count (layout.block slot)

/-! ## From ports to cross-lanes and back -/

/-- The cross-lane within its slot that a terminal of the element with the given
number on its block is wired to. -/
def localCrossLane (position : Nat) : Terminal → Option Nat
  | .input | .output => some position
  | .a => some (2 * position)
  | .b => some (2 * position + 1)
  | .sink | .source => none

/-- The cross-lane a port is wired to.  Virtual elements and numbers beyond the
capacity have none. -/
def crossLaneOf (layout : Layout) (port : Port) : Option CrossLane := do
  let block ← Block.ofKind? port.kind
  let number := port.number.toNat
  let slot ← layout.nthSlot? block (number / block.capacity)
  let place ← localCrossLane (number % block.capacity) port.terminal
  CrossLane.ofNat? (crossLanesPerSlot * slot.val + place)

/-- The port wired to a cross-lane, on the side that feeds the lanes for sources
and on the side fed by them for sinks. -/
def portAt (layout : Layout) (crossLane : CrossLane) (direction : Direction) : Port :=
  let slot : Slot := ⟨crossLane.val / 8, by omega⟩
  let place := crossLane.val % crossLanesPerSlot
  let block := layout.block slot
  let first := layout.rank slot * block.capacity
  match block, direction with
  | .integrators, .source =>
    .ofTerminal .integrator (first + place).toUInt32 .output (by decide)
  | .integrators, .sink =>
    .ofTerminal .integrator (first + place).toUInt32 .input (by decide)
  | .multipliers, .source =>
    if place < block.capacity then
      .ofTerminal .multiplier (first + place).toUInt32 .output (by decide)
    else .constant crossLane.val.toUInt32
  | .multipliers, .sink =>
    if place % 2 = 0 then
      .ofTerminal .multiplier (first + place / 2).toUInt32 .a (by decide)
    else .ofTerminal .multiplier (first + place / 2).toUInt32 .b (by decide)

end Layout

end Crossbar
