import Crossbar.Proofs.Index
import Crossbar.Proofs.Layout

/-!
# Elements that are wired

The elements of a kind are numbered through all blocks of the kind, a whole block
at a time.  So the quotient of a number by the capacity of a block tells the block
that the element is on, and the layout has that block exactly when the number is
below its capacity for the kind.  On its block every terminal of an element has a
cross-lane.

Together with the inverse laws this settles the wiring of a layout: the elements
below the capacity are wired, each port to a cross-lane of its own, and every
cross-lane is wired to a port or carries a constant.
-/

namespace Crossbar

/-! ## Blocks -/

namespace Block

variable {block : Block} {kind : Kind}

theorem capacity_pos (block : Block) : 0 < block.capacity := by
  cases block <;> decide

theorem ofKind?_eq_some_iff : ofKind? kind = some block ↔ kind = block.kind := by
  cases kind <;> cases block <;> decide

/-- Only integrators and multipliers sit on blocks. -/
theorem exists_kind_iff :
    (∃ block : Block, kind = block.kind) ↔ kind = .integrator ∨ kind = .multiplier := by
  constructor
  · rintro ⟨block, rfl⟩
    cases block with
    | integrators => exact Or.inl rfl
    | multipliers => exact Or.inr rfl
  · rintro (rfl | rfl)
    · exact ⟨.integrators, rfl⟩
    · exact ⟨.multipliers, rfl⟩

end Block

namespace Layout

variable {layout : Layout} {block : Block} {kind : Kind} {port : Port} {crossLane : CrossLane}
  {position nth number : Nat} {terminal : Terminal}

/-! ## Numbers below the capacity -/

theorem slots_eq_map_block (layout : Layout) : layout.slots = Slot.all.map layout.block :=
  rfl

theorem capacity_kind (layout : Layout) (block : Block) :
    layout.capacity block.kind = layout.slots.count block * block.capacity := by
  rw [capacity, Block.ofKind?_eq_some_iff.mpr rfl]

/-- There are as many slots with a block as the layout has such blocks. -/
theorem exists_nthSlot?_iff :
    (∃ slot, layout.nthSlot? block nth = some slot) ↔ nth < layout.slots.count block := by
  rw [nthSlot?, ← Option.isSome_iff_exists, isSome_getElem?,
    ← List.countP_eq_length_filter, slots_eq_map_block, List.count, List.countP_map]
  rfl

/-- The blocks before the last one are full. -/
theorem div_capacity_lt_iff :
    number / block.capacity < layout.slots.count block ↔ number < layout.capacity block.kind := by
  rw [capacity_kind, Nat.div_lt_iff_lt_mul block.capacity_pos]

/-! ## Terminals on a block -/

/-- Every terminal of an element on a block has one of the cross-lanes of the slot. -/
theorem exists_localCrossLane (onBlock : position < block.capacity)
    (listed : terminal ∈ block.kind.terminals) :
    ∃ place, localCrossLane position terminal = some place ∧ place < crossLanesPerSlot := by
  cases block with
  | integrators =>
      have small : position < 8 := onBlock
      cases terminal with
      | input => exact ⟨position, rfl, small⟩
      | output => exact ⟨position, rfl, small⟩
      | _ => simp [Block.kind, Kind.terminals, Kind.inputs, Kind.outputs] at listed
  | multipliers =>
      have small : position < 4 := onBlock
      cases terminal with
      | output => exact ⟨position, rfl, by rw [crossLanesPerSlot]; omega⟩
      | a => exact ⟨2 * position, rfl, by rw [crossLanesPerSlot]; omega⟩
      | b => exact ⟨2 * position + 1, rfl, by rw [crossLanesPerSlot]; omega⟩
      | _ => simp [Block.kind, Kind.terminals, Kind.inputs, Kind.outputs] at listed

theorem exists_crossLane (slot : Slot) {place : Nat} (onSlot : place < crossLanesPerSlot) :
    ∃ crossLane, CrossLane.ofNat? (crossLanesPerSlot * slot.val + place) = some crossLane := by
  have inRange : crossLanesPerSlot * slot.val + place < 16 := by
    rw [crossLanesPerSlot] at onSlot ⊢
    omega
  exact ⟨⟨_, inRange⟩, CrossLane.ofNat?_eq_some_iff.mpr rfl⟩

/-! ## Ports with a cross-lane -/

/-- A port of an element on a block is wired when the number of the element is below
the capacity. -/
theorem exists_crossLaneOf_iff (onBlock : port.kind = block.kind) :
    (∃ crossLane, layout.crossLaneOf port = some crossLane) ↔
      port.number.toNat < layout.capacity port.kind := by
  rw [onBlock, ← div_capacity_lt_iff, ← exists_nthSlot?_iff]
  simp only [crossLaneOf, Block.ofKind?_eq_some_iff.mpr onBlock, Option.bind_eq_bind,
    Option.bind_some, Option.bind_eq_some_iff]
  constructor
  · rintro ⟨_, slot, found, _⟩
    exact ⟨slot, found⟩
  · rintro ⟨slot, found⟩
    have listed : port.terminal ∈ block.kind.terminals := onBlock ▸ port.listed
    obtain ⟨place, atPlace, onSlot⟩ :=
      exists_localCrossLane (Nat.mod_lt port.number.toNat block.capacity_pos) listed
    obtain ⟨crossLane, wired⟩ := exists_crossLane slot onSlot
    exact ⟨crossLane, slot, found, place, atPlace, wired⟩

theorem isSome_crossLaneOf_iff :
    (layout.crossLaneOf port).isSome = true ↔
      (port.kind = .integrator ∨ port.kind = .multiplier) ∧
        port.number.toNat < layout.capacity port.kind := by
  rw [Option.isSome_iff_exists, ← Block.exists_kind_iff]
  constructor
  · rintro ⟨crossLane, wired⟩
    obtain ⟨block, onBlock⟩ := Block.exists_kind_iff.mpr (kind_of_crossLaneOf wired).symm
    exact ⟨⟨block, onBlock⟩, (exists_crossLaneOf_iff onBlock).mp ⟨crossLane, wired⟩⟩
  · rintro ⟨⟨block, onBlock⟩, below⟩
    exact (exists_crossLaneOf_iff onBlock).mpr below

/-- Two ports on the same side of a cross-lane are the same. -/
theorem eq_of_crossLaneOf_eq {other : Port} (sameSide : port.direction = other.direction)
    (wired : layout.crossLaneOf port = some crossLane)
    (otherWired : layout.crossLaneOf other = some crossLane) : port = other := by
  rw [← portAt_of_crossLaneOf wired, sameSide, portAt_of_crossLaneOf otherWired]

/-! ## Cross-lanes with a constant -/

/-- One of the last four cross-lanes of a slot with multipliers. -/
def IsSpare (layout : Layout) (crossLane : CrossLane) : Prop :=
  ∃ slot, layout.block slot = .multipliers ∧
    crossLanesPerSlot * slot.val + 4 ≤ crossLane.val ∧
    crossLane.val < crossLanesPerSlot * slot.val + crossLanesPerSlot

instance (layout : Layout) (crossLane : CrossLane) : Decidable (layout.IsSpare crossLane) :=
  inferInstanceAs (Decidable (∃ _, _))

theorem kind_portAt_eq_constant_iff {direction : Direction} :
    (layout.portAt crossLane direction).kind = .constant ↔
      direction = .source ∧ layout.IsSpare crossLane := by
  obtain ⟨slot0, slot1⟩ := layout
  revert crossLane
  cases slot0 <;> cases slot1 <;> cases direction <;> decide

theorem crossLaneOf_portAt {direction : Direction}
    (physical : (layout.portAt crossLane direction).kind ≠ .constant) :
    layout.crossLaneOf (layout.portAt crossLane direction) = some crossLane := by
  cases direction with
  | sink => exact crossLaneOf_portAt_sink layout crossLane
  | source => exact crossLaneOf_portAt_source physical

/-- The wiring of a layout leads from ports to cross-lanes and back. -/
structure MutuallyInverse (layout : Layout) : Prop where
  isSome_iff : ∀ port, (layout.crossLaneOf port).isSome = true ↔
    (port.kind = .integrator ∨ port.kind = .multiplier) ∧
      port.number.toNat < layout.capacity port.kind
  portAt : ∀ port crossLane, layout.crossLaneOf port = some crossLane →
    layout.portAt crossLane port.direction = port
  unshared : ∀ first second crossLane, first.direction = second.direction →
    layout.crossLaneOf first = some crossLane → layout.crossLaneOf second = some crossLane →
    first = second
  crossLaneOf : ∀ crossLane direction, (layout.portAt crossLane direction).kind ≠ .constant →
    layout.crossLaneOf (layout.portAt crossLane direction) = some crossLane
  constant_iff : ∀ crossLane direction, (layout.portAt crossLane direction).kind = .constant ↔
    direction = .source ∧ layout.IsSpare crossLane

theorem mutuallyInverse (layout : Layout) : MutuallyInverse layout where
  isSome_iff _ := isSome_crossLaneOf_iff
  portAt _ _ := portAt_of_crossLaneOf
  unshared _ _ _ := eq_of_crossLaneOf_eq
  crossLaneOf _ _ := crossLaneOf_portAt
  constant_iff _ _ := kind_portAt_eq_constant_iff

end Layout

end Crossbar
