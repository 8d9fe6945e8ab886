import Crossbar.Layout
import Mathlib.Tactic.Common

/-!
# Ports and cross-lanes are inverse to each other

The cross-lane of a port leads back to the port, on the side that the port is on.
The port at a cross-lane leads back to the cross-lane, except for the cross-lanes
of a multiplier block that carry a constant.  So a port has a cross-lane exactly
when it is a port of one of the two blocks.

The numbers that have a cross-lane are below sixteen, whatever the layout, so both
laws are checked port by port and cross-lane by cross-lane.
-/

namespace Crossbar.Layout

variable {layout : Layout} {port : Port} {crossLane : CrossLane}

/-! ## From cross-lanes to ports -/

@[simp]
theorem direction_portAt (layout : Layout) (crossLane : CrossLane) (direction : Direction) :
    (layout.portAt crossLane direction).direction = direction := by
  obtain ⟨slot0, slot1⟩ := layout
  revert crossLane
  cases slot0 <;> cases slot1 <;> cases direction <;> decide

/-- On the side fed by the lanes every cross-lane has a port. -/
@[simp]
theorem crossLaneOf_portAt_sink (layout : Layout) (crossLane : CrossLane) :
    layout.crossLaneOf (layout.portAt crossLane .sink) = some crossLane := by
  obtain ⟨slot0, slot1⟩ := layout
  revert crossLane
  cases slot0 <;> cases slot1 <;> decide

/-- On the side that feeds the lanes every cross-lane has a port or carries a
constant. -/
theorem crossLaneOf_portAt_source
    (physical : (layout.portAt crossLane .source).kind ≠ .constant) :
    layout.crossLaneOf (layout.portAt crossLane .source) = some crossLane := by
  obtain ⟨slot0, slot1⟩ := layout
  revert crossLane
  cases slot0 <;> cases slot1 <;> decide

theorem kind_portAt_sink (layout : Layout) (crossLane : CrossLane) :
    (layout.portAt crossLane .sink).kind = .multiplier ∨
      (layout.portAt crossLane .sink).kind = .integrator := by
  obtain ⟨slot0, slot1⟩ := layout
  revert crossLane
  cases slot0 <;> cases slot1 <;> decide

theorem kind_portAt_source (layout : Layout) (crossLane : CrossLane) :
    (layout.portAt crossLane .source).kind = .multiplier ∨
      (layout.portAt crossLane .source).kind = .integrator ∨
      (layout.portAt crossLane .source).kind = .constant := by
  obtain ⟨slot0, slot1⟩ := layout
  revert crossLane
  cases slot0 <;> cases slot1 <;> decide

/-! ## From ports to cross-lanes -/

/-- Virtual elements have no cross-lane. -/
theorem kind_of_crossLaneOf (wired : layout.crossLaneOf port = some crossLane) :
    port.kind = .multiplier ∨ port.kind = .integrator := by
  unfold crossLaneOf at wired
  cases kind : port.kind with
  | multiplier => exact Or.inl rfl
  | integrator => exact Or.inr rfl
  | _ => simp [kind, Block.ofKind?] at wired

theorem isVirtual_of_crossLaneOf (wired : layout.crossLaneOf port = some crossLane) :
    port.kind.isVirtual = false := by
  rcases kind_of_crossLaneOf wired with kind | kind <;> rw [kind] <;> rfl

theorem kind_ne_of_crossLaneOf (wired : layout.crossLaneOf port = some crossLane) {kind : Kind}
    (isVirtual : kind.isVirtual = true) : port.kind ≠ kind := by
  intro same
  have physical : port.kind.isVirtual = false := isVirtual_of_crossLaneOf wired
  rw [same, isVirtual] at physical
  cases physical

private theorem lt_of_nthSlot? {block : Block} {nth : Nat} {slot : Slot}
    (found : layout.nthSlot? block nth = some slot) : nth < 2 := by
  obtain ⟨inList, _⟩ := List.getElem?_eq_some_iff.mp found
  calc
    nth < (Slot.all.filter fun slot => layout.block slot == block).length := inList
    _ ≤ Slot.all.length := List.length_filter_le _ _
    _ = 2 := rfl

/-- Two blocks have at most sixteen elements of a kind. -/
theorem number_lt_of_crossLaneOf (wired : layout.crossLaneOf port = some crossLane) :
    port.number.toNat < 16 := by
  unfold crossLaneOf at wired
  simp only [Option.bind_eq_bind, Option.bind_eq_some_iff] at wired
  obtain ⟨block, _, slot, slotFound, _⟩ := wired
  have belowTwo : port.number.toNat / block.capacity < 2 := lt_of_nthSlot? slotFound
  cases block with
  | integrators =>
      simp only [Block.capacity] at belowTwo
      omega
  | multipliers =>
      simp only [Block.capacity] at belowTwo
      omega

private theorem portAt_ofTerminal (layout : Layout) (kind : Kind) (terminal : Terminal)
    (listed : terminal ∈ kind.terminals) (number : Fin 16) (crossLane : CrossLane)
    (wired : layout.crossLaneOf (.ofTerminal kind number.val.toUInt32 terminal listed) =
      some crossLane) :
    layout.portAt crossLane
        (Port.ofTerminal kind number.val.toUInt32 terminal listed).direction =
      .ofTerminal kind number.val.toUInt32 terminal listed := by
  have physical : kind = .multiplier ∨ kind = .integrator := kind_of_crossLaneOf wired
  obtain ⟨slot0, slot1⟩ := layout
  revert number crossLane listed
  rcases physical with rfl | rfl
  · cases slot0 <;> cases slot1 <;> cases terminal <;> decide
  · cases slot0 <;> cases slot1 <;> cases terminal <;> decide

/-- The cross-lane of a port leads back to the port. -/
theorem portAt_of_crossLaneOf (wired : layout.crossLaneOf port = some crossLane) :
    layout.portAt crossLane port.direction = port := by
  have small : port.number.toNat < 16 := number_lt_of_crossLaneOf wired
  obtain ⟨⟨kind, number⟩, terminal, listed⟩ := port
  have sameNumber : number = (⟨number.toNat, small⟩ : Fin 16).val.toUInt32 := by
    simp [Nat.toUInt32]
  rw [sameNumber] at wired ⊢
  exact portAt_ofTerminal layout kind terminal listed ⟨number.toNat, small⟩ crossLane wired

end Crossbar.Layout
