import Crossbar.Route

/-!
# Indices as numbers

Lanes, cross-lanes and channels are written as numbers and read back.  In a list of
items with different indices, an item is found by its index.
-/

namespace Crossbar

theorem Lane.ofNat?_eq_some_iff {number : Nat} {lane : Lane} :
    Lane.ofNat? number = some lane ↔ number = lane.val := by
  unfold Lane.ofNat?
  split
  case isTrue inRange =>
    simp [Fin.ext_iff]
  case isFalse tooLarge =>
    simp only [reduceCtorEq, false_iff]
    have := lane.isLt
    omega

theorem Lane.ofNat?_eq_none_iff {number : Nat} :
    Lane.ofNat? number = none ↔ laneCount ≤ number := by
  simp [Lane.ofNat?, laneCount]

theorem CrossLane.ofNat?_eq_some_iff {number : Nat} {crossLane : CrossLane} :
    CrossLane.ofNat? number = some crossLane ↔ number = crossLane.val := by
  unfold CrossLane.ofNat?
  split
  case isTrue inRange =>
    simp [Fin.ext_iff]
  case isFalse tooLarge =>
    simp only [reduceCtorEq, false_iff]
    have := crossLane.isLt
    omega

theorem toNat_toUInt32_of_lt {number : Nat} (small : number < 4294967296) :
    number.toUInt32.toNat = number :=
  UInt32.toNat_ofNat_of_lt' small

theorem Lane.toNat_toUInt32 (lane : Lane) : lane.val.toUInt32.toNat = lane.val :=
  toNat_toUInt32_of_lt (by omega)

/-- A route with its indices given as numbers, if they are in range. -/
def Route.ofNumbers? (lane input : Nat) (coefficient : Float) (output : Option Nat) :
    Option Route := do
  return ⟨← Lane.ofNat? lane, ← CrossLane.ofNat? input, coefficient,
    output.bind CrossLane.ofNat?⟩

/-- Lanes are told apart by their numbers. -/
theorem Lane.toUInt32_injective : Function.Injective fun lane : Lane => lane.val.toUInt32 := by
  intro first second same
  apply Fin.ext
  rw [← Lane.toNat_toUInt32 first, ← Lane.toNat_toUInt32 second]
  exact congrArg UInt32.toNat same

theorem Lane.toUInt32_le {first second : Lane} (below : first ≤ second) :
    first.val.toUInt32 ≤ second.val.toUInt32 := by
  rw [UInt32.le_iff_toNat_le, Lane.toNat_toUInt32, Lane.toNat_toUInt32]
  exact below

theorem CrossLane.toNat_toUInt32 (crossLane : CrossLane) :
    crossLane.val.toUInt32.toNat = crossLane.val :=
  toNat_toUInt32_of_lt (by omega)

theorem find?_of_nodup {Item Index : Type} [DecidableEq Index] {index : Item → Index}
    {items : List Item} {item : Item} (distinct : (items.map index).Nodup) (member : item ∈ items) :
    items.find? (fun other => index other = index item) = some item := by
  induction items with
  | nil =>
      cases member
  | cons head rest inductionHypothesis =>
      rw [List.map_cons, List.nodup_cons] at distinct
      rcases List.mem_cons.mp member with rfl | inRest
      · exact List.find?_cons_of_pos (by simp)
      · have otherIndex : index head ≠ index item := by
          intro sameIndex
          apply distinct.1
          rw [sameIndex]
          exact List.mem_map_of_mem inRest
        rw [List.find?_cons_of_neg (by simpa using otherIndex)]
        exact inductionHypothesis distinct.2 inRest

end Crossbar
