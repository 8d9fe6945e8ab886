import Crossbar.Proofs.LaneClaims
import Mathlib.Data.List.Nodup

/-!
# Grouping and ungrouping lanes

Grouping the lanes of a table by cross-lane claims every lane in use exactly
once, for the cross-lane it feeds.  So ungrouping grants every claim, and the
table comes back.
-/

namespace Crossbar.LaneGroup

variable {outputs table : Switches} {crossLane : CrossLane} {lane : Lane}

/-! ## The claims of a table -/

/-- The claim of a lane for the cross-lane it feeds. -/
def claimOf (entry : CrossLane × Lane) : Claim := ⟨entry.1, entry.2.val.toUInt32⟩

/-- The lanes in use with the cross-lanes they feed, cross-lane after cross-lane. -/
def entries (outputs : Switches) : List (CrossLane × Lane) :=
  CrossLane.all.flatMap fun crossLane =>
    (feeding outputs crossLane).map fun lane => (crossLane, lane)

theorem mem_feeding : lane ∈ feeding outputs crossLane ↔ outputs.get lane = some crossLane := by
  simp [feeding, Lane.all]

theorem mem_entries : (crossLane, lane) ∈ entries outputs ↔
    outputs.get lane = some crossLane := by
  simp [entries, CrossLane.all, mem_feeding]

/-- Every lane has at most one entry. -/
theorem nodup_lanes_entries (outputs : Switches) : ((entries outputs).map Prod.snd).Nodup := by
  have entriesDistinct : (entries outputs).Nodup := by
    rw [entries, List.nodup_flatMap]
    constructor
    · intro crossLane _
      refine List.Nodup.map (fun first second same => (Prod.mk.inj same).2) ?_
      exact (List.nodup_finRange 32).filter _
    · refine (List.nodup_finRange 16).imp ?_
      intro first second different entry inFirst inSecond
      obtain ⟨lane, _, rfl⟩ := List.mem_map.mp inFirst
      obtain ⟨other, _, same⟩ := List.mem_map.mp inSecond
      exact different (Prod.mk.inj same).1.symm
  refine entriesDistinct.map_on ?_
  rintro ⟨crossLane, lane⟩ member ⟨other, otherLane⟩ otherMember sameLane
  change lane = otherLane at sameLane
  subst sameLane
  rw [mem_entries] at member otherMember
  rw [member, Option.some.injEq] at otherMember
  rw [otherMember]

/-- The groups of a table claim its entries. -/
theorem claims_ofSwitches (outputs : Switches) :
    claims (ofSwitches outputs) = (entries outputs).map claimOf := by
  have places : CrossLane.all.zipIdx = CrossLane.all.map fun crossLane =>
      (crossLane, crossLane.val) := by
    decide
  rw [claims, ofSwitches, List.zipIdx_map, places, List.map_map, List.flatMap_map, entries,
    List.map_flatMap]
  congr 1
  funext crossLane
  have ownPlace : CrossLane.ofNat? crossLane.val = some crossLane :=
    CrossLane.ofNat?_eq_some_iff.mpr rfl
  simp only [Function.comp_apply, Prod.map_apply, id_eq, ownPlace, List.map_map]
  match feeding outputs crossLane with
  | [] => rfl
  | [lane] => rfl
  | first :: second :: rest =>
      simp [ofLanes, LaneGroup.lanes, claimOf]

/-! ## Granting every claim -/

/-- Ungrouping undoes grouping. -/
theorem settlement_ofSwitches (outputs : Switches) :
    settlement (ofSwitches outputs) = ⟨outputs, [], none⟩ := by
  have lanes : ((entries outputs).map claimOf).map Claim.lane =
      ((entries outputs).map Prod.snd).map fun lane => lane.val.toUInt32 := by
    rw [List.map_map, List.map_map]
    rfl
  have distinct : (((entries outputs).map claimOf).map Claim.lane).Nodup := by
    rw [lanes]
    exact (nodup_lanes_entries outputs).map Lane.toUInt32_injective
  have inRange : ∀ claim ∈ (entries outputs).map claimOf, claim.lane.toNat < laneCount := by
    intro claim member
    obtain ⟨entry, _, rfl⟩ := List.mem_map.mp member
    rw [claimOf, Lane.toNat_toUInt32]
    exact entry.2.isLt
  obtain ⟨table, settled, granted⟩ := settle_of_nodup inRange distinct
  have restored : table = outputs := by
    apply Vector.ext
    intro place inside
    refine Option.ext fun crossLane => (granted ⟨place, inside⟩ crossLane).trans ?_
    rw [List.mem_map]
    constructor
    · rintro ⟨⟨feeder, lane⟩, member, same⟩
      obtain ⟨rfl, sameNumber⟩ := Claim.mk.inj same
      have sameLane : lane = ⟨place, inside⟩ := Lane.toUInt32_injective sameNumber
      rw [sameLane] at member
      exact mem_entries.mp member
    · intro feeds
      exact ⟨(crossLane, ⟨place, inside⟩), mem_entries.mpr feeds, rfl⟩
  rw [settlement, claims_ofSwitches, settled, restored]

theorem checkCount_ofSwitches (outputs : Switches) : checkCount (ofSwitches outputs) = .ok () := by
  have enough : ¬crossLaneCount < (ofSwitches outputs).length := by
    rw [ofSwitches, List.length_map, CrossLane.all, List.length_finRange]
    decide
  rw [checkCount, if_neg enough]

/-- Groups whose claims are all granted are read the same in both ways. -/
theorem toSwitches_of_settlement {groups : List (Option LaneGroup)}
    (few : checkCount groups = .ok ()) (settled : settlement groups = ⟨outputs, [], none⟩) :
    toSwitches groups = .ok outputs ∧ toSwitchesLenient groups = .of (.ok (outputs, [])) := by
  constructor
  · rw [toSwitches, few, settled]
    rfl
  · rw [toSwitchesLenient, few]
    dsimp only
    rw [settled]
    rfl

/-- Reading groups made from a table finds no conflict. -/
theorem toSwitches_ofSwitches (outputs : Switches) :
    toSwitches (ofSwitches outputs) = .ok outputs ∧
      toSwitchesLenient (ofSwitches outputs) = .of (.ok (outputs, [])) :=
  toSwitches_of_settlement (checkCount_ofSwitches outputs) (settlement_ofSwitches outputs)

end Crossbar.LaneGroup
