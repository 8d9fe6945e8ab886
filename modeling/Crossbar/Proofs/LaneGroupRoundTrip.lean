import Crossbar.Proofs.LaneGroup

/-!
# Groups and tables determine each other

Grouping a table and ungrouping the groups gives the table back.  The other way
round, groups that list every lane at most once come back in a normal form: one
group for every cross-lane, with the lanes in ascending order and in the shortest
shorthand.
-/

namespace Crossbar.LaneGroup

variable {groups : List (Option LaneGroup)} {table : Switches} {crossLane : CrossLane}
  {lane : Lane}

/-! ## The normal form -/

/-- The lanes that an entry lists. -/
def listed (group : Option LaneGroup) : List UInt32 := group.elim [] lanes

/-- The same lanes in ascending order and in the shorthand. -/
def canonical (group : Option LaneGroup) : Option LaneGroup :=
  ofLanes ((listed group).mergeSort fun first second => first ≤ second)

/-- Canonical groups, padded with empty ones to one for every cross-lane. -/
def normalForm (groups : List (Option LaneGroup)) : List (Option LaneGroup) :=
  (groups ++ List.replicate (crossLaneCount - groups.length) none).map canonical

/-- Whether lanes are written as short as they can be: a list has at least two. -/
def IsShorthand : Option LaneGroup → Prop
  | none => True
  | some (.single _) => True
  | some (.several lanes) => 2 ≤ lanes.length

theorem isShorthand_ofLanes (lanes : List UInt32) : IsShorthand (ofLanes lanes) := by
  match lanes with
  | [] => trivial
  | [_] => trivial
  | _ :: _ :: rest => exact Nat.le_add_left 2 rest.length

theorem isShorthand_of_mem_normalForm {group : Option LaneGroup}
    (member : group ∈ normalForm groups) : IsShorthand group := by
  obtain ⟨written, _, rfl⟩ := List.mem_map.mp member
  exact isShorthand_ofLanes _

/-- The normal form has the canonical group of every cross-lane at its place. -/
theorem normalForm_eq (few : groups.length ≤ crossLaneCount) :
    normalForm groups =
      CrossLane.all.map fun crossLane => canonical groups[crossLane.val]?.join := by
  have sameLength : (normalForm groups).length =
      (CrossLane.all.map fun crossLane => canonical groups[crossLane.val]?.join).length := by
    simp only [normalForm, List.length_map, List.length_append, List.length_replicate,
      CrossLane.all, List.length_finRange]
    exact Nat.add_sub_cancel' few
  refine List.ext_getElem sameLength fun place _ _ => ?_
  simp only [normalForm, CrossLane.all, List.getElem_map, List.getElem_finRange, Fin.val_cast,
    List.getElem_append]
  split
  case isTrue inGroups =>
    rw [List.getElem?_eq_getElem inGroups, Option.join_some]
  case isFalse beyond =>
    rw [List.getElem_replicate, List.getElem?_eq_none (Nat.not_lt.mp beyond), Option.join_none]

/-! ## The claims of groups -/

/-- What the entry at a place claims. -/
theorem claims_eq (groups : List (Option LaneGroup)) :
    claims groups = groups.zipIdx.flatMap fun entry =>
      (CrossLane.ofNat? entry.2).elim [] fun crossLane =>
        (listed entry.1).map (Claim.mk crossLane) := by
  unfold claims
  congr 1
  funext ⟨group, place⟩
  dsimp only
  cases CrossLane.ofNat? place <;> cases group <;> rfl

/-- A cross-lane claims the lanes listed at its place. -/
theorem mem_claims {number : UInt32} :
    ⟨crossLane, number⟩ ∈ claims groups ↔ number ∈ listed groups[crossLane.val]?.join := by
  rw [claims_eq, List.mem_flatMap]
  constructor
  · rintro ⟨⟨group, place⟩, member, claimed⟩
    cases found : CrossLane.ofNat? place with
    | none =>
        simp [found] at claimed
    | some claimant =>
        simp only [found, Option.elim_some, List.mem_map, Claim.mk.injEq] at claimed
        obtain ⟨_, inGroup, rfl, rfl⟩ := claimed
        rw [CrossLane.ofNat?_eq_some_iff] at found
        rw [List.mk_mem_zipIdx_iff_getElem?, found] at member
        rw [member]
        exact inGroup
  · intro inGroup
    cases group : groups[crossLane.val]? with
    | none =>
        rw [group] at inGroup
        cases inGroup
    | some entry =>
        rw [group] at inGroup
        have ownPlace : CrossLane.ofNat? crossLane.val = some crossLane :=
          CrossLane.ofNat?_eq_some_iff.mpr rfl
        refine ⟨(entry, crossLane.val), List.mk_mem_zipIdx_iff_getElem?.mpr group, ?_⟩
        rw [ownPlace]
        exact List.mem_map_of_mem inGroup

/-- Every listed lane is claimed as long as every group has a cross-lane. -/
theorem map_lane_claims (few : groups.length ≤ crossLaneCount) :
    (claims groups).map Claim.lane = groups.flatMap listed := by
  have placed : ∀ entry ∈ groups.zipIdx,
      ((CrossLane.ofNat? entry.2).elim [] fun crossLane =>
        (listed entry.1).map (Claim.mk crossLane)).map Claim.lane = listed entry.1 := by
    rintro ⟨group, place⟩ member
    have isListed := List.mk_mem_zipIdx_iff_getElem?.mp member
    have inRange : place < 16 :=
      Nat.lt_of_lt_of_le (List.getElem?_eq_some_iff.mp isListed).1 few
    have found : CrossLane.ofNat? place = some ⟨place, inRange⟩ :=
      CrossLane.ofNat?_eq_some_iff.mpr rfl
    rw [found, Option.elim_some, List.map_map]
    exact List.map_id _
  rw [claims_eq, List.map_flatMap, List.flatMap_congr placed]
  rw [← List.flatMap_map Prod.fst, List.zipIdx_map_fst]

/-! ## Groups that list every lane at most once -/

/-- The groups fit the hardware and list every lane at most once. -/
structure IsUnambiguous (groups : List (Option LaneGroup)) : Prop where
  few : groups.length ≤ crossLaneCount
  inRange : ∀ number ∈ groups.flatMap listed, number.toNat < laneCount
  distinct : (groups.flatMap listed).Nodup

/-- A table that feeds exactly the lanes that the groups list. -/
def Agrees (groups : List (Option LaneGroup)) (table : Switches) : Prop :=
  ∀ crossLane lane, table.get lane = some crossLane ↔
    lane.val.toUInt32 ∈ listed groups[crossLane.val]?.join

/-- Unambiguous groups are read without a conflict to the table that agrees with
them. -/
theorem IsUnambiguous.exists_settlement (unambiguous : IsUnambiguous groups) :
    ∃ table, settlement groups = ⟨table, [], none⟩ ∧ Agrees groups table := by
  have lanesClaimed := map_lane_claims unambiguous.few
  have inRange : ∀ claim ∈ claims groups, claim.lane.toNat < laneCount := by
    intro claim member
    apply unambiguous.inRange
    rw [← lanesClaimed]
    exact List.mem_map_of_mem member
  have distinct : ((claims groups).map Claim.lane).Nodup := by
    rw [lanesClaimed]
    exact unambiguous.distinct
  obtain ⟨table, settled, granted⟩ := settle_of_nodup inRange distinct
  refine ⟨table, settled, fun crossLane lane => ?_⟩
  rw [granted, mem_claims]

theorem IsUnambiguous.nodup_listed (unambiguous : IsUnambiguous groups) (place : Nat) :
    (listed groups[place]?.join).Nodup := by
  cases found : groups[place]? with
  | none =>
      exact List.nodup_nil
  | some group =>
      exact (List.nodup_flatMap.mp unambiguous.distinct).1 group (List.mem_of_getElem? found)

theorem IsUnambiguous.toNat_lt_of_mem_listed (unambiguous : IsUnambiguous groups)
    {place : Nat} {number : UInt32} (isListed : number ∈ listed groups[place]?.join) :
    number.toNat < laneCount := by
  cases found : groups[place]? with
  | none =>
      rw [found] at isListed
      cases isListed
  | some group =>
      rw [found] at isListed
      exact unambiguous.inRange number
        (List.mem_flatMap.mpr ⟨group, List.mem_of_getElem? found, isListed⟩)

/-- The lanes that feed a cross-lane are those it lists, in ascending order. -/
theorem IsUnambiguous.map_feeding (unambiguous : IsUnambiguous groups)
    (agrees : Agrees groups table) (crossLane : CrossLane) :
    ((feeding table crossLane).map fun lane => lane.val.toUInt32) =
      (listed groups[crossLane.val]?.join).mergeSort fun first second => first ≤ second := by
  have feedingDistinct : ((feeding table crossLane).map fun lane => lane.val.toUInt32).Nodup :=
    ((List.nodup_finRange 32).filter _).map Lane.toUInt32_injective
  have sameLanes : ((feeding table crossLane).map fun lane => lane.val.toUInt32).Perm
      (listed groups[crossLane.val]?.join) := by
    rw [List.perm_ext_iff_of_nodup feedingDistinct (unambiguous.nodup_listed crossLane.val)]
    intro number
    rw [List.mem_map]
    constructor
    · rintro ⟨lane, feeds, rfl⟩
      exact (agrees crossLane lane).mp (mem_feeding.mp feeds)
    · intro isListed
      have inRange : number.toNat < 32 := unambiguous.toNat_lt_of_mem_listed isListed
      have sameNumber : (⟨number.toNat, inRange⟩ : Lane).val.toUInt32 = number :=
        UInt32.ofNat_toNat
      refine ⟨⟨number.toNat, inRange⟩, mem_feeding.mpr ?_, sameNumber⟩
      rwa [agrees, sameNumber]
  refine (sameLanes.trans (List.mergeSort_perm _ _).symm).eq_of_pairwise
    (fun first second _ _ below above => UInt32.le_antisymm below above) ?_ ?_
  · rw [List.pairwise_map]
    have ascending : (feeding table crossLane).Pairwise (· < ·) :=
      (List.pairwise_lt_finRange 32).filter _
    exact ascending.imp fun before => Lane.toUInt32_le (Nat.le_of_lt before)
  · have sorted : (listed groups[crossLane.val]?.join).mergeSort.Pairwise
        fun first second => decide (first ≤ second) = true :=
      List.pairwise_mergeSort (by simpa using fun _ _ _ => UInt32.le_trans)
        (by simpa using UInt32.le_total) _
    exact sorted.imp of_decide_eq_true

/-- Grouping the table of unambiguous groups gives their normal form. -/
theorem IsUnambiguous.ofSwitches_eq (unambiguous : IsUnambiguous groups)
    (agrees : Agrees groups table) : ofSwitches table = normalForm groups := by
  rw [normalForm_eq unambiguous.few, ofSwitches]
  refine List.map_congr_left fun crossLane _ => ?_
  rw [canonical, unambiguous.map_feeding agrees]

/-! ## Both ways -/

/-- Grouping and ungrouping undo each other, up to the notation of groups. -/
theorem ungroup_group :
    (∀ table : Switches, toSwitches (ofSwitches table) = .ok table ∧
        toSwitchesLenient (ofSwitches table) = .of (.ok (table, []))) ∧
      ∀ groups, IsUnambiguous groups →
        ∃ table, toSwitches groups = .ok table ∧
          toSwitchesLenient groups = .of (.ok (table, [])) ∧
          ofSwitches table = normalForm groups ∧
          ∀ group ∈ normalForm groups, IsShorthand group := by
  refine ⟨toSwitches_ofSwitches, fun groups unambiguous => ?_⟩
  obtain ⟨table, settled, agrees⟩ := unambiguous.exists_settlement
  have few : checkCount groups = .ok () := by
    rw [checkCount, if_neg (Nat.not_lt.mpr unambiguous.few)]
  obtain ⟨strict, lenient⟩ := toSwitches_of_settlement few settled
  exact ⟨table, strict, lenient, unambiguous.ofSwitches_eq agrees,
    fun _ => isShorthand_of_mem_normalForm⟩

/-- Groups with lanes out of order, an empty list and a list of one lane. -/
def looseGroups : List (Option LaneGroup) :=
  [some (.several [10, 31, 3]), none, some (.several []), some (.several [0]), some (.single 7)]

/-- The lanes are sorted, the empty list vanishes and the list of one is a number. -/
theorem ungroup_group_looseGroups :
    IsUnambiguous looseGroups ∧
      ∃ table, toSwitches looseGroups = .ok table ∧
        ofSwitches table = [some (.several [3, 10, 31]), none, none, some (.single 0),
          some (.single 7)] ++ List.replicate 11 none := by
  have unambiguous : IsUnambiguous looseGroups :=
    ⟨by decide, by simp [looseGroups, listed, lanes, laneCount], by decide⟩
  obtain ⟨table, strict, _, _, _⟩ := ungroup_group.2 looseGroups unambiguous
  refine ⟨unambiguous, table, strict, ?_⟩
  have grouped : (toSwitches looseGroups).map ofSwitches =
      .ok ([some (.several [3, 10, 31]), none, none, some (.single 0), some (.single 7)]
        ++ List.replicate 11 none) := by
    rfl
  rw [strict] at grouped
  exact Except.ok.inj grouped

end Crossbar.LaneGroup
