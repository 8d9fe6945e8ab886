import Crossbar.Proofs.LaneGroupRoundTrip
import Crossbar.Proofs.Trace
import Mathlib.Order.Bounds.Basic

/-!
# The first cross-lane wins

Groups are read cross-lane after cross-lane, so the first claimant of a lane is the
smallest cross-lane that lists it.  Lenient reading gives the lane to that one and
leaves a conflict for every further claim; strict reading fails with the first
conflict.  The two agree unless a number that is no lane stands after a conflict: then
each of them fails, and for different reasons.
-/

namespace Crossbar.LaneGroup

variable {groups : List (Option LaneGroup)} {table : Switches} {crossLane other : CrossLane}
  {lane : Lane} {claim : Claim} {conflict : Conflict} {conflicts : List Conflict}
  {number : UInt32}

/-! ## The first lister of a lane -/

/-- A cross-lane lists a lane. -/
def Lists (groups : List (Option LaneGroup)) (lane : Lane) (crossLane : CrossLane) : Prop :=
  lane.val.toUInt32 ∈ listed groups[crossLane.val]?.join

/-- The smallest cross-lane that lists a lane. -/
def IsFirstLister (groups : List (Option LaneGroup)) (lane : Lane) (crossLane : CrossLane) :
    Prop :=
  IsLeast {lister | Lists groups lane lister} crossLane

theorem place_of_mem {entry : Option LaneGroup × Nat}
    (member : claim ∈ (CrossLane.ofNat? entry.2).elim [] fun crossLane =>
      (listed entry.1).map (Claim.mk crossLane)) : entry.2 = claim.crossLane.val := by
  cases found : CrossLane.ofNat? entry.2 with
  | none =>
      simp [found] at member
  | some crossLane =>
      rw [found, Option.elim_some, List.mem_map] at member
      obtain ⟨_, _, rfl⟩ := member
      exact CrossLane.ofNat?_eq_some_iff.mp found

/-- Claims come in ascending order of their cross-lanes. -/
theorem pairwise_claims (groups : List (Option LaneGroup)) :
    (claims groups).Pairwise fun first second => first.crossLane ≤ second.crossLane := by
  have places : groups.zipIdx.Pairwise fun first second => first.2 < second.2 := by
    rw [← List.pairwise_map, List.zipIdx_map_snd]
    exact List.pairwise_lt_range'
  rw [claims_eq, List.pairwise_flatMap]
  constructor
  · intro entry _
    cases CrossLane.ofNat? entry.2 with
    | none =>
        exact List.Pairwise.nil
    | some crossLane =>
        rw [Option.elim_some, List.pairwise_map]
        exact List.pairwise_of_forall fun _ _ => le_rfl
  · refine places.imp fun {firstEntry secondEntry} before first firstMember second member => ?_
    rw [Fin.le_def, ← place_of_mem firstMember, ← place_of_mem member]
    exact before.le

theorem count_map_claim (entry : Option LaneGroup × Nat) (claim : Claim) :
    ((CrossLane.ofNat? entry.2).elim [] fun crossLane =>
        (listed entry.1).map (Claim.mk crossLane)).count claim =
      if entry.2 = claim.crossLane.val then (listed entry.1).count claim.lane else 0 := by
  split
  case isTrue samePlace =>
    rw [CrossLane.ofNat?_eq_some_iff.mpr samePlace, Option.elim_some]
    exact List.count_map_of_injective _ _ (fun _ _ same => (Claim.mk.inj same).2) claim.lane
  case isFalse otherPlace =>
    exact List.count_eq_zero.mpr fun member => otherPlace (place_of_mem member)

theorem count_claims (groups : List (Option LaneGroup)) (claim : Claim) :
    (claims groups).count claim =
      (listed groups[claim.crossLane.val]?.join).count claim.lane := by
  have fromPlace (start : Nat) (inside : start ≤ claim.crossLane.val) :
      ((groups.zipIdx start).flatMap fun entry =>
        (CrossLane.ofNat? entry.2).elim [] fun crossLane =>
          (listed entry.1).map (Claim.mk crossLane)).count claim =
        (listed groups[claim.crossLane.val - start]?.join).count claim.lane := by
    induction groups generalizing start with
    | nil =>
        simp [listed]
    | cons group rest inductionHypothesis =>
        rw [List.zipIdx_cons, List.flatMap_cons, List.count_append, count_map_claim]
        by_cases here : start = claim.crossLane.val
        · have noneLater : ((rest.zipIdx (start + 1)).flatMap fun entry =>
              (CrossLane.ofNat? entry.2).elim [] fun crossLane =>
                (listed entry.1).map (Claim.mk crossLane)).count claim = 0 := by
            refine List.count_eq_zero.mpr fun member => ?_
            obtain ⟨entry, inRest, claimed⟩ := List.mem_flatMap.mp member
            have place := place_of_mem claimed
            have later := List.le_snd_of_mem_zipIdx inRest
            omega
          rw [if_pos here, noneLater, ← here, Nat.sub_self]
          simp
        · rw [if_neg here, inductionHypothesis (start + 1) (by omega), Nat.zero_add,
            show claim.crossLane.val - start = claim.crossLane.val - (start + 1) + 1 by omega,
            List.getElem?_cons_succ]
  rw [claims_eq]
  exact fromPlace 0 (Nat.zero_le _)

/-- The first claimant of a lane is its first lister. -/
theorem firstClaimant?_claims :
    firstClaimant? (claims groups) lane = some crossLane ↔ IsFirstLister groups lane crossLane := by
  have first {holder : CrossLane} (held : firstClaimant? (claims groups) lane = some holder) :
      IsFirstLister groups lane holder := by
    refine ⟨mem_claims.mp (mem_of_firstClaimant? held), fun other isListed => ?_⟩
    obtain ⟨claim, found, rfl⟩ := Option.map_eq_some_iff.mp held
    obtain ⟨_, before, after, whole, noneBefore⟩ := List.find?_eq_some_iff_append.mp found
    have claimed : ⟨other, lane.val.toUInt32⟩ ∈ claims groups := mem_claims.mpr isListed
    have ascending := pairwise_claims groups
    rw [whole] at claimed ascending
    rcases List.mem_append.mp claimed with inBefore | inRest
    · simpa using noneBefore _ inBefore
    · rcases List.mem_cons.mp inRest with rfl | inAfter
      · exact le_rfl
      · exact (List.pairwise_cons.mp (List.pairwise_append.mp ascending).2.1).1 _ inAfter
  constructor
  · exact first
  · intro isFirst
    cases held : firstClaimant? (claims groups) lane with
    | none =>
        have unclaimed := firstClaimant?_eq_none_iff.mp held
        exact absurd (List.mem_map_of_mem (mem_claims.mpr isFirst.1)) unclaimed
    | some holder =>
        rw [(first held).unique isFirst]

/-! ## Both ways of reading -/

/-- A conflict names the lane of a claim, its first lister and the cross-lane whose
claim came too late. -/
structure Rejects (groups : List (Option LaneGroup)) (conflict : Conflict) (claim : Claim) :
    Prop where
  lane : conflict.lane.val.toUInt32 = claim.lane
  holder : IsFirstLister groups conflict.lane conflict.holder
  claimant : conflict.claimant = claim.crossLane

/-- What lenient reading makes of groups of lanes: every lane is fed from its first
lister, and the further claims leave one conflict each, in order. -/
structure Grants (groups : List (Option LaneGroup)) (table : Switches)
    (conflicts : List Conflict) : Prop where
  granted : ∀ lane crossLane,
    table.get lane = some crossLane ↔ IsFirstLister groups lane crossLane
  rejected : List.Forall₂ (Rejects groups) conflicts (repeated (claims groups))
  counted : (groups.flatMap listed).length = (assigned table).card + conflicts.length

/-- A number that is no lane stands behind the claim that a conflict rejects. -/
def FailsLater (groups : List (Option LaneGroup)) (conflict : Conflict) (number : UInt32) :
    Prop :=
  ∃ before claim after, claims groups = before ++ claim :: after ∧
    claim.lane ∈ before.map Claim.lane ∧ Rejects groups conflict claim ∧
    (∀ earlier ∈ before, earlier.lane.toNat < laneCount) ∧
    (after.map Claim.lane).find? (fun number => laneCount ≤ number.toNat) = some number

/-- What the two ways of reading groups give. -/
structure ReadsInOrder (groups : List (Option LaneGroup)) : Prop where
  tooMany : crossLaneCount < groups.length →
    toSwitches groups =
        .error (.tooManyEntries .outputSwitches crossLaneCount groups.length) ∧
      (toSwitchesLenient groups).value =
        .error (.tooManyEntries .outputSwitches crossLaneCount groups.length)
  beyond : groups.length ≤ crossLaneCount → ∀ number,
    (groups.flatMap listed).find? (fun number => laneCount ≤ number.toNat) = some number →
      (toSwitchesLenient groups).value = .error (.laneOutOfRange .outputSwitches number.toNat)
  granted : groups.length ≤ crossLaneCount →
    (∀ number ∈ groups.flatMap listed, number.toNat < laneCount) →
      ∃ table conflicts, (toSwitchesLenient groups).value = .ok (table, conflicts) ∧
        Grants groups table conflicts
  distinct : (∀ group ∈ groups, (listed group).Nodup) → ∀ table conflicts,
    (toSwitchesLenient groups).value = .ok (table, conflicts) →
      ∀ conflict ∈ conflicts, conflict.holder < conflict.claimant
  strict : ∀ table, toSwitches groups = .ok table ↔
    (toSwitchesLenient groups).value = .ok (table, [])
  refused : ∀ table conflict rest,
    (toSwitchesLenient groups).value = .ok (table, conflict :: rest) →
      toSwitches groups = .error (.doubleAllocation conflict)
  explained : ∀ conflict, toSwitches groups = .error (.doubleAllocation conflict) →
    (∃ table rest, (toSwitchesLenient groups).value = .ok (table, conflict :: rest)) ∨
      ∃ number, FailsLater groups conflict number ∧
        (toSwitchesLenient groups).value =
          .error (.laneOutOfRange .outputSwitches number.toNat)

/-! ## Reading through the settlement -/

theorem checkCount_of_few (few : groups.length ≤ crossLaneCount) : checkCount groups = .ok () := by
  rw [checkCount, if_neg (Nat.not_lt.mpr few)]

theorem toSwitches_of_many (many : crossLaneCount < groups.length) :
    toSwitches groups =
        .error (.tooManyEntries .outputSwitches crossLaneCount groups.length) ∧
      (toSwitchesLenient groups).value =
        .error (.tooManyEntries .outputSwitches crossLaneCount groups.length) := by
  rw [toSwitches, toSwitchesLenient, checkCount, if_pos many]
  exact ⟨rfl, rfl⟩

theorem value_toSwitchesLenient (few : groups.length ≤ crossLaneCount) :
    (toSwitchesLenient groups).value =
      match (settlement groups).fault with
      | some fault => .error fault
      | none => .ok ((settlement groups).outputs, (settlement groups).conflicts) := by
  unfold toSwitchesLenient
  split
  case h_1 refused =>
    rw [checkCount_of_few few] at refused
    cases refused
  case h_2 =>
    rfl

/-- Strict reading fails with the first conflict, even if a fault comes after it. -/
theorem toSwitches_of_few (few : groups.length ≤ crossLaneCount) :
    toSwitches groups =
      match (settlement groups).conflicts, (settlement groups).fault with
      | conflict :: _, _ => .error (.doubleAllocation conflict)
      | [], some fault => .error fault
      | [], none => .ok (settlement groups).outputs := by
  rw [toSwitches, checkCount_of_few few]
  rfl

theorem toSwitchesLenient_eq_ok_iff :
    (toSwitchesLenient groups).value = .ok (table, conflicts) ↔
      groups.length ≤ crossLaneCount ∧ settlement groups = ⟨table, conflicts, none⟩ := by
  by_cases few : groups.length ≤ crossLaneCount
  · rw [value_toSwitchesLenient few]
    obtain ⟨outputs, rejected, fault⟩ := settlement groups
    cases fault <;> simp [few]
  · rw [(toSwitches_of_many (Nat.lt_of_not_le few)).2]
    simp [few]

theorem toSwitches_eq_ok_iff :
    toSwitches groups = .ok table ↔
      groups.length ≤ crossLaneCount ∧ settlement groups = ⟨table, [], none⟩ := by
  by_cases few : groups.length ≤ crossLaneCount
  · rw [toSwitches_of_few few]
    obtain ⟨outputs, rejected, fault⟩ := settlement groups
    cases rejected <;> cases fault <;> simp [few]
  · rw [(toSwitches_of_many (Nat.lt_of_not_le few)).1]
    simp [few]

theorem fault_settlement (few : groups.length ≤ crossLaneCount) :
    (settlement groups).fault =
      ((groups.flatMap listed).find? fun number => laneCount ≤ number.toNat).map fun number =>
        .laneOutOfRange .outputSwitches number.toNat := by
  rw [settlement, fault_settle, map_lane_claims few]

theorem toSwitches_eq_doubleAllocation_iff :
    toSwitches groups = .error (.doubleAllocation conflict) ↔
      groups.length ≤ crossLaneCount ∧ (settlement groups).conflicts.head? = some conflict := by
  by_cases few : groups.length ≤ crossLaneCount
  · have range : ∀ other, (settlement groups).fault ≠ some (.doubleAllocation other) := by
      intro other failed
      rw [fault_settlement few] at failed
      obtain ⟨number, _, impossible⟩ := Option.map_eq_some_iff.mp failed
      cases impossible
    rw [toSwitches_of_few few]
    revert range
    obtain ⟨outputs, rejected, fault⟩ := settlement groups
    intro range
    cases rejected <;> cases fault <;> simp_all
  · rw [(toSwitches_of_many (Nat.lt_of_not_le few)).1]
    simp [few]

/-! ## Rejected claims -/

theorem Answers.rejects {before rest : List Claim} (answers : Answers before conflict claim)
    (whole : claims groups = before ++ rest) : Rejects groups conflict claim := by
  refine ⟨answers.lane, ?_, answers.claimant⟩
  rw [← firstClaimant?_claims, whole]
  exact firstClaimant?_append_of_some answers.holder rest

theorem Rejects.holder_le (rejects : Rejects groups conflict claim)
    (claimed : claim ∈ claims groups) : conflict.holder ≤ conflict.claimant := by
  apply rejects.holder.2
  rw [Set.mem_ofPred_eq, Lists, rejects.lane, rejects.claimant]
  exact mem_claims.mp claimed

/-- A cross-lane is rejected in favour of itself only for a lane that it repeats. -/
theorem Rejects.two_le_count (rejects : Rejects groups conflict claim)
    (again : claim ∈ repeated (claims groups)) (same : conflict.holder = conflict.claimant) :
    2 ≤ (listed groups[conflict.holder.val]?.join).count conflict.lane.val.toUInt32 := by
  obtain ⟨before, after, whole, known⟩ := mem_repeated.mp again
  have holder := firstClaimant?_claims.mpr rejects.holder
  have firstOfBefore : firstClaimant? before conflict.lane = some conflict.holder := by
    rw [whole, firstClaimant?_append] at holder
    cases found : firstClaimant? before conflict.lane with
    | none =>
        rw [firstClaimant?_eq_none_iff, rejects.lane] at found
        exact absurd known found
    | some first =>
        rwa [found, Option.some_or] at holder
  have sameClaim : claim = ⟨conflict.holder, conflict.lane.val.toUInt32⟩ := by
    rw [same, rejects.claimant, rejects.lane]
  have earlier : 0 < before.count claim := by
    rw [List.count_pos_iff, sameClaim]
    exact mem_of_firstClaimant? firstOfBefore
  have twice : 2 ≤ (claims groups).count claim := by
    rw [whole, List.count_append, List.count_cons_self]
    omega
  rwa [count_claims, sameClaim] at twice

/-! ## The theorem -/

theorem toNat_lt_of_listed (few : groups.length ≤ crossLaneCount)
    (inRange : ∀ number ∈ groups.flatMap listed, number.toNat < laneCount) :
    ∀ claim ∈ claims groups, claim.lane.toNat < laneCount := by
  intro claim member
  apply inRange
  rw [← map_lane_claims few]
  exact List.mem_map_of_mem member

theorem toNat_lt_of_noFault {made : List Claim} {outputs : Switches}
    (noFault : (settle outputs made).fault = none) :
    ∀ claim ∈ made, claim.lane.toNat < laneCount := by
  rw [fault_settle] at noFault
  simpa using noFault

theorem grants_settlement (few : groups.length ≤ crossLaneCount)
    (noFault : (settlement groups).fault = none) :
    Grants groups (settlement groups).outputs (settlement groups).conflicts := by
  have settles := settles_settle (toNat_lt_of_noFault noFault)
  refine ⟨fun lane crossLane => ?_, ?_, ?_⟩
  · rw [← firstClaimant?_claims, ← settles.granted]
    rfl
  · exact settles.rejected.imp fun _ _ answers => answers.rejects (List.append_nil _).symm
  · rw [← map_lane_claims few, List.length_map]
    exact settles.counted

theorem grants_of_toSwitchesLenient
    (read : (toSwitchesLenient groups).value = .ok (table, conflicts)) :
    Grants groups table conflicts := by
  obtain ⟨few, settled⟩ := toSwitchesLenient_eq_ok_iff.mp read
  have grants := grants_settlement few (by rw [settled])
  rwa [settled] at grants

theorem failsLater_of_fault
    (first : (settlement groups).conflicts.head? = some conflict)
    (failed : (settlement groups).fault ≠ none) :
    ∃ number, FailsLater groups conflict number ∧
      (settlement groups).fault = some (.laneOutOfRange .outputSwitches number.toNat) := by
  obtain ⟨before, culprit, later, whole, tooLarge, settles, sameConflicts⟩ :=
    settle_of_fault failed
  have inRange := toNat_lt_of_noFault settles.noFault
  have rejected := settles.rejected
  rw [settlement, sameConflicts, List.head?_eq_some_iff] at first
  obtain ⟨rest, split⟩ := first
  rw [split, List.forall₂_cons_left_iff] at rejected
  obtain ⟨claim, _, answers, _, again⟩ := rejected
  have isRepeated : claim ∈ repeated before := by
    rw [again]
    exact List.mem_cons_self
  obtain ⟨earlier, between, rfl, known⟩ := mem_repeated.mp isRepeated
  have firstTooLarge (kept : List Claim)
      (small : ∀ claim ∈ kept, claim.lane.toNat < laneCount) :
      ((kept ++ culprit :: later).map Claim.lane).find?
        (fun number => laneCount ≤ number.toNat) = some culprit.lane := by
    rw [List.map_append, List.find?_append, List.find?_eq_none.mpr, Option.none_or, List.map_cons,
      List.find?_cons_of_pos (by simpa using tooLarge)]
    simpa using small
  refine ⟨culprit.lane, ⟨earlier, claim, between ++ culprit :: later, ?_, known,
    answers.rejects whole, fun other member => ?_, ?_⟩, ?_⟩
  · rw [whole, List.append_assoc, List.cons_append]
  · exact inRange other (List.mem_append_left _ member)
  · exact firstTooLarge between fun other member =>
      inRange other (List.mem_append_right _ (List.mem_cons_of_mem _ member))
  · rw [settlement, fault_settle, whole, firstTooLarge _ inRange]
    rfl

/-- Lenient reading grants every lane to its first lister, and strict reading is
lenient reading without conflicts. -/
theorem readsInOrder (groups : List (Option LaneGroup)) : ReadsInOrder groups where
  tooMany := toSwitches_of_many
  beyond := by
    intro few number found
    rw [value_toSwitchesLenient few, fault_settlement few, found]
    rfl
  granted := by
    intro few inRange
    have noFault := (settles_settle (toNat_lt_of_listed few inRange)).noFault
    refine ⟨_, _, ?_, grants_settlement few noFault⟩
    rw [value_toSwitchesLenient few, settlement, noFault]
  distinct := by
    intro noRepetition table conflicts read conflict member
    obtain ⟨few, settled⟩ := toSwitchesLenient_eq_ok_iff.mp read
    have rejected := (grants_of_toSwitchesLenient read).rejected
    obtain ⟨claim, again, rejects⟩ := exists_item rejected member
    refine lt_of_le_of_ne (rejects.holder_le (mem_of_mem_repeated again)) fun same => ?_
    have twice := rejects.two_le_count again same
    have once : (listed groups[conflict.holder.val]?.join).Nodup := by
      cases held : groups[conflict.holder.val]? with
      | none =>
          exact List.nodup_nil
      | some group =>
          exact noRepetition group (List.mem_of_getElem? held)
    have atMostOnce := List.nodup_iff_count_le_one.mp once conflict.lane.val.toUInt32
    omega
  strict := fun table => toSwitches_eq_ok_iff.trans toSwitchesLenient_eq_ok_iff.symm
  refused := by
    intro table conflict rest read
    obtain ⟨few, settled⟩ := toSwitchesLenient_eq_ok_iff.mp read
    rw [toSwitches_eq_doubleAllocation_iff, settled]
    exact ⟨few, rfl⟩
  explained := by
    intro conflict refused
    obtain ⟨few, first⟩ := toSwitches_eq_doubleAllocation_iff.mp refused
    rw [value_toSwitchesLenient few]
    cases failed : (settlement groups).fault with
    | none =>
        obtain ⟨rest, split⟩ := List.head?_eq_some_iff.mp first
        exact .inl ⟨_, rest, by rw [split]⟩
    | some fault =>
        obtain ⟨number, failsLater, sameFault⟩ :=
          failsLater_of_fault first (by rw [failed]; exact Option.some_ne_none fault)
        rw [failed, Option.some.injEq] at sameFault
        exact .inr ⟨number, failsLater, by rw [sameFault]⟩

/-- A conflict stands before the number that is no lane, so strict reading fails with
the one and lenient reading with the other. -/
example :
    toSwitches [some (.single 7), some (.several [7, 32])] =
        .error (.doubleAllocation ⟨7, 0, 1⟩) ∧
      (toSwitchesLenient [some (.single 7), some (.several [7, 32])]).value =
        .error (.laneOutOfRange .outputSwitches 32) := by
  decide +kernel

end Crossbar.LaneGroup
