import Crossbar.Proofs.LanePrecedence
import Crossbar.Proofs.Load

/-!
# Ambiguous groups

Groups are ambiguous when two cross-lanes list the same lane, and then no table feeds
exactly the lanes that they list.  A conflict need not show that: a cross-lane that lists
a lane twice is rejected in its own favour.  So conflicts tell ambiguous groups apart
as long as no lane is repeated by its first lister.
-/

namespace Crossbar.LaneGroup

variable {groups : List (Option LaneGroup)} {table : Switches} {conflict : Conflict}
  {conflicts : List Conflict} {claim : Claim}

/-- Two cross-lanes list the same lane. -/
def IsAmbiguous (groups : List (Option LaneGroup)) : Prop :=
  ∃ lane first second, first ≠ second ∧ Lists groups lane first ∧ Lists groups lane second

/-- The first lister of a lane lists it again. -/
def Stutters (groups : List (Option LaneGroup)) : Prop :=
  ∃ lane crossLane, IsFirstLister groups lane crossLane ∧
    2 ≤ (listed groups[crossLane.val]?.join).count lane.val.toUInt32

/-- Strict reading fails with a conflict, or lenient reading returns it. -/
def Reports (groups : List (Option LaneGroup)) (conflict : Conflict) : Prop :=
  toSwitches groups = .error (.doubleAllocation conflict) ∨
    ∃ table conflicts, (toSwitchesLenient groups).value = .ok (table, conflicts) ∧
      conflict ∈ conflicts

/-- Conflicts are between two cross-lanes: groups are refused exactly when they are
ambiguous, and loading finds a double allocation only in groups that no table agrees
with. -/
structure TellsApart (groups : List (Option LaneGroup)) : Prop where
  refused : (∃ conflict, toSwitches groups = .error (.doubleAllocation conflict)) ↔
    IsAmbiguous groups
  reported : ∀ conflict, Reports groups conflict → conflict.holder ≠ conflict.claimant
  loaded : ∀ (file : CircuitFile) (layout : Layout) (circuit : LoadedCircuit),
    (file.load layout).value = .ok circuit →
      ∀ error ∈ circuit.routing.errors, error.code = ⟨.codec, 201⟩ →
        ∃ request, file = .ofRequest request ∧
          (request.blocks.groups = groups → ¬∃ table, Agrees groups table)
  neverFails : ∀ (file : CircuitFile) (layout : Layout) (conflict : Conflict),
    (file.load layout).value ≠ .error (.codec (.doubleAllocation conflict))

instance (lane : Lane) (crossLane : CrossLane) : Decidable (Lists groups lane crossLane) :=
  inferInstanceAs (Decidable (_ ∈ _))

instance (lane : Lane) (crossLane : CrossLane) :
    Decidable (IsFirstLister groups lane crossLane) :=
  decidable_of_iff _ firstClaimant?_claims

instance : Decidable (IsAmbiguous groups) :=
  inferInstanceAs (Decidable (∃ _ _ _, _))

instance : Decidable (Stutters groups) :=
  inferInstanceAs (Decidable (∃ _ _, _))

/-! ## Tables that agree -/

/-- Some table agrees with groups unless they are ambiguous. -/
theorem exists_agrees_iff : (∃ table, Agrees groups table) ↔ ¬IsAmbiguous groups := by
  constructor
  · rintro ⟨table, agrees⟩ ⟨lane, first, second, different, firstLists, secondLists⟩
    have fedByFirst := (agrees first lane).mpr firstLists
    have fedBySecond := (agrees second lane).mpr secondLists
    rw [fedByFirst, Option.some.injEq] at fedBySecond
    exact different fedBySecond
  · intro unambiguous
    refine ⟨.ofFn fun lane : Lane => firstClaimant? (claims groups) lane, fun crossLane lane => ?_⟩
    change (Vector.ofFn fun lane : Lane => firstClaimant? (claims groups) lane)[lane.val] = _ ↔ _
    rw [Vector.getElem_ofFn, firstClaimant?_claims]
    constructor
    · exact fun isFirst => isFirst.1
    · intro isListed
      refine ⟨isListed, fun other otherLists => ?_⟩
      by_contra! before
      exact unambiguous ⟨lane, other, crossLane, before.ne, otherLists, isListed⟩

/-! ## What a conflict shows -/

theorem Rejects.stutters (rejects : Rejects groups conflict claim)
    (again : claim ∈ repeated (claims groups)) (same : conflict.holder = conflict.claimant) :
    Stutters groups :=
  ⟨conflict.lane, conflict.holder, rejects.holder, rejects.two_le_count again same⟩

theorem Rejects.isAmbiguous (rejects : Rejects groups conflict claim)
    (again : claim ∈ repeated (claims groups)) (different : conflict.holder ≠ conflict.claimant) :
    IsAmbiguous groups := by
  refine ⟨conflict.lane, conflict.holder, conflict.claimant, different, rejects.holder.1, ?_⟩
  rw [Lists, rejects.lane, rejects.claimant]
  exact mem_claims.mp (mem_of_mem_repeated again)

theorem IsAmbiguous.repeated_ne_nil (ambiguous : IsAmbiguous groups) :
    repeated (claims groups) ≠ [] := by
  obtain ⟨lane, first, second, different, firstLists, secondLists⟩ := ambiguous
  rw [Ne, repeated_eq_nil_iff]
  intro distinct
  have sameClaim := List.inj_on_of_nodup_map distinct (mem_claims.mpr firstLists)
    (mem_claims.mpr secondLists) rfl
  exact different (Claim.mk.inj sameClaim).1

/-- A stutter leaves a conflict of a cross-lane with itself. -/
theorem Stutters.exists_conflict (stutters : Stutters groups)
    (grants : Grants groups table conflicts) :
    ∃ conflict ∈ conflicts, conflict.holder = conflict.claimant := by
  obtain ⟨lane, crossLane, isFirst, twice⟩ := stutters
  have again : ⟨crossLane, lane.val.toUInt32⟩ ∈ repeated (claims groups) := by
    apply mem_repeated_of_two_le_count
    rwa [count_claims]
  obtain ⟨conflict, member, rejects⟩ := exists_result grants.rejected again
  have sameLane : conflict.lane = lane := Lane.toUInt32_injective rejects.lane
  have holder := rejects.holder
  rw [sameLane] at holder
  refine ⟨conflict, member, ?_⟩
  rw [rejects.claimant, holder.unique isFirst]

theorem Reports.mem_conflicts (reports : Reports groups conflict) :
    conflict ∈ (settlement groups).conflicts := by
  rcases reports with refused | ⟨table, conflicts, read, member⟩
  · exact List.mem_of_mem_head? (toSwitches_eq_doubleAllocation_iff.mp refused).2
  · rwa [(toSwitchesLenient_eq_ok_iff.mp read).2]

end Crossbar.LaneGroup

namespace Crossbar

open LaneGroup

variable {conflict : Conflict}

/-! ## Loaded circuits -/

theorem LaneGroup.toSwitchesLenient_ne (groups : List (Option LaneGroup)) :
    (toSwitchesLenient groups).value ≠ .error (.doubleAllocation conflict) := by
  by_cases few : groups.length ≤ crossLaneCount
  · rw [value_toSwitchesLenient few, fault_settlement few]
    cases (groups.flatMap listed).find? fun number => laneCount ≤ number.toNat <;> exact nofun
  · rw [(toSwitches_of_many (Nat.lt_of_not_le few)).2]
    exact nofun

theorem BlockTree.checkLength_ne {α : Type} (field : BlockField) (limit : Nat)
    (entries : List α) : checkLength field limit entries ≠ .error (.doubleAllocation conflict) := by
  unfold checkLength
  split <;> exact nofun

theorem BlockTree.toClusterLenient_ne (blocks : BlockTree) :
    blocks.toClusterLenient.value ≠ .error (.doubleAllocation conflict) := by
  have inputs : decodeInputs blocks.inputs ≠ .error (.doubleAllocation conflict) := by
    apply bind_ne_error
    · exact checkLength_ne _ _ _
    · intro _
      cases firstBeyond blocks.inputs <;> exact nofun
  have coefficients :
      decodeCoefficients blocks.coefficients ≠ .error (.doubleAllocation conflict) := by
    apply bind_ne_error
    · exact checkLength_ne _ _ _
    · exact fun _ => nofun
  have integrators : blocks.decodeIntegrators ≠ .error (.doubleAllocation conflict) := by
    apply bind_ne_error
    · exact checkLength_ne _ _ _
    · exact fun _ => nofun
  rw [value_toClusterLenient]
  refine bind_ne_error inputs fun _ => bind_ne_error coefficients fun _ => ?_
  apply bind_ne_error
  · exact LaneGroup.toSwitchesLenient_ne blocks.groups
  · exact fun _ => bind_ne_error integrators fun _ => nofun

/-- An error of a loaded circuit is a conflict of the request that it was read from. -/
theorem CircuitFile.exists_conflict_of_load {file : CircuitFile} {layout : Layout}
    {circuit : LoadedCircuit} {error : RoutingError}
    (loads : (file.load layout).value = .ok circuit) (member : error ∈ circuit.routing.errors) :
    ∃ request conflict, file = .ofRequest request ∧ Reports request.blocks.groups conflict := by
  cases file with
  | ofTable table =>
      cases loads
      cases member
  | ofCluster cluster =>
      cases loads
      cases member
  | ofRequest request =>
      have held := (value_load_eq_ok_iff.mp loads).1
      obtain ⟨cluster, conflicts, reads, _, errors⟩ := exists_cluster_of_contents held
      rw [errors] at member
      obtain ⟨conflict, isConflict, _⟩ := List.mem_map.mp member
      exact ⟨request, conflict, rfl,
        .inr ⟨_, conflicts, (BlockTree.value_toClusterLenient_eq_ok_iff.mp reads).2.2.1,
          isConflict⟩⟩

theorem CircuitFile.load_ne (file : CircuitFile) (layout : Layout) (conflict : Conflict) :
    (file.load layout).value ≠ .error (.codec (.doubleAllocation conflict)) := by
  cases file with
  | ofTable table =>
      intro failed
      cases failed
  | ofCluster cluster =>
      intro failed
      cases failed
  | ofRequest request =>
      have differs : request.blocks.toClusterLenient.value ≠ .error (.doubleAllocation conflict) :=
        request.blocks.toClusterLenient_ne
      simp only [load, contents, Traced.value_bind]
      cases reads : request.blocks.toClusterLenient.value with
      | error error =>
          intro failed
          rw [reads] at differs
          exact differs (by rw [RoutingFault.codec.inj (Except.error.inj failed)])
      | ok result =>
          intro failed
          cases failed

end Crossbar

namespace Crossbar.LaneGroup

variable {groups : List (Option LaneGroup)}

/-! ## The theorem -/

/-- Conflicts tell ambiguous groups of lanes apart unless a lane is repeated by its first
lister. -/
theorem tellsApart_iff (few : groups.length ≤ crossLaneCount)
    (inRange : ∀ number ∈ groups.flatMap listed, number.toNat < laneCount) :
    TellsApart groups ↔ ¬Stutters groups := by
  have noFault := (settles_settle (toNat_lt_of_listed few inRange)).noFault
  have grants := grants_settlement few noFault
  constructor
  · intro tellsApart stutters
    obtain ⟨conflict, member, same⟩ := stutters.exists_conflict grants
    have read := value_toSwitchesLenient few
    rw [settlement, noFault] at read
    exact tellsApart.reported conflict (.inr ⟨_, _, read, member⟩) same
  · intro smooth
    have different (conflict : Conflict) (reports : Reports groups conflict) :
        conflict.holder ≠ conflict.claimant ∧ IsAmbiguous groups := by
      obtain ⟨claim, again, rejects⟩ := exists_item grants.rejected reports.mem_conflicts
      have between : conflict.holder ≠ conflict.claimant :=
        fun same => smooth (rejects.stutters again same)
      exact ⟨between, rejects.isAmbiguous again between⟩
    refine ⟨⟨?_, ?_⟩, fun conflict reports => (different conflict reports).1, ?_,
      CircuitFile.load_ne⟩
    · rintro ⟨conflict, refused⟩
      exact (different conflict (.inl refused)).2
    · intro ambiguous
      have someConflict : (settlement groups).conflicts ≠ [] := by
        intro noConflict
        have rejected := grants.rejected
        rw [noConflict, List.forall₂_nil_left_iff] at rejected
        exact ambiguous.repeated_ne_nil rejected
      obtain ⟨conflict, rest, split⟩ := List.exists_cons_of_ne_nil someConflict
      refine ⟨conflict, toSwitches_eq_doubleAllocation_iff.mpr ⟨few, ?_⟩⟩
      rw [split, List.head?_cons]
    · intro file layout circuit loads error member _
      obtain ⟨request, conflict, rfl, reports⟩ := CircuitFile.exists_conflict_of_load loads member
      refine ⟨request, rfl, ?_⟩
      rintro rfl
      rw [exists_agrees_iff, not_not]
      exact (different conflict reports).2

/-- Two cross-lanes share lane 5, and only the second one repeats it. -/
def sharedLane : List (Option LaneGroup) :=
  [some (.several [3, 5]), none, some (.several [5, 5])]

/-- Both claims of the second cross-lane are rejected in favour of the first. -/
theorem tellsApart_sharedLane :
    sharedLane.length ≤ crossLaneCount ∧
      (∀ number ∈ sharedLane.flatMap listed, number.toNat < laneCount) ∧ ¬Stutters sharedLane ∧
      TellsApart sharedLane ∧ IsAmbiguous sharedLane := by
  have few : sharedLane.length ≤ crossLaneCount := by decide
  have inRange : ∀ number ∈ sharedLane.flatMap listed, number.toNat < laneCount := by
    simp [sharedLane, listed, lanes, laneCount]
  have smooth : ¬Stutters sharedLane := by
    decide +kernel
  have tellsApart := (tellsApart_iff few inRange).mpr smooth
  refine ⟨few, inRange, smooth, tellsApart, tellsApart.refused.mp ⟨⟨5, 0, 2⟩, ?_⟩⟩
  decide +kernel

def repeatedLane : List (Option LaneGroup) := [some (.several [0, 0])]

/-- A request that feeds lane 0 from one cross-lane, listed twice. -/
def repeatedLaneRequest : ConfigRequest :=
  ⟨["dev", "0"], ⟨none, none, [some 8], none, [1.0], repeatedLane⟩⟩

/-- The groups are refused and the request is loaded with an error, though a table
agrees with them. -/
theorem not_tellsApart_repeatedLane :
    repeatedLane.length ≤ crossLaneCount ∧
      (∀ number ∈ repeatedLane.flatMap listed, number.toNat < laneCount) ∧
      ¬IsAmbiguous repeatedLane ∧ (∃ table, Agrees repeatedLane table) ∧
      toSwitches repeatedLane = .error (.doubleAllocation ⟨0, 0, 0⟩) ∧
      ((CircuitFile.ofRequest repeatedLaneRequest).load .standard).value.toOption.map
          (fun circuit => circuit.routing.errors.map RoutingError.code) =
        some [⟨.codec, 201⟩] ∧
      ¬TellsApart repeatedLane := by
  have unambiguous : ¬IsAmbiguous repeatedLane := by
    decide +kernel
  have refused : toSwitches repeatedLane = .error (.doubleAllocation ⟨0, 0, 0⟩) := by
    decide +kernel
  have inRange : ∀ number ∈ repeatedLane.flatMap listed, number.toNat < laneCount := by
    simp [repeatedLane, listed, lanes, laneCount]
  refine ⟨by decide, inRange, unambiguous, exists_agrees_iff.mpr unambiguous, refused, ?_, ?_⟩
  · decide +kernel
  · intro tellsApart
    exact unambiguous (tellsApart.refused.mp ⟨_, refused⟩)

end Crossbar.LaneGroup
