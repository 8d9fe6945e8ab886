import Crossbar.Proofs.LanePrecedence
import Crossbar.Proofs.Payload

/-!
# Representable payloads

Reading a payload leniently succeeds exactly when its blocks fit the hardware: no list
is longer than what it describes and no number beyond it.  What is read are the entries
of the lists, with everything behind their ends unused, so a list may as well be filled
up to the size of the hardware.  Strict reading is lenient reading that fails with the
first conflict.
-/

namespace Crossbar

/-! ## Entries of lists -/

section Entries

variable {α β : Type}

theorem read_append_replicate (read : Option α → β) {filler : α}
    (neutral : read (some filler) = read none) (entries : List α) (extra place : Nat) :
    read (entries ++ List.replicate extra filler)[place]? = read entries[place]? := by
  by_cases inside : place < entries.length
  · rw [List.getElem?_append_left inside]
  · have missing : entries[place]? = none := List.getElem?_eq_none (Nat.not_lt.mp inside)
    rw [List.getElem?_append_right (Nat.not_lt.mp inside), List.getElem?_replicate, missing]
    by_cases added : place - entries.length < extra
    · rw [if_pos added, neutral]
    · rw [if_neg added]

theorem read_filled {read : List α → β} {filler : α} {entries : List α} {extra limit : Nat}
    (grown : entries.length + extra ≤ limit →
      read (entries ++ List.replicate extra filler) = read entries)
    (fits : 0 < extra → entries.length + extra ≤ limit) :
    read (entries ++ List.replicate extra filler) = read entries := by
  rcases Nat.eq_zero_or_pos extra with rfl | positive
  · rw [List.replicate_zero, List.append_nil]
  · exact grown (fits positive)

end Entries

namespace BlockTree

variable {blocks : BlockTree} {entries : List (Option UInt32)} {coefficients : List Float}
  {cluster : Cluster} {conflict : Conflict} {conflicts : List Conflict} {extra : Nat}

/-- The blocks fit the hardware. -/
structure Representable (blocks : BlockTree) : Prop where
  inputs : blocks.inputs.length ≤ laneCount
  crossLanes : ∀ number, some number ∈ blocks.inputs → number.toNat < crossLaneCount
  coefficients : blocks.coefficients.length ≤ laneCount
  groups : blocks.groups.length ≤ crossLaneCount
  lanes : ∀ number ∈ blocks.groups.flatMap LaneGroup.listed, number.toNat < laneCount
  states : ∀ states, blocks.firstStates? = some states → states.length ≤ integratorCount

/-- A cluster holds what the blocks list, and whatever they do not list is unused. -/
structure Holds (blocks : BlockTree) (cluster : Cluster) (conflicts : List Conflict) :
    Prop where
  inputs : ∀ lane : Lane,
    (cluster.matrix.inputs.get lane).map (fun crossLane => crossLane.val.toUInt32) =
      blocks.inputs[lane.val]?.join
  coefficients : ∀ lane : Lane,
    cluster.matrix.coefficients.get lane = blocks.coefficients[lane.val]?.getD 0.0
  outputs : LaneGroup.Grants blocks.groups cluster.matrix.outputs conflicts
  switches : cluster.switches = blocks.switches.getD .off
  integrators : ∀ number : Fin 8,
    cluster.integrators.get number =
      (blocks.firstStates?.bind fun states => states[number.val]?).getD ⟨0.0, some 1000⟩

/-- The blocks with unused entries behind those of the lanes and cross-lanes. -/
def padded (blocks : BlockTree) (inputs coefficients groups : Nat) : BlockTree :=
  { blocks with
    inputs := blocks.inputs ++ List.replicate inputs none
    coefficients := blocks.coefficients ++ List.replicate coefficients 0.0
    groups := blocks.groups ++ List.replicate groups none }

/-! ## Lanes -/

theorem decodeInputs_append_replicate (fits : entries.length + extra ≤ laneCount) :
    decodeInputs (entries ++ List.replicate extra none) = decodeInputs entries := by
  have short : (entries ++ List.replicate extra none).length ≤ laneCount := by
    rwa [List.length_append, List.length_replicate]
  have sameBeyond : firstBeyond (entries ++ List.replicate extra none) = firstBeyond entries := by
    rw [firstBeyond, List.findSome?_append, List.findSome?_replicate, Option.bind_none, ite_self,
      Option.or_none, firstBeyond]
  have sameEntry (place : Nat) :
      (entries ++ List.replicate extra none)[place]?.join = entries[place]?.join :=
    read_append_replicate Option.join rfl entries extra place
  rw [decodeInputs, decodeInputs, checkLength_of_le short, checkLength_of_le (by omega),
    sameBeyond]
  simp only [sameEntry]

theorem decodeCoefficients_append_replicate (fits : coefficients.length + extra ≤ laneCount) :
    decodeCoefficients (coefficients ++ List.replicate extra 0.0) =
      decodeCoefficients coefficients := by
  have short : (coefficients ++ List.replicate extra 0.0).length ≤ laneCount := by
    rwa [List.length_append, List.length_replicate]
  have sameEntry (place : Nat) : (coefficients ++ List.replicate extra 0.0)[place]?.getD 0.0 =
      coefficients[place]?.getD 0.0 :=
    read_append_replicate (·.getD 0.0) rfl coefficients extra place
  rw [decodeCoefficients, decodeCoefficients, checkLength_of_le short,
    checkLength_of_le (by omega)]
  simp only [sameEntry]

end BlockTree

/-! ## Groups of lanes -/

namespace LaneGroup

variable {groups : List (Option LaneGroup)} {extra : Nat}

theorem exists_toSwitchesLenient_eq_ok_iff :
    (∃ result, (toSwitchesLenient groups).value = .ok result) ↔
      groups.length ≤ crossLaneCount ∧
        ∀ number ∈ groups.flatMap listed, number.toNat < laneCount := by
  by_cases few : groups.length ≤ crossLaneCount
  · rw [value_toSwitchesLenient few, fault_settlement few]
    cases beyond : (groups.flatMap listed).find? fun number => laneCount ≤ number.toNat with
    | none =>
        have inside := List.find?_eq_none.mp beyond
        refine iff_of_true ⟨_, rfl⟩ ⟨few, fun number member => ?_⟩
        simpa using inside number member
    | some number =>
        have outside : laneCount ≤ number.toNat := by
          simpa using List.find?_some beyond
        refine iff_of_false (fun ⟨_, read⟩ => nomatch read) fun ⟨_, inside⟩ => ?_
        exact absurd (inside number (List.mem_of_find?_eq_some beyond)) (Nat.not_lt.mpr outside)
  · rw [(toSwitches_of_many (Nat.lt_of_not_le few)).2]
    exact iff_of_false (fun ⟨_, read⟩ => nomatch read) fun read => few read.1

theorem claims_append_replicate (groups : List (Option LaneGroup)) (extra : Nat) :
    claims (groups ++ List.replicate extra none) = claims groups := by
  rw [claims_eq, claims_eq, List.zipIdx_append, List.flatMap_append, List.append_right_eq_self,
    List.flatMap_eq_nil_iff]
  intro entry member
  rw [List.eq_of_mem_replicate (List.fst_mem_of_mem_zipIdx member)]
  cases CrossLane.ofNat? entry.2 <;> rfl

theorem toSwitchesLenient_append_replicate (fits : groups.length + extra ≤ crossLaneCount) :
    toSwitchesLenient (groups ++ List.replicate extra none) = toSwitchesLenient groups := by
  have few : (groups ++ List.replicate extra none).length ≤ crossLaneCount := by
    rwa [List.length_append, List.length_replicate]
  rw [toSwitchesLenient, toSwitchesLenient, checkCount_of_few few, checkCount_of_few (by omega),
    settlement, settlement, claims_append_replicate]

end LaneGroup

/-! ## The whole payload -/

namespace BlockTree

variable {blocks : BlockTree} {cluster : Cluster} {conflicts : List Conflict}

theorem representable_of_toClusterLenient
    (read : blocks.toClusterLenient.value = .ok (cluster, conflicts)) : blocks.Representable := by
  obtain ⟨inputs, coefficients, outputs, integrators, _⟩ :=
    value_toClusterLenient_eq_ok_iff.mp read
  obtain ⟨⟨fewInputs, crossLanes⟩, _⟩ := decodeInputs_eq_ok_iff.mp inputs
  obtain ⟨fewGroups, lanes⟩ := LaneGroup.exists_toSwitchesLenient_eq_ok_iff.mp ⟨_, outputs⟩
  exact ⟨fewInputs, crossLanes, (decodeCoefficients_eq_ok_iff.mp coefficients).1, fewGroups, lanes,
    (decodeIntegrators_eq_ok_iff.mp integrators).1⟩

theorem Representable.exists_toClusterLenient (fits : blocks.Representable) :
    ∃ read, blocks.toClusterLenient.value = .ok read := by
  have inputs : ∃ inputs, decodeInputs blocks.inputs = .ok inputs := by
    rw [decodeInputs, checkLength_of_le fits.inputs,
      firstBeyond_eq_none_iff.mpr fits.crossLanes]
    exact ⟨_, rfl⟩
  have coefficients := decodeCoefficients_eq_ok_iff.mpr ⟨fits.coefficients, ofFn_eq_iff.mp rfl⟩
  have integrators := decodeIntegrators_eq_ok_iff.mpr ⟨fits.states, ofFn_eq_iff.mp rfl⟩
  obtain ⟨inputs, readInputs⟩ := inputs
  obtain ⟨⟨outputs, conflicts⟩, readOutputs⟩ :=
    LaneGroup.exists_toSwitchesLenient_eq_ok_iff.mpr ⟨fits.groups, fits.lanes⟩
  exact ⟨⟨⟨⟨inputs, _, outputs⟩, _, _⟩, conflicts⟩, value_toClusterLenient_eq_ok_iff.mpr
    ⟨readInputs, coefficients, readOutputs, integrators, rfl⟩⟩

theorem holds_of_toClusterLenient
    (read : blocks.toClusterLenient.value = .ok (cluster, conflicts)) :
    blocks.Holds cluster conflicts := by
  obtain ⟨inputs, coefficients, outputs, integrators, switches⟩ :=
    value_toClusterLenient_eq_ok_iff.mp read
  exact ⟨(decodeInputs_eq_ok_iff.mp inputs).2, (decodeCoefficients_eq_ok_iff.mp coefficients).2,
    LaneGroup.grants_of_toSwitchesLenient outputs, switches,
    (decodeIntegrators_eq_ok_iff.mp integrators).2⟩

theorem toClusterLenient_padded {inputs coefficients groups : Nat}
    (inputsFit : 0 < inputs → blocks.inputs.length + inputs ≤ laneCount)
    (coefficientsFit : 0 < coefficients → blocks.coefficients.length + coefficients ≤ laneCount)
    (groupsFit : 0 < groups → blocks.groups.length + groups ≤ crossLaneCount) :
    (blocks.padded inputs coefficients groups).toClusterLenient = blocks.toClusterLenient := by
  have sameInputs := read_filled decodeInputs_append_replicate inputsFit
  have sameCoefficients := read_filled decodeCoefficients_append_replicate coefficientsFit
  have sameGroups := read_filled LaneGroup.toSwitchesLenient_append_replicate groupsFit
  have sameStates : (blocks.padded inputs coefficients groups).decodeIntegrators =
      blocks.decodeIntegrators :=
    rfl
  unfold toClusterLenient
  rw [sameStates]
  dsimp only [padded]
  rw [sameInputs, sameCoefficients, sameGroups]

/-- What reading the blocks of a payload gives. -/
structure ReadsRepresentable (blocks : BlockTree) : Prop where
  accepted : (∃ read, blocks.toClusterLenient.value = .ok read) ↔ blocks.Representable
  holds : ∀ cluster conflicts,
    blocks.toClusterLenient.value = .ok (cluster, conflicts) → blocks.Holds cluster conflicts
  padded : ∀ inputs coefficients groups,
    (0 < inputs → blocks.inputs.length + inputs ≤ laneCount) →
    (0 < coefficients → blocks.coefficients.length + coefficients ≤ laneCount) →
    (0 < groups → blocks.groups.length + groups ≤ crossLaneCount) →
      (blocks.padded inputs coefficients groups).toClusterLenient = blocks.toClusterLenient ∧
        (blocks.padded inputs coefficients groups).toCluster = blocks.toCluster
  strict : ∀ cluster, blocks.toCluster.value = .ok cluster ↔
    blocks.toClusterLenient.value = .ok (cluster, [])
  refused : ∀ cluster conflict rest,
    blocks.toClusterLenient.value = .ok (cluster, conflict :: rest) →
      blocks.toCluster.value = .error (.doubleAllocation conflict)
  failed : ∀ error, blocks.toClusterLenient.value = .error error →
    blocks.toCluster.value = .error error

/-- Payloads are accepted exactly when they are representable, and they are read as
they are written. -/
theorem readsRepresentable (blocks : BlockTree) : ReadsRepresentable blocks where
  accepted := ⟨fun ⟨_, read⟩ => representable_of_toClusterLenient read,
    Representable.exists_toClusterLenient⟩
  holds := fun _ _ => holds_of_toClusterLenient
  padded := by
    intro inputs coefficients groups inputsFit coefficientsFit groupsFit
    have same := toClusterLenient_padded inputsFit coefficientsFit groupsFit
    exact ⟨same, by rw [toCluster, toCluster, same]⟩
  strict := by
    intro cluster
    unfold toCluster
    dsimp only
    rcases blocks.toClusterLenient.value with error | ⟨read, _ | ⟨conflict, rest⟩⟩ <;> simp
  refused := by
    intro cluster conflict rest read
    unfold toCluster
    dsimp only
    rw [read]
  failed := by
    intro error failed
    unfold toCluster
    dsimp only
    rw [failed]

/-- The states of the second slot count only if the first slot has none. -/
example :
    (BlockTree.mk (some []) (some (List.replicate 9 .reset)) [] none [] []).toCluster.value =
        .ok .empty ∧
      (BlockTree.mk none (some (List.replicate 9 .reset)) [] none [] []).toCluster.value =
        .error (.tooManyEntries .elementStates 8 9) :=
  ⟨rfl, rfl⟩

end BlockTree

end Crossbar
