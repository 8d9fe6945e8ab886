import Crossbar.Message
import Crossbar.Proofs.LaneGroup
import Crossbar.Proofs.Trace

/-!
# Payloads of clusters

Reading the payload that configures a cluster gives the cluster back, without a
conflict, and so does reading the payload of a request that was addressed with it.
The states of the integrators come back if the layout has a slot with integrators,
and are reset otherwise.  Each block is read on its own: it has to fit the hardware,
and then its entries are taken as they stand.
-/

namespace Crossbar

theorem ofFn_eq_iff {α : Type} {size : Nat} {entry : Fin size → α} {table : Vector α size} :
    Vector.ofFn entry = table ↔ ∀ index, table.get index = entry index := by
  constructor
  · rintro rfl index
    exact Vector.getElem_ofFn index.isLt
  · intro same
    refine Vector.ext fun place inside => ?_
    rw [Vector.getElem_ofFn]
    exact (same ⟨place, inside⟩).symm

namespace BlockTree

variable {layout : Layout} {cluster : Cluster} {blocks : BlockTree} {conflicts : List Conflict}
  {entries : List (Option UInt32)} {coefficients : List Float}

/-! ## The parts of a payload -/

theorem checkLength_of_le {α : Type} {field : BlockField} {limit : Nat} {entries : List α}
    (fits : entries.length ≤ limit) : checkLength field limit entries = .ok () := by
  rw [checkLength, if_neg (Nat.not_lt.mpr fits)]

theorem checkLength_bind_eq_ok_iff {α β : Type} {field : BlockField} {limit : Nat}
    {entries : List α} {next : Except CodecError β} {result : β} :
    (checkLength field limit entries >>= fun _ => next) = .ok result ↔
      entries.length ≤ limit ∧ next = .ok result := by
  by_cases fits : entries.length ≤ limit
  · rw [checkLength_of_le fits]
    exact ⟨fun read => ⟨fits, read⟩, fun read => read.2⟩
  · rw [checkLength, if_pos (Nat.lt_of_not_le fits)]
    constructor
    · intro read
      cases read
    · intro read
      exact absurd read.1 fits

theorem firstBeyond_eq_none_iff :
    firstBeyond entries = none ↔
      ∀ number, some number ∈ entries → number.toNat < crossLaneCount := by
  rw [firstBeyond, List.findSome?_eq_none_iff]
  constructor
  · intro noneBeyond number member
    have inside := noneBeyond _ member
    rw [Option.bind_some, ite_eq_right_iff] at inside
    by_contra outside
    exact absurd (inside (Nat.not_lt.mp outside)) (Option.some_ne_none _)
  · intro inside entry member
    cases entry with
    | none =>
        rfl
    | some number =>
        exact if_neg (Nat.not_le.mpr (inside number member))

theorem bind_ofNat?_eq_iff {entry : Option UInt32} {input : Option CrossLane}
    (inside : ∀ number, entry = some number → number.toNat < crossLaneCount) :
    (entry.bind fun number => CrossLane.ofNat? number.toNat) = input ↔
      input.map (fun crossLane => crossLane.val.toUInt32) = entry := by
  cases entry with
  | none =>
      rw [Option.bind_none, Option.map_eq_none_iff]
      exact eq_comm
  | some number =>
      have small : number.toNat < 16 := inside number rfl
      have found : CrossLane.ofNat? number.toNat = some ⟨number.toNat, small⟩ :=
        CrossLane.ofNat?_eq_some_iff.mpr rfl
      rw [Option.bind_some, found, Option.map_eq_some_iff]
      constructor
      · rintro rfl
        exact ⟨_, rfl, UInt32.ofNat_toNat⟩
      · rintro ⟨crossLane, rfl, rfl⟩
        exact congrArg some (Fin.ext (CrossLane.toNat_toUInt32 crossLane))

theorem decodeInputs_eq_ok_iff {inputs : Switches} :
    decodeInputs entries = .ok inputs ↔
      (entries.length ≤ laneCount ∧
        ∀ number, some number ∈ entries → number.toNat < crossLaneCount) ∧
      ∀ lane : Lane, (inputs.get lane).map (fun crossLane => crossLane.val.toUInt32) =
        entries[lane.val]?.join := by
  rw [decodeInputs, checkLength_bind_eq_ok_iff, and_assoc, ← firstBeyond_eq_none_iff]
  refine and_congr_right fun _ => ?_
  cases beyond : firstBeyond entries with
  | some number =>
      constructor
      · intro read
        cases read
      · rintro ⟨⟨⟩, _⟩
  | none =>
      have inside := firstBeyond_eq_none_iff.mp beyond
      have entryInside (lane : Lane) : ∀ number, entries[lane.val]?.join = some number →
          number.toNat < crossLaneCount := by
        intro number isEntry
        exact inside number (List.mem_of_getElem? (Option.join_eq_some_iff.mp isEntry))
      rw [pure_eq_ok_iff, ofFn_eq_iff, eq_self, true_and]
      exact forall_congr' fun lane => eq_comm.trans (bind_ofNat?_eq_iff (entryInside lane))

theorem decodeCoefficients_eq_ok_iff {decoded : Vector Float 32} :
    decodeCoefficients coefficients = .ok decoded ↔ coefficients.length ≤ laneCount ∧
      ∀ lane : Lane, decoded.get lane = coefficients[lane.val]?.getD 0.0 := by
  rw [decodeCoefficients, checkLength_bind_eq_ok_iff, pure_eq_ok_iff, ofFn_eq_iff]

/-- The element states that count: those of the first slot that lists any. -/
def firstStates? (blocks : BlockTree) : Option (List IntegratorState) :=
  blocks.slot0.or blocks.slot1

theorem decodeIntegrators_eq_ok_iff {integrators : IntegratorBank} :
    blocks.decodeIntegrators = .ok integrators ↔
      (∀ states, blocks.firstStates? = some states → states.length ≤ integratorCount) ∧
      ∀ number : Fin 8, integrators.get number =
        (blocks.firstStates?.bind fun states => states[number.val]?).getD ⟨0.0, some 1000⟩ := by
  have chosen : (blocks.slot0 <|> blocks.slot1) = blocks.firstStates? := by
    rw [Option.orElse_eq_orElse, Option.orElse_eq_or, firstStates?]
  unfold decodeIntegrators
  dsimp only
  rw [chosen, checkLength_bind_eq_ok_iff, pure_eq_ok_iff, ofFn_eq_iff]
  cases blocks.firstStates? with
  | none =>
      exact and_congr (iff_of_true (Nat.zero_le _) nofun) Iff.rfl
  | some states =>
      refine and_congr ⟨?_, fun fits => fits states rfl⟩ Iff.rfl
      rintro fits _ ⟨⟩
      exact fits

/-- A payload is read block by block. -/
theorem value_toClusterLenient (blocks : BlockTree) :
    blocks.toClusterLenient.value = do
      let inputs ← decodeInputs blocks.inputs
      let coefficients ← decodeCoefficients blocks.coefficients
      let (outputs, conflicts) ← (LaneGroup.toSwitchesLenient blocks.groups).value
      let integrators ← blocks.decodeIntegrators
      return (⟨⟨inputs, coefficients, outputs⟩, integrators, blocks.switches.getD .off⟩,
        conflicts) := by
  unfold toClusterLenient
  cases decodeInputs blocks.inputs with
  | error => rfl
  | ok => cases decodeCoefficients blocks.coefficients <;> rfl

theorem value_toClusterLenient_eq_ok_iff :
    blocks.toClusterLenient.value = .ok (cluster, conflicts) ↔
      decodeInputs blocks.inputs = .ok cluster.matrix.inputs ∧
      decodeCoefficients blocks.coefficients = .ok cluster.matrix.coefficients ∧
      (LaneGroup.toSwitchesLenient blocks.groups).value =
        .ok (cluster.matrix.outputs, conflicts) ∧
      blocks.decodeIntegrators = .ok cluster.integrators ∧
      cluster.switches = blocks.switches.getD .off := by
  rw [value_toClusterLenient]
  simp only [bind_eq_ok_iff, pure_eq_ok_iff, Prod.exists, Prod.mk.injEq]
  constructor
  · rintro ⟨inputs, readInputs, coefficients, readCoefficients, outputs, dropped, readOutputs,
      integrators, readIntegrators, rfl, rfl⟩
    exact ⟨readInputs, readCoefficients, readOutputs, readIntegrators, rfl⟩
  · rintro ⟨readInputs, readCoefficients, readOutputs, readIntegrators, switches⟩
    refine ⟨_, readInputs, _, readCoefficients, _, _, readOutputs, _, readIntegrators, ?_, rfl⟩
    rw [← switches]

/-! ## The parts of a cluster -/

/-- A list of cross-lanes as numbers. -/
def numbers (inputs : Switches) : List (Option UInt32) :=
  inputs.toList.map fun input => input.map fun crossLane => crossLane.val.toUInt32

theorem decodeInputs_numbers (inputs : Switches) : decodeInputs (numbers inputs) = .ok inputs := by
  rw [decodeInputs_eq_ok_iff]
  refine ⟨⟨?_, ?_⟩, fun lane => ?_⟩
  · simp [numbers, laneCount]
  · intro number member
    obtain ⟨input, _, same⟩ := List.mem_map.mp member
    obtain ⟨crossLane, rfl, rfl⟩ := Option.map_eq_some_iff.mp same
    rw [CrossLane.toNat_toUInt32]
    exact crossLane.isLt
  · rw [numbers, List.getElem?_map, Vector.getElem?_toList, Vector.getElem?_eq_getElem lane.isLt]
    rfl

theorem decodeCoefficients_toList (coefficients : Vector Float 32) :
    decodeCoefficients coefficients.toList = .ok coefficients := by
  rw [decodeCoefficients_eq_ok_iff]
  refine ⟨by simp [laneCount], fun lane => ?_⟩
  rw [Vector.getElem?_toList, Vector.getElem?_eq_getElem lane.isLt]
  rfl

/-- The integrator states that a payload keeps. -/
def keptIntegrators (layout : Layout) (integrators : IntegratorBank) : IntegratorBank :=
  if layout.integratorSlot?.isSome then integrators else .reset

theorem firstStates?_ofCluster (layout : Layout) (cluster : Cluster) :
    (ofCluster layout cluster).firstStates? =
      if layout.integratorSlot?.isSome then some cluster.integrators.toList else none := by
  obtain ⟨slot0, slot1⟩ := layout
  cases slot0 <;> cases slot1 <;> rfl

theorem decodeIntegrators_ofCluster (layout : Layout) (cluster : Cluster) :
    decodeIntegrators (ofCluster layout cluster) =
      .ok (keptIntegrators layout cluster.integrators) := by
  rw [decodeIntegrators_eq_ok_iff, firstStates?_ofCluster, keptIntegrators]
  by_cases isSlotted : layout.integratorSlot?.isSome = true
  · rw [if_pos isSlotted, if_pos isSlotted]
    refine ⟨?_, fun number => ?_⟩
    · rintro _ ⟨⟩
      simp [integratorCount]
    · rw [Option.bind_some, Vector.getElem?_toList, Vector.getElem?_eq_getElem number.isLt]
      rfl
  · rw [if_neg isSlotted, if_neg isSlotted]
    refine ⟨nofun, fun number => ?_⟩
    exact Vector.getElem_replicate number.isLt

/-! ## The whole payload -/

/-- The cluster that is read back. -/
def kept (layout : Layout) (cluster : Cluster) : Cluster :=
  { cluster with integrators := keptIntegrators layout cluster.integrators }

theorem value_toClusterLenient_ofCluster (layout : Layout) (cluster : Cluster) :
    (ofCluster layout cluster).toClusterLenient.value = .ok (kept layout cluster, []) := by
  rw [value_toClusterLenient_eq_ok_iff]
  refine ⟨decodeInputs_numbers cluster.matrix.inputs,
    decodeCoefficients_toList cluster.matrix.coefficients, ?_,
    decodeIntegrators_ofCluster layout cluster, rfl⟩
  have outputs : LaneGroup.toSwitchesLenient (ofCluster layout cluster).groups =
      .of (.ok (cluster.matrix.outputs, [])) :=
    (LaneGroup.toSwitches_ofSwitches cluster.matrix.outputs).2
  rw [outputs]
  rfl

theorem value_toCluster_ofCluster (layout : Layout) (cluster : Cluster) :
    (ofCluster layout cluster).toCluster.value = .ok (kept layout cluster) := by
  rw [toCluster]
  dsimp only
  rw [value_toClusterLenient_ofCluster]

theorem isSome_integratorSlot? (layout : Layout) :
    layout.integratorSlot?.isSome = true ↔ .integrators ∈ layout.slots := by
  obtain ⟨slot0, slot1⟩ := layout
  cases slot0 <;> cases slot1 <;> decide

/-- A slot of integrators keeps their states; without one they are reset. -/
theorem kept_eq (layout : Layout) (cluster : Cluster) :
    kept layout cluster = { cluster with
      integrators := if .integrators ∈ layout.slots then cluster.integrators else .reset } := by
  simp only [kept, keptIntegrators, isSome_integratorSlot?]

end BlockTree

namespace Payload

/-- A payload reads as a cluster, strictly and leniently, without a conflict. -/
def ReadsAs (payload : Payload) (cluster : Cluster) : Prop :=
  payload.blocks.toCluster.value = .ok cluster ∧
    payload.blocks.toClusterLenient.value = .ok (cluster, [])

theorem readsAs_kept (layout : Layout) (entity : Json) (cluster : Cluster) :
    (ofCluster layout entity cluster).ReadsAs (BlockTree.kept layout cluster) :=
  ⟨BlockTree.value_toCluster_ofCluster layout cluster,
    BlockTree.value_toClusterLenient_ofCluster layout cluster⟩

theorem readsAs_addressed {payload : Payload} {cluster : Cluster} (device place : String)
    (reads : payload.ReadsAs cluster) :
    (ConfigRequest.addressed device place payload).payload.ReadsAs cluster :=
  reads

/-- The payload of a cluster reads as the cluster, also when it comes out of a
request.  Only the integrators need a slot to be kept. -/
theorem readsAs_ofCluster (layout : Layout) (entity : Json) (device place : String)
    (cluster : Cluster) :
    let payload := ofCluster layout entity cluster
    let read := { cluster with
      integrators := if .integrators ∈ layout.slots then cluster.integrators else .reset }
    payload.ReadsAs read ∧ (ConfigRequest.addressed device place payload).payload.ReadsAs read := by
  have reads := readsAs_kept layout entity cluster
  rw [BlockTree.kept_eq] at reads
  exact ⟨reads, readsAs_addressed device place reads⟩

end Payload

end Crossbar
