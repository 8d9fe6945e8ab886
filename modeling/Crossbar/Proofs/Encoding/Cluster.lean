import Crossbar.Encoding.Cluster
import Crossbar.Proofs.Index
import Crossbar.Proofs.Json.Decode

/-!
# Clusters read back

Every part of a cluster is read back from its encoding: the routes of a table, the
integrators, the switches and the matrix.  An encoding can be written as a text as
far as the doubles of the part can.
-/

namespace Crossbar

variable {readable : Float → Prop} {room : Nat}

/-! ## Numbers -/

theorem Json.decodeNat_ofNat {bound number : Nat} (small : number < bound) :
    decodeNat bound (.ofNat number) = .ok number := by
  rw [Json.ofNat, decodeNat, if_pos ⟨Int.natCast_nonneg number, Int.ofNat_lt.mpr small⟩,
    Int.toNat_natCast]

@[simp]
theorem Json.decodeUInt32_ofUInt32 (word : UInt32) :
    decodeUInt32 (.ofUInt32 word) = .ok word := by
  rw [decodeUInt32, Json.ofUInt32, decodeNat_ofNat word.toNat_lt]
  exact congrArg Except.ok word.ofNat_toNat

@[simp]
theorem Json.ofUInt32_ne_null (word : UInt32) : Json.ofUInt32 word ≠ .null := by
  rintro ⟨⟩

@[simp]
theorem Json.writable_ofUInt32 (word : UInt32) : Writable readable room (.ofUInt32 word) :=
  Json.writable_ofNat (Nat.lt_trans word.toNat_lt (by decide))

/-! ## Lanes and cross-lanes -/

theorem Json.decodeIndex_ofNat {α : Type} {checked : Nat → Except IndexError α} {index : Nat}
    {x : α} (small : index < 256) (inRange : checked index = .ok x) :
    decodeIndex checked (.ofNat index) = .ok x := by
  rw [decodeIndex, decodeNat_ofNat small]
  change (checked index).mapError _ = _
  rw [inRange]
  rfl

@[simp]
theorem Lane.decode_encode (lane : Lane) : Lane.decode (Lane.encode lane) = .ok lane := by
  apply Json.decodeIndex_ofNat (by omega)
  rw [Lane.checked, Lane.ofNat?_eq_some_iff.mpr rfl]

@[simp]
theorem CrossLane.decode_encode (crossLane : CrossLane) :
    CrossLane.decode (CrossLane.encode crossLane) = .ok crossLane := by
  apply Json.decodeIndex_ofNat (by omega)
  rw [CrossLane.checked, CrossLane.ofNat?_eq_some_iff.mpr rfl]

@[simp]
theorem Lane.writable_encode (lane : Lane) : Json.Writable readable room (Lane.encode lane) :=
  Json.writable_ofNat (Nat.lt_trans lane.isLt (by decide))

@[simp]
theorem CrossLane.writable_encode (crossLane : CrossLane) :
    Json.Writable readable room (CrossLane.encode crossLane) :=
  Json.writable_ofNat (Nat.lt_trans crossLane.isLt (by decide))

@[simp]
theorem CrossLane.encode_ne_null (crossLane : CrossLane) : CrossLane.encode crossLane ≠ .null := by
  rintro ⟨⟩

/-! ## Routes -/

@[simp]
theorem Route.writable_encode_iff {route : Route} :
    Json.Writable readable (room + 1) route.encode ↔ readable route.coefficient := by
  simp [Route.encode]

@[simp]
theorem Route.decode_encode (route : Route) : Route.decode route.encode = .ok route := by
  apply Json.decodeRecord_eq_ok 1 (Route.writable_encode_iff.mpr trivial)
  simp

/-! ## Switches -/

@[simp]
theorem AuxSwitches.writable_encode (switches : AuxSwitches) :
    Json.Writable readable (room + 1) switches.encode := by
  simp [AuxSwitches.encode]

@[simp]
theorem AuxSwitches.encode_ne_null (switches : AuxSwitches) : switches.encode ≠ .null := by
  rintro ⟨⟩

@[simp]
theorem AuxSwitches.decode_encode (switches : AuxSwitches) :
    AuxSwitches.decode switches.encode = .ok switches := by
  have listed : switches.toList = (switches.inputs.push switches.reference).toList := by
    rw [AuxSwitches.toList, Vector.toList_push]
  rw [AuxSwitches.decode, AuxSwitches.encode, listed,
    Json.decodeVector_encode fun signal _ => Json.decodeBool_bool signal]
  refine congrArg Except.ok ?_
  rw [AuxSwitches.ofVector]
  simp

/-! ## Integrator states -/

@[simp]
theorem IntegratorState.writable_encode_iff {state : IntegratorState} :
    Json.Writable readable (room + 1) state.encode ↔ readable state.initial := by
  simp [IntegratorState.encode]

@[simp]
theorem IntegratorState.decode_encode (state : IntegratorState) :
    IntegratorState.decode state.encode = .ok state := by
  apply Json.decodeRecord_eq_ok 1 (IntegratorState.writable_encode_iff.mpr trivial)
  simp

@[simp]
theorem IntegratorBank.writable_encode_iff {bank : IntegratorBank} :
    Json.Writable readable (room + 2) bank.encode ↔ ∀ state ∈ bank, readable state.initial := by
  simp [IntegratorBank.encode]

@[simp]
theorem IntegratorBank.encode_ne_null (bank : IntegratorBank) : bank.encode ≠ .null := by
  rintro ⟨⟩

@[simp]
theorem IntegratorBank.decode_encode (bank : IntegratorBank) :
    IntegratorBank.decode bank.encode = .ok bank :=
  Json.decodeVector_encode fun state _ => IntegratorState.decode_encode state

/-! ## The matrix -/

theorem Json.decodePadded_encode {α β : Type} {decode : Json → Except Fault α} {unused : α}
    {encode : β → Json} (entries : Vector β 32) (meaning : β → Option α)
    (reads : ∀ entry ∈ entries, decodeOption decode (encode entry) = .ok (meaning entry)) :
    decodePadded decode unused (.array (entries.toList.map encode)) =
      .ok (entries.map fun entry => (meaning entry).getD unused) := by
  have isRead := decodeList_map meaning fun entry member =>
    reads entry (Vector.mem_toList_iff.mp member)
  have notTooMany : ¬laneCount < (entries.toList.map meaning).length := by
    rw [List.length_map, Vector.length_toList]
    exact Nat.lt_irrefl 32
  unfold decodePadded
  rw [isRead]
  change ite _ _ _ = _
  rw [if_neg notTooMany]
  refine congrArg Except.ok (Vector.ext fun lane inRange => ?_)
  simp

theorem Switches.decode_encode (switches : Switches) :
    Json.decodePadded (fun value => (CrossLane.decode value).map some) none
      (.array (switches.toList.map (Json.encodeOption CrossLane.encode))) = .ok switches := by
  rw [Json.decodePadded_encode switches fun entry => entry.map some]
  · refine congrArg Except.ok (Vector.ext fun lane inRange => ?_)
    rw [Vector.getElem_map]
    cases switches[lane] <;> rfl
  · intro entry _
    cases entry with
    | none => rfl
    | some crossLane =>
        rw [Json.encodeOption, Json.decodeOption_of_ne_null crossLane.encode_ne_null,
          CrossLane.decode_encode]
        rfl

theorem Json.decodePadded_float (coefficients : Vector Float 32) :
    decodePadded decodeFloat 0.0 (.array (coefficients.toList.map .float)) = .ok coefficients := by
  rw [decodePadded_encode coefficients some fun _ _ => rfl]
  refine congrArg Except.ok (Vector.ext fun lane inRange => ?_)
  rw [Vector.getElem_map, Option.getD_some]

/-- The matrix is read from its members, whatever members stand beside them. -/
theorem Matrix.decode_members (matrix : Matrix) {rest : List (String × Json)}
    (writable : Json.Writable (fun _ => True) room (.object (matrix.members ++ rest)))
    (others : ∀ name ∈ ["u", "c", "i"], Json.written name rest = []) :
    Matrix.decode (.object (matrix.members ++ rest)) = .ok matrix := by
  unfold Matrix.decode
  apply Json.decodeRecord_eq_ok room writable
  simp [Matrix.members, others, Switches.decode_encode, Json.decodePadded_float]

/-! ## The cluster -/

/-- The doubles of a cluster. -/
def Cluster.floats (cluster : Cluster) : List Float :=
  cluster.matrix.coefficients.toList ++ cluster.integrators.toList.map IntegratorState.initial

@[simp]
theorem Cluster.writable_encode_iff {cluster : Cluster} :
    Json.Writable readable (room + 3) cluster.encode ↔ ∀ x ∈ cluster.floats, readable x := by
  simp [Cluster.encode, Cluster.floats, Matrix.members, or_imp, forall_and]

@[simp]
theorem Cluster.decode_encode (cluster : Cluster) :
    Cluster.decode cluster.encode = .ok cluster := by
  have writable : Json.Writable (fun _ => True) 3 cluster.encode :=
    Cluster.writable_encode_iff.mpr fun _ _ => trivial
  have isMatrix : Matrix.decode cluster.encode = .ok cluster.matrix :=
    Matrix.decode_members cluster.matrix writable (by simp)
  have isAux : Cluster.decodeAux cluster.encode = .ok (cluster.integrators, cluster.switches) := by
    apply Json.decodeRecord_eq_ok 3 writable
    simp [Matrix.members]
  rw [Cluster.encode] at writable isMatrix isAux ⊢
  rw [Cluster.decode, if_pos writable.whole, isMatrix, isAux]
  rfl

end Crossbar
