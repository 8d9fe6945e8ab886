import Crossbar.Encoding.Message
import Crossbar.Proofs.Encoding.Cluster

/-!
# Payloads read back

A tree of blocks is read back from its encoding with every list as long as it was
and every group of lanes in the shorthand it had.
-/

namespace Crossbar

variable {readable : Float → Prop} {room : Nat}

/-! ## Groups of lanes -/

namespace LaneGroup

@[simp]
theorem writable_encode (group : LaneGroup) :
    Json.Writable readable (room + 1) group.encode := by
  cases group <;> simp [encode]

@[simp]
theorem encode_ne_null (group : LaneGroup) : group.encode ≠ .null := by
  cases group <;> rintro ⟨⟩

/-- A list is no number, so the form of a group is told from its encoding. -/
@[simp]
theorem decode_encode (group : LaneGroup) : LaneGroup.decode group.encode = .ok group := by
  have writable : Json.Writable (fun _ => True) 1 group.encode := writable_encode group
  rw [decode, if_pos writable.whole]
  cases group with
  | single lane => rw [encode, Json.decodeUInt32_ofUInt32]
  | several lanes =>
      rw [encode, Json.decodeList_encode fun lane _ => Json.decodeUInt32_ofUInt32 lane]
      rfl

@[simp]
theorem writable_encodeList (groups : List (Option LaneGroup)) :
    Json.Writable readable (room + 2) (encodeList groups) := by
  simp [encodeList]

@[simp]
theorem decodeList_encodeList (groups : List (Option LaneGroup)) :
    LaneGroup.decodeList (encodeList groups) = .ok groups :=
  Json.decodeList_encodeOption decode_encode encode_ne_null

end LaneGroup

/-! ## Blocks -/

namespace BlockTree

@[simp]
theorem encodeStates_ne_null (states : List IntegratorState) : encodeStates states ≠ .null := by
  rintro ⟨⟩

@[simp]
theorem decodeList_encodeStates (states : List IntegratorState) :
    Json.decodeList IntegratorState.decode (encodeStates states) = .ok states :=
  Json.decodeList_encode fun state _ => IntegratorState.decode_encode state

/-- The initial values in a slot. -/
def slotFloats (states : Option (List IntegratorState)) : List Float :=
  (states.getD []).map IntegratorState.initial

@[simp]
theorem writable_encodeSlot_iff {states : Option (List IntegratorState)} :
    Json.Writable readable (room + 3) (encodeSlot states) ↔
      ∀ x ∈ slotFloats states, readable x := by
  cases states <;> simp [encodeSlot, encodeStates, slotFloats]

@[simp]
theorem decodeSlot_encodeSlot (states : Option (List IntegratorState)) :
    decodeSlot (encodeSlot states) = .ok states := by
  apply Json.decodeRecord_eq_ok 3 (writable_encodeSlot_iff.mpr fun _ _ => trivial)
  simp

@[simp]
theorem writable_encodeInputs (blocks : BlockTree) :
    Json.Writable readable (room + 2) blocks.encodeInputs := by
  simp [encodeInputs]

@[simp]
theorem decodeInputBlock_encodeInputs (blocks : BlockTree) :
    decodeInputBlock blocks.encodeInputs = .ok (blocks.inputs, blocks.switches) := by
  apply Json.decodeRecord_eq_ok 2 (writable_encodeInputs blocks)
  simp [Json.decodeList_encodeOption Json.decodeUInt32_ofUInt32 Json.ofUInt32_ne_null]

theorem decodeListBlock_object {α : Type} {name : String} {decode : Json → Except Json.Fault α}
    {value : Json} {x : α} (room : Nat) (writable : Json.Writable (fun _ => True) room value)
    (isRead : decode value = .ok x) :
    decodeListBlock name decode (.object [(name, value)]) = .ok x := by
  apply Json.decodeRecord_eq_ok (room + 1) (by simpa using writable)
  simp [isRead]

/-- The doubles of a tree of blocks. -/
def floats (blocks : BlockTree) : List Float :=
  slotFloats blocks.slot0 ++ slotFloats blocks.slot1 ++ blocks.coefficients

@[simp]
theorem writable_encodeCluster_iff {blocks : BlockTree} :
    Json.Writable readable (room + 4) blocks.encodeCluster ↔ ∀ x ∈ blocks.floats, readable x := by
  simp [encodeCluster, floats, or_imp, forall_and]

theorem decodeCluster_encodeCluster (blocks : BlockTree) :
    decodeCluster blocks.encodeCluster = .ok blocks := by
  have coefficients : decodeListBlock "elements" (Json.decodeList Json.decodeFloat)
      (.object [("elements", .array (blocks.coefficients.map .float))]) =
      .ok blocks.coefficients :=
    decodeListBlock_object 1 (by simp) (Json.decodeList_encode fun x _ => Json.decodeFloat_float x)
  have groups : decodeListBlock "outputs" LaneGroup.decodeList
      (.object [("outputs", LaneGroup.encodeList blocks.groups)]) = .ok blocks.groups :=
    decodeListBlock_object 2 (by simp) (LaneGroup.decodeList_encodeList blocks.groups)
  apply Json.decodeRecord_eq_ok 4 (writable_encodeCluster_iff.mpr fun _ _ => trivial)
  simp [coefficients, groups]

@[simp]
theorem writable_encode_iff {blocks : BlockTree} :
    Json.Writable readable (room + 5) blocks.encode ↔ ∀ x ∈ blocks.floats, readable x := by
  simp [encode]

@[simp]
theorem decode_encode (blocks : BlockTree) : BlockTree.decode blocks.encode = .ok blocks := by
  apply Json.decodeRecord_eq_ok 5 (writable_encode_iff.mpr fun _ _ => trivial)
  simp [decodeCluster_encodeCluster]

end BlockTree

/-! ## Requests -/

namespace ConfigRequest

@[simp]
theorem writable_encode_iff {request : ConfigRequest} :
    Json.Writable readable (room + 6) request.encode ↔
      ∀ x ∈ request.blocks.floats, readable x := by
  simp [encode]

@[simp]
theorem decode_encode (request : ConfigRequest) :
    ConfigRequest.decode request.encode = .ok request := by
  have entity := Json.decodeList_encode fun name (_ : name ∈ request.entity) =>
    Json.decodeString_string name
  apply Json.decodeRecord_eq_ok 6 (writable_encode_iff.mpr fun _ _ => trivial)
  simp [entity]

end ConfigRequest

end Crossbar
