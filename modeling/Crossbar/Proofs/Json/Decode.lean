import Crossbar.Proofs.Json.Writable

/-!
# Typed values read back

A decoder that inverts an encoder on every part of a list, a vector or an option
inverts it on the whole.

What is read of a field depends on the values written under its name alone, not on
where they stand among the members.  So an object that holds every field once, and
leaves out those without a value, is read to the record of the values.
-/

namespace Crossbar.Json

variable {α β : Type} {room : Nat} {value : Json} {fields : List String}
  {members : List (String × Json)} {decode : Json → Except Fault α} {encode : α → Json}

/-! ## Plain values and options -/

@[simp]
theorem decodeBool_bool (value : Bool) : decodeBool (.bool value) = .ok value := by
  rw [decodeBool]

@[simp]
theorem decodeString_string (text : String) : decodeString (.string text) = .ok text := by
  rw [decodeString]

@[simp]
theorem decodeFloat_float (x : Float) : decodeFloat (.float x) = .ok x := by
  rw [decodeFloat]

theorem decodeOption_of_ne_null (present : value ≠ .null) :
    decodeOption decode value = (decode value).map some := by
  unfold decodeOption
  split
  case h_1 => exact absurd rfl present
  case h_2 => rfl

theorem decodeOption_encodeOption (inverts : ∀ value, decode (encode value) = .ok value)
    (present : ∀ value, encode value ≠ .null) (value : Option α) :
    decodeOption decode (encodeOption encode value) = .ok value := by
  cases value with
  | none => rfl
  | some inner =>
      rw [encodeOption, decodeOption_of_ne_null (present inner), inverts inner]
      rfl

/-! ## Lists -/

/-- What each item of a list is read to, the list is read to. -/
theorem decodeList_map {read : Json → Except Fault β} (meaning : α → β) {values : List α}
    (reads : ∀ value ∈ values, read (encode value) = .ok (meaning value)) :
    decodeList read (.array (values.map encode)) = .ok (values.map meaning) := by
  rw [decodeList]
  induction values with
  | nil => rfl
  | cons first rest inductionHypothesis =>
      rw [List.map_cons, decodeItems, reads first List.mem_cons_self,
        inductionHypothesis fun value member => reads value (List.mem_cons_of_mem _ member)]
      rfl

theorem decodeList_encode {values : List α}
    (inverts : ∀ value ∈ values, decode (encode value) = .ok value) :
    decodeList decode (.array (values.map encode)) = .ok values := by
  rw [decodeList_map id inverts, List.map_id]

theorem decodeList_encodeOption {values : List (Option α)}
    (inverts : ∀ value, decode (encode value) = .ok value)
    (present : ∀ value, encode value ≠ .null) :
    decodeList (decodeOption decode) (.array (values.map (encodeOption encode))) = .ok values :=
  decodeList_encode fun value _ => decodeOption_encodeOption inverts present value

theorem decodeVector_encode {size : Nat} {values : Vector α size}
    (inverts : ∀ value ∈ values, decode (encode value) = .ok value) :
    decodeVector size decode (.array (values.toList.map encode)) = .ok values := by
  unfold decodeVector
  rw [decodeList_encode fun value member => inverts value (Vector.mem_toList_iff.mp member)]
  change dite _ _ _ = _
  rw [dif_pos values.length_toList]
  exact congrArg Except.ok (Vector.toArray_inj.mp (Array.toArray_toList ..))

/-! ## Members of one name -/

/-- The values written under a name, in order. -/
def written (name : String) (members : List (String × Json)) : List Json :=
  (members.filter fun member => member.1 == name).map Prod.snd

@[simp]
theorem written_nil (name : String) : written name [] = [] := rfl

@[simp]
theorem written_cons (name other : String) (value : Json) (rest : List (String × Json)) :
    written name ((other, value) :: rest) =
      if other = name then value :: written name rest else written name rest := by
  by_cases same : other = name <;> simp [written, same]

@[simp]
theorem written_append (name : String) (members rest : List (String × Json)) :
    written name (members ++ rest) = written name members ++ written name rest := by
  rw [written, List.filter_append, List.map_append, ← written, ← written]

@[simp]
theorem written_optionalMember (name other : String) (encode : α → Json) (value : Option α) :
    written name (optionalMember other encode value) =
      if other = name then (value.map encode).toList else [] := by
  cases value <;> simp [optionalMember]

theorem map_snd_entries (name : String) (members : List (String × Json)) :
    (Record.entries name members).map Prod.snd = written name members := by
  unfold Record.entries
  generalize 0 = start
  induction members generalizing start with
  | nil => rfl
  | cons member rest inductionHypothesis =>
      obtain ⟨other, value⟩ := member
      rw [List.zipIdx_cons, List.filterMap_cons, written_cons]
      by_cases same : other = name
      · simp only [same, beq_self_eq_true, if_true, List.map_cons, inductionHypothesis]
      · have notSame : (other == name) = false := beq_eq_false_iff_ne.mpr same
        simp only [same, notSame, Bool.false_eq_true, if_false, inductionHypothesis]

/-! ## Results -/

@[simp]
theorem toOption_ok (x : α) : (Except.ok x : Except Fault α).toOption = some x := rfl

theorem toOption_eq_some_iff {result : Except Fault α} {x : α} :
    result.toOption = some x ↔ result = .ok x := by
  cases result <;> simp [Except.toOption]

theorem toOption_eq_none_iff {result : Except Fault α} :
    result.toOption = none ↔ ∃ fault, result = .error fault := by
  cases result <;> simp [Except.toOption]

/-! ## Readings -/

namespace Reading

/-- What has been read, if nothing failed. -/
def value? : Reading α → Option α
  | .done value => some value
  | .failed _ _ => none

@[simp]
theorem value?_map (f : α → β) (x : Reading α) : (f <$> x).value? = x.value?.map f := by
  cases x <;> rfl

/-- Whichever of two failures remains, nothing has been read. -/
@[simp]
theorem value?_seq (f : Reading (α → β)) (x : Reading α) :
    (f <*> x).value? = f.value?.bind fun g => x.value?.map g := by
  cases f with
  | done f => cases x <;> rfl
  | failed place fault =>
      cases x with
      | done x => rfl
      | failed other second =>
          change (if other < place then _ else _ : Reading β).value? = none
          split <;> rfl

theorem toOption_toExcept (x : Reading α) : x.toExcept.toOption = x.value? := by
  cases x <;> rfl

end Reading

/-! ## One field -/

/-- What a field is where it is left out of an object. -/
def Absence.value? : Absence α → Option α
  | .refused => none
  | .named value => some value
  | .allowed value => some value

/-- What a field is read to from the values written under its name. -/
def fieldValue? (decode : Json → Except Fault α) (absence : Absence α) : List Json → Option α
  | [] => absence.value?
  | [value] => (decode value).toOption
  | _ => none

theorem value?_field (name : String) (decode : Json → Except Fault α) (absence : Absence α) :
    (Record.field ⟨fields, .members members⟩ name decode absence).value? =
      fieldValue? decode absence (written name members) := by
  rw [← map_snd_entries]
  unfold Record.field
  dsimp only
  cases Record.entries name members with
  | nil => cases absence <;> rfl
  | cons entry more =>
      obtain ⟨place, value⟩ := entry
      cases isDecoded : decode value <;> cases more <;>
        simp [fieldValue?, isDecoded, Reading.value?, Except.toOption]

@[simp]
theorem value?_required (name : String) (decode : Json → Except Fault α) :
    (Record.required ⟨fields, .members members⟩ name decode).value? =
      fieldValue? decode .refused (written name members) :=
  value?_field name decode .refused

@[simp]
theorem value?_optional (name : String) (decode : Json → Except Fault α) :
    (Record.optional ⟨fields, .members members⟩ name decode).value? =
      fieldValue? (decodeOption decode) (.allowed none) (written name members) :=
  value?_field name (decodeOption decode) (.allowed none)

@[simp]
theorem value?_defaulted (name : String) (decode : Json → Except Fault α) (value : α) :
    (Record.defaulted ⟨fields, .members members⟩ name decode value).value? =
      fieldValue? decode (.allowed value) (written name members) :=
  value?_field name decode (.allowed value)

@[simp]
theorem fieldValue?_refused_nil (decode : Json → Except Fault α) :
    fieldValue? decode .refused [] = none := rfl

@[simp]
theorem fieldValue?_singleton (decode : Json → Except Fault α) (absence : Absence α)
    (value : Json) : fieldValue? decode absence [value] = (decode value).toOption := rfl

/-- A field that is left out where it has no value. -/
@[simp]
theorem fieldValue?_optionalMember (inverts : ∀ value, decode (encode value) = .ok value)
    (present : ∀ value, encode value ≠ .null) (x : Option α) :
    fieldValue? (decodeOption decode) (.allowed none) (x.map encode).toList = some x := by
  cases x with
  | none => rfl
  | some inner =>
      change (decodeOption decode (encodeOption encode (some inner))).toOption = _
      rw [decodeOption_encodeOption inverts present, toOption_ok]

/-! ## Whole records -/

theorem surplus_eq_done (each : ∀ member ∈ members, Record.passable member.2 = true) :
    Record.surplus ⟨fields, .members members⟩ = .done () := by
  unfold Record.surplus
  dsimp only
  split
  case h_1 member place found =>
    have isMember := List.fst_mem_of_mem_zipIdx (List.mem_of_find?_eq_some found)
    have passes := each member isMember
    have notPassed := List.find?_some found
    simp [passes] at notPassed
  case h_2 => rfl

/-- An object without flaws is read to what its fields are read to. -/
theorem toOption_decodeRecord (build : Record → Reading α)
    (writable : Writable (fun _ => True) room (.object members)) :
    (decodeRecord fields build (.object members)).toOption =
      (build ⟨fields, .members members⟩).value? := by
  cases writable with
  | object each =>
      unfold decodeRecord
      dsimp only
      rw [Reading.toOption_toExcept, Reading.value?_seq, Reading.value?_map,
        surplus_eq_done fun member isMember => (each member isMember).passable]
      cases (build ⟨fields, .members members⟩).value? <;> rfl

theorem decodeRecord_eq_ok {build : Record → Reading α} {x : α} (room : Nat)
    (writable : Writable (fun _ => True) room (.object members))
    (built : (build ⟨fields, .members members⟩).value? = some x) :
    decodeRecord fields build (.object members) = .ok x := by
  rw [← toOption_eq_some_iff, toOption_decodeRecord build writable, built]

theorem decodeRecord_eq_error {build : Record → Reading α} (room : Nat)
    (writable : Writable (fun _ => True) room (.object members))
    (nothing : (build ⟨fields, .members members⟩).value? = none) :
    ∃ fault, decodeRecord fields build (.object members) = .error fault := by
  rw [← toOption_eq_none_iff, toOption_decodeRecord build writable, nothing]

end Crossbar.Json
