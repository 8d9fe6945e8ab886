import Crossbar.Json.Decode
import Crossbar.Proofs.Json.Numeral

/-!
# Values that a text can hold

A text holds every value without flaws whose whole numbers have 64 bits and whose
levels are not too many, as far as it holds the doubles in it.
-/

namespace Crossbar.Json

/-- A value that a text can hold, nested at most `room` levels deep.  Which doubles
a text can hold is left open. -/
inductive Writable (readable : Float → Prop) : Nat → Json → Prop
  | null (room : Nat) : Writable readable room .null
  | bool (room : Nat) (value : Bool) : Writable readable room (.bool value)
  | int {room : Nat} {value : Int} (isWord : IsWord value) : Writable readable room (.int value)
  | float {room : Nat} {x : Float} (isReadable : readable x) : Writable readable room (.float x)
  | string (room : Nat) (text : String) : Writable readable room (.string text)
  | array {room : Nat} {items : List Json} (each : ∀ item ∈ items, Writable readable room item) :
      Writable readable (room + 1) (.array items)
  | object {room : Nat} {members : List (String × Json)}
      (each : ∀ member ∈ members, Writable readable room member.2) :
      Writable readable (room + 1) (.object members)

variable {readable : Float → Prop} {room : Nat} {value : Json}

/-! ## No flaws -/

theorem wholeItems_eq_all (items : List Json) : wholeItems items = items.all whole := by
  induction items with
  | nil => rfl
  | cons item rest inductionHypothesis => rw [wholeItems, inductionHypothesis, List.all_cons]

theorem wholeMembers_eq_all (members : List (String × Json)) :
    wholeMembers members = members.all fun member => member.2.whole := by
  induction members with
  | nil => rfl
  | cons member rest inductionHypothesis => rw [wholeMembers, inductionHypothesis, List.all_cons]

theorem skippableItems_eq_all (items : List Json) :
    skippableItems items = items.all skippable := by
  induction items with
  | nil => rfl
  | cons item rest inductionHypothesis => rw [skippableItems, inductionHypothesis, List.all_cons]

theorem skippableMembers_eq_all (members : List (String × Json)) :
    skippableMembers members = members.all fun member => member.2.skippable := by
  induction members with
  | nil => rfl
  | cons member rest inductionHypothesis =>
      rw [skippableMembers, inductionHypothesis, List.all_cons]

namespace Writable

theorem ne_flaw (writable : Writable readable room value) (cause : Flaw) :
    value ≠ .flaw cause := by
  rintro rfl
  cases writable

theorem whole (writable : Writable readable room value) : value.whole = true := by
  induction writable with
  | array _ inductionHypothesis =>
      rw [Json.whole, wholeItems_eq_all, List.all_eq_true]
      exact inductionHypothesis
  | object _ inductionHypothesis =>
      rw [Json.whole, wholeMembers_eq_all, List.all_eq_true]
      exact inductionHypothesis
  | _ => rfl

theorem skippable (writable : Writable readable room value) : value.skippable = true := by
  induction writable with
  | array _ inductionHypothesis =>
      rw [Json.skippable, skippableItems_eq_all, List.all_eq_true]
      exact inductionHypothesis
  | object _ inductionHypothesis =>
      rw [Json.skippable, skippableMembers_eq_all, List.all_eq_true]
      exact inductionHypothesis
  | _ => rfl

/-- A record may have it as a member that no field accounts for. -/
theorem passable (writable : Writable readable room value) : Record.passable value = true := by
  unfold Record.passable
  split
  case h_1 => exact absurd rfl (writable.ne_flaw .name)
  case h_2 => exact writable.skippable

end Writable

/-! ## Parts of a value -/

@[simp]
theorem writable_null : Writable readable room .null := .null room

@[simp]
theorem writable_bool (value : Bool) : Writable readable room (.bool value) := .bool room value

@[simp]
theorem writable_string (text : String) : Writable readable room (.string text) :=
  .string room text

@[simp]
theorem writable_float_iff {x : Float} : Writable readable room (.float x) ↔ readable x :=
  ⟨fun | .float isReadable => isReadable, .float⟩

@[simp]
theorem writable_object_iff {members : List (String × Json)} :
    Writable readable (room + 1) (.object members) ↔
      ∀ member ∈ members, Writable readable room member.2 :=
  ⟨fun | .object each => each, .object⟩

theorem writable_ofNat {number : Nat} (small : number < UInt64.size) :
    Writable readable room (.ofNat number) :=
  .int ⟨Int.le_trans (by decide) (Int.natCast_nonneg number), Int.ofNat_lt.mpr small⟩

variable {α : Type} {encode : α → Json}

@[simp]
theorem writable_list_iff {values : List α} :
    Writable readable (room + 1) (.array (values.map encode)) ↔
      ∀ value ∈ values, Writable readable room (encode value) := by
  rw [← List.forall_mem_map (P := Writable readable room)]
  exact ⟨fun | .array each => each, .array⟩

@[simp]
theorem writable_encodeOption_iff {value : Option α} :
    Writable readable room (encodeOption encode value) ↔
      ∀ present ∈ value, Writable readable room (encode present) := by
  cases value <;> simp [encodeOption]

@[simp]
theorem forall_mem_optionalMember_iff {name : String} {value : Option α}
    {holds : String → Json → Prop} :
    (∀ other member, (other, member) ∈ optionalMember name encode value → holds other member) ↔
      ∀ present ∈ value, holds name (encode present) := by
  cases value <;> simp [optionalMember]

end Crossbar.Json
