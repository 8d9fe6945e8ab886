import Crossbar.Json.Basic
import Crossbar.Json.Reader

/-!
# Reading typed values

A record is written as an object or as the array of its fields in declaration
order.  Unknown members are passed over, a repeated member is a fault, and of
several faults the one that stands first in the text is reported, in whatever
order the fields of the record are read.
-/

namespace Crossbar.Json

/-- Why a value is not of the type asked for. -/
inductive Fault where
  /-- The value has another shape: a wrong type, or a missing or repeated member. -/
  | mismatch
  /-- The value has the right shape and breaks a rule of its type. -/
  | rejected (reason : String)
  deriving DecidableEq, Repr

/-- The rule that was broken, if it was more than the shape. -/
def Fault.message? : Fault → Option String
  | .mismatch => none
  | .rejected reason => some reason

/-! ## Plain values -/

def decodeBool : Json → Except Fault Bool
  | .bool value => .ok value
  | _ => .error .mismatch

def decodeString : Json → Except Fault String
  | .string text => .ok text
  | _ => .error .mismatch

/-- A whole number from 0 up to a bound. -/
def decodeNat (bound : Nat) : Json → Except Fault Nat
  | .int value =>
    if 0 ≤ value ∧ value < bound then .ok value.toNat else .error .mismatch
  | _ => .error .mismatch

def decodeUInt16 (value : Json) : Except Fault UInt16 :=
  (decodeNat UInt16.size value).map Nat.toUInt16

def decodeUInt32 (value : Json) : Except Fault UInt32 :=
  (decodeNat UInt32.size value).map Nat.toUInt32

def decodeInt64 : Json → Except Fault Int64
  | .int value =>
    match Decimal.signed64? value with
    | some word => .ok word
    | none => .error .mismatch
  | _ => .error .mismatch

/-- The double nearest to a 64-bit whole number. -/
def floatOfInt (value : Int) : Float :=
  let size := value.natAbs.toUInt64.toFloat
  if value < 0 then -size else size

/-- A float may be written as a whole number. -/
def decodeFloat : Json → Except Fault Float
  | .int value => .ok (floatOfInt value)
  | .float value => .ok value
  | _ => .error .mismatch

/-- An absent value is written as `null`. -/
def decodeOption {α : Type} (decode : Json → Except Fault α) : Json → Except Fault (Option α)
  | .null => .ok none
  | value => (decode value).map some

def decodeItems {α : Type} (decode : Json → Except Fault α) :
    List Json → Except Fault (List α)
  | [] => .ok []
  | item :: rest => do
    let value ← decode item
    let values ← decodeItems decode rest
    return value :: values

def decodeList {α : Type} (decode : Json → Except Fault α) : Json → Except Fault (List α)
  | .array items => decodeItems decode items
  | _ => .error .mismatch

/-- An array of exactly `size` items. -/
def decodeVector {α : Type} (size : Nat) (decode : Json → Except Fault α)
    (value : Json) : Except Fault (Vector α size) := do
  let values ← decodeList decode value
  if exact : values.length = size then
    return ⟨values.toArray, by simpa using exact⟩
  else .error .mismatch

/-- A name out of a fixed list, also accepted as an object whose only member has
that name and the value `null`. -/
def decodeName {α : Type} (named? : String → Option α) : Json → Except Fault α
  | .string name => (named? name).elim (.error .mismatch) .ok
  | .object [(name, .null)] => (named? name).elim (.error .mismatch) .ok
  | _ => .error .mismatch

/-- A value of any shape, with its objects in canonical order. -/
def decodeAny (value : Json) : Except Fault Json :=
  if value.whole then .ok value.sorted else .error .mismatch

/-! ## Readings of a record -/

/-- The outcome of reading a part of a record.  A failure knows its place among
the members. -/
inductive Reading (α : Type) where
  | done (value : α)
  | failed (place : Nat) (fault : Fault)

namespace Reading

def ofExcept {α : Type} (place : Nat) : Except Fault α → Reading α
  | .ok value => .done value
  | .error fault => .failed place fault

def toExcept {α : Type} : Reading α → Except Fault α
  | .done value => .ok value
  | .failed _ fault => .error fault

/-- Applies one reading to another.  Of two failures the one at the earlier place
remains. -/
def apply {α β : Type} (f : Reading (α → β)) (x : Reading α) : Reading β :=
  match f, x with
  | .done f, .done x => .done (f x)
  | .done _, .failed place fault => .failed place fault
  | .failed place fault, .done _ => .failed place fault
  | .failed place fault, .failed other second =>
    if other < place then .failed other second else .failed place fault

instance : Applicative Reading where
  pure := .done
  seq f x := f.apply (x ())

end Reading

/-- A record as it is written. -/
inductive Source where
  | members (entries : List (String × Json))
  | items (values : List Json)

/-- A record with the names of its fields in declaration order. -/
structure Record where
  fields : List String
  source : Source

/-- When a field may be left out, and what it is then. -/
inductive Absence (α : Type) where
  /-- The field is always written. -/
  | refused
  /-- The field may be left out of an object but not of an array. -/
  | named (value : α)
  /-- The field may be left out. -/
  | allowed (value : α)

namespace Record

/-- The members of one name with their places. -/
def entries (name : String) (members : List (String × Json)) : List (Nat × Json) :=
  members.zipIdx.filterMap fun ((other, value), place) =>
    if other == name then some (place, value) else none

/-- Reads one field. -/
def field {α : Type} (record : Record) (name : String) (decode : Json → Except Fault α)
    (absence : Absence α) : Reading α :=
  match record.source with
  | .members members =>
    match entries name members, absence with
    | [], .refused => .failed members.length .mismatch
    | [], .named value => .done value
    | [], .allowed value => .done value
    | (place, value) :: more, _ =>
      match decode value, more with
      | .error fault, _ => .failed place fault
      | .ok value, [] => .done value
      | .ok _, (second, _) :: _ => .failed second .mismatch
  | .items values =>
    let place := record.fields.idxOf name
    match values[place]?, absence with
    | some value, _ => .ofExcept place (decode value)
    | none, .allowed value => .done value
    | none, _ => .failed values.length .mismatch

/-- A field that is always written. -/
def required {α : Type} (record : Record) (name : String)
    (decode : Json → Except Fault α) : Reading α :=
  record.field name decode .refused

/-- A field that may be left out or written as `null`. -/
def optional {α : Type} (record : Record) (name : String)
    (decode : Json → Except Fault α) : Reading (Option α) :=
  record.field name (decodeOption decode) (.allowed none)

/-- A field that may be written as `null`, and left out of an object. -/
def nullable {α : Type} (record : Record) (name : String)
    (decode : Json → Except Fault α) : Reading (Option α) :=
  record.field name (decodeOption decode) (.named none)

/-- A field with a value of its own where it is left out. -/
def defaulted {α : Type} (record : Record) (name : String)
    (decode : Json → Except Fault α) (value : α) : Reading α :=
  record.field name decode (.allowed value)

/-- Whether a member of another name may be passed over. -/
def passable : Json → Bool
  | .flaw .name => false
  | value => value.skippable

/-- The first place that no field accounts for and that cannot be passed over. -/
def surplus (record : Record) : Reading Unit :=
  match record.source with
  | .members members =>
    let fault := members.zipIdx.find? fun ((name, value), _) =>
      !record.fields.contains name && !passable value
    match fault with
    | some (_, place) => .failed place .mismatch
    | none => .done ()
  | .items values =>
    if record.fields.length < values.length then
      .failed record.fields.length .mismatch
    else .done ()

end Record

/-- Reads a record that may be written as an object or as an array. -/
def decodeRecord {α : Type} (fields : List String) (build : Record → Reading α)
    (value : Json) : Except Fault α :=
  let read (source : Source) : Except Fault α :=
    let record : Record := ⟨fields, source⟩
    ((fun built _ => built) <$> build record <*> record.surplus).toExcept
  match value with
  | .object members => read (.members members)
  | .array items => read (.items items)
  | _ => .error .mismatch

/-! ## Whole texts -/

/-- Reads a text that holds one value and nothing else. -/
def decodeText {α : Type} (decode : Json → Except Fault α) (text : String) :
    Except Fault α := do
  let (value, rest) := read text
  let decoded ← decode value
  if (skipBlank rest).isEmpty then return decoded else throw .mismatch

/-! ## Encoding -/

/-- A member that is left out where there is no value. -/
def optionalMember {α : Type} (name : String) (encode : α → Json) :
    Option α → List (String × Json)
  | none => []
  | some value => [(name, encode value)]

/-- An optional value, with `null` where there is none. -/
def encodeOption {α : Type} (encode : α → Json) : Option α → Json
  | none => .null
  | some value => encode value

def encodeList {α : Type} (encode : α → Json) (values : List α) : Json :=
  .array (values.map encode)

def ofNat (n : Nat) : Json := .int n

end Crossbar.Json
