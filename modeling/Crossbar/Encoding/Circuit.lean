import Crossbar.AuxSwitches
import Crossbar.Connection
import Crossbar.Integrator
import Crossbar.Json.Decode
import Crossbar.Layout
import Crossbar.Route

/-!
# Encoding of circuits

Lanes and cross-lanes are bare numbers, elements and ports are their
identifiers, and states carry the name of their kind.
-/

namespace Crossbar

/-! ## Lanes and cross-lanes -/

/-- Reads an index: a number of one byte that is in range. -/
def Json.decodeIndex {α : Type} (checked : Nat → Except IndexError α) (value : Json) :
    Except Json.Fault α := do
  let index ← decodeNat UInt8.size value
  (checked index).mapError fun error => .rejected error.message

def Lane.encode (lane : Lane) : Json := .ofNat lane.val

def Lane.decode : Json → Except Json.Fault Lane := Json.decodeIndex Lane.checked

def CrossLane.encode (crossLane : CrossLane) : Json := .ofNat crossLane.val

def CrossLane.decode : Json → Except Json.Fault CrossLane :=
  Json.decodeIndex CrossLane.checked

/-! ## Routes -/

def Route.encode (route : Route) : Json :=
  .object ([("lane", Lane.encode route.lane), ("uin", CrossLane.encode route.input),
    ("cval", .float route.coefficient)]
      ++ Json.optionalMember "iout" CrossLane.encode route.output)

def Route.decode : Json → Except Json.Fault Route :=
  Json.decodeRecord ["lane", "uin", "cval", "iout"] fun record =>
    Route.mk <$> record.required "lane" Lane.decode <*> record.required "uin" CrossLane.decode
      <*> record.required "cval" Json.decodeFloat <*> record.optional "iout" CrossLane.decode

/-! ## Switches and integrator states -/

def AuxSwitches.encode (switches : AuxSwitches) : Json :=
  .array (switches.toList.map .bool)

def AuxSwitches.decode (value : Json) : Except Json.Fault AuxSwitches :=
  (Json.decodeVector 9 Json.decodeBool value).map AuxSwitches.ofVector

def Json.ofUInt32 (n : UInt32) : Json := .ofNat n.toNat

def IntegratorState.encode (state : IntegratorState) : Json :=
  .object (("ic", .float state.initial)
    :: Json.optionalMember "k" Json.ofUInt32 state.timeScale)

def IntegratorState.decode : Json → Except Json.Fault IntegratorState :=
  Json.decodeRecord ["ic", "k"] fun record =>
    IntegratorState.mk <$> record.required "ic" Json.decodeFloat
      <*> record.optional "k" Json.decodeUInt32

def IntegratorBank.encode (bank : IntegratorBank) : Json :=
  .array (bank.toList.map IntegratorState.encode)

def IntegratorBank.decode : Json → Except Json.Fault IntegratorBank :=
  Json.decodeVector 8 IntegratorState.decode

/-! ## Elements -/

def Kind.decode : Json → Except Json.Fault Kind := Json.decodeName Kind.ofName?

def Direction.decode : Json → Except Json.Fault Direction :=
  Json.decodeName fun name => Direction.all.find? fun direction => direction.name == name

/-- Reads an identifier written as a string. -/
def Json.decodeIdentifier {α : Type} (parse : String → Except ElementError α) (value : Json) :
    Except Json.Fault α := do
  let text ← decodeString value
  (parse text).mapError fun error => .rejected error.message

def Element.encode (element : Element) : Json := .string element.text

def Element.decode : Json → Except Json.Fault Element := Json.decodeIdentifier Element.parse

def Port.encode (port : Port) : Json := .string port.text

def Port.decode : Json → Except Json.Fault Port := Json.decodeIdentifier Port.parse

/-- Only the ports of a connection are encoded. -/
def Connection.encode (connection : Connection) : Json :=
  .object [("source", connection.source.port.encode), ("target", connection.target.port.encode)]

def Connection.decode : Json → Except Json.Fault Connection :=
  Json.decodeRecord ["source", "target"] fun record =>
    (fun source target => Connection.mk (.bare source) (.bare target))
      <$> record.required "source" Port.decode <*> record.required "target" Port.decode

/-! ## States -/

def State.encode : State → Json
  | .potentiometer coefficient =>
    .object [("kind", .string "Pot"), ("coeff", .float coefficient)]
  | .integrator initial timeScale =>
    .object [("kind", .string "Int"), ("ic", .float initial),
      ("k", Json.encodeOption Json.ofUInt32 timeScale)]

/-- Reads the fields of a state whose kind is known. -/
def State.decodeFields (kind : String) (fields : Json) : Except Json.Fault State :=
  match kind with
  | "Pot" =>
    Json.decodeRecord ["coeff"] (fun record =>
      State.potentiometer <$> record.required "coeff" Json.decodeFloat) fields
  | "Int" =>
    Json.decodeRecord ["ic", "k"] (fun record =>
      State.integrator <$> record.required "ic" Json.decodeFloat
        <*> record.nullable "k" Json.decodeUInt32) fields
  | _ => .error .mismatch

/-- A state is an object with the name of its kind among its members, or an array
that starts with that name. -/
def State.decode (value : Json) : Except Json.Fault State :=
  if value.whole then
    match value with
    | .array (.string kind :: fields) => decodeFields kind (.array fields)
    | .object members =>
      match members.filter fun (name, _) => name == "kind" with
      | [(_, .string kind)] =>
        decodeFields kind (.object (members.filter fun (name, _) => name != "kind"))
      | _ => .error .mismatch
    | _ => .error .mismatch
  else .error .mismatch

/-! ## Layouts -/

def Block.encode (block : Block) : Json := .string block.name

def Block.decode : Json → Except Json.Fault Block := Json.decodeName Block.ofName?

def Layout.encode (layout : Layout) : Json :=
  .object [("slots", .array [layout.slot0.encode, layout.slot1.encode])]

/-- Reads the two blocks of a layout. -/
def Layout.decodeSlots (value : Json) : Except Json.Fault Layout := do
  let slots ← Json.decodeVector 2 Block.decode value
  return ⟨slots[0], slots[1]⟩

end Crossbar
