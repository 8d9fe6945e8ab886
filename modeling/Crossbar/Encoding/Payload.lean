import Crossbar.Encoding.Cluster
import Crossbar.Payload

/-!
# Encoding of payloads

The blocks of a cluster stand in a tree keyed by their paths: `/0` is the
cluster, `/M0` and `/M1` its slots, `/U` and `/I` the switches on either side of
the lanes, and `/C` the coefficients.
-/

namespace Crossbar

namespace LaneGroup

def encode : LaneGroup → Json
  | .single lane => .ofUInt32 lane
  | .several lanes => .array (lanes.map .ofUInt32)

/-- A bare number or a list of numbers. -/
def decode (value : Json) : Except Json.Fault LaneGroup :=
  if value.whole then
    match Json.decodeUInt32 value, Json.decodeList Json.decodeUInt32 value with
    | .ok lane, _ => .ok (.single lane)
    | _, .ok lanes => .ok (.several lanes)
    | _, _ => .error (.rejected "data did not match any variant of untagged enum LaneGroup")
  else .error .mismatch

/-- One entry per cross-lane, `null` for those that no lane feeds. -/
def encodeList (groups : List (Option LaneGroup)) : Json :=
  .array (groups.map (Json.encodeOption encode))

def decodeList : Json → Except Json.Fault (List (Option LaneGroup)) :=
  Json.decodeList (Json.decodeOption decode)

end LaneGroup

namespace BlockTree

def encodeStates (states : List IntegratorState) : Json :=
  .array (states.map IntegratorState.encode)

/-- The block in a slot. -/
def encodeSlot (states : Option (List IntegratorState)) : Json :=
  .object (Json.optionalMember "elements" encodeStates states)

def decodeSlot : Json → Except Json.Fault (Option (List IntegratorState)) :=
  Json.decodeRecord ["elements"] fun record =>
    record.optional "elements" (Json.decodeList IntegratorState.decode)

/-- The switches that feed the lanes and the auxiliary signals. -/
def encodeInputs (blocks : BlockTree) : Json :=
  .object (("outputs", .array (blocks.inputs.map (Json.encodeOption Json.ofUInt32)))
    :: Json.optionalMember "alt_signals" AuxSwitches.encode blocks.switches)

def decodeInputBlock :
    Json → Except Json.Fault (List (Option UInt32) × Option AuxSwitches) :=
  Json.decodeRecord ["outputs", "alt_signals"] fun record =>
    Prod.mk
      <$> record.required "outputs" (Json.decodeList (Json.decodeOption Json.decodeUInt32))
      <*> record.optional "alt_signals" AuxSwitches.decode

/-- A block that is one list of values. -/
def decodeListBlock {α : Type} (name : String) (decode : Json → Except Json.Fault α) :
    Json → Except Json.Fault α :=
  Json.decodeRecord [name] fun record => record.required name decode

def encodeCluster (blocks : BlockTree) : Json :=
  .object [("/M0", encodeSlot blocks.slot0), ("/M1", encodeSlot blocks.slot1),
    ("/U", blocks.encodeInputs),
    ("/C", .object [("elements", .array (blocks.coefficients.map .float))]),
    ("/I", .object [("outputs", LaneGroup.encodeList blocks.groups)])]

def decodeCluster : Json → Except Json.Fault BlockTree :=
  Json.decodeRecord ["/M0", "/M1", "/U", "/C", "/I"] fun record =>
    (fun slot0 slot1 inputs coefficients groups =>
        BlockTree.mk slot0 slot1 inputs.1 inputs.2 coefficients groups)
      <$> record.defaulted "/M0" decodeSlot none
      <*> record.defaulted "/M1" decodeSlot none
      <*> record.required "/U" decodeInputBlock
      <*> record.required "/C" (decodeListBlock "elements" (Json.decodeList Json.decodeFloat))
      <*> record.required "/I" (decodeListBlock "outputs" LaneGroup.decodeList)

/-- The tree with the only cluster of a device. -/
def encode (blocks : BlockTree) : Json := .object [("/0", blocks.encodeCluster)]

def decode : Json → Except Json.Fault BlockTree :=
  Json.decodeRecord ["/0"] fun record => record.required "/0" decodeCluster

end BlockTree

namespace Payload

def encode (payload : Payload) : Json :=
  .object [("entity", payload.entity), ("config", payload.blocks.encode)]

def decode : Json → Except Json.Fault Payload :=
  Json.decodeRecord ["entity", "config"] fun record =>
    Payload.mk <$> record.required "entity" Json.decodeAny
      <*> record.required "config" BlockTree.decode

end Payload

end Crossbar
