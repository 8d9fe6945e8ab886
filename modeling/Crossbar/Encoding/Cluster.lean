import Crossbar.Cluster
import Crossbar.Encoding.Circuit

/-!
# Encoding of cluster configurations

The matrix is written as three lists with an entry for every lane.  Shorter
lists and `null` entries are read as unused lanes.  A cluster configuration adds
the integrator states and the switches as further members of the same object.
-/

namespace Crossbar

/-- A list with at most one entry per lane; missing and `null` entries have a
value of their own. -/
def Json.decodePadded {α : Type} (decode : Json → Except Json.Fault α) (unused : α)
    (value : Json) : Except Json.Fault (Vector α 32) := do
  let entries ← decodeList (decodeOption decode) value
  if laneCount < entries.length then
    throw (.rejected s!"expected at most {laneCount} entries, found {entries.length}")
  else
    return .ofFn fun lane : Lane => entries[lane.val]?.join.getD unused

namespace Matrix

def members (matrix : Matrix) : List (String × Json) :=
  [("u", .array (matrix.inputs.toList.map (Json.encodeOption CrossLane.encode))),
    ("c", .array (matrix.coefficients.toList.map .float)),
    ("i", .array (matrix.outputs.toList.map (Json.encodeOption CrossLane.encode)))]

def encode (matrix : Matrix) : Json := .object matrix.members

def decode : Json → Except Json.Fault Matrix :=
  let crossLane (value : Json) := (CrossLane.decode value).map some
  Json.decodeRecord ["u", "c", "i"] fun record =>
    Matrix.mk <$> record.required "u" (Json.decodePadded crossLane none)
      <*> record.required "c" (Json.decodePadded Json.decodeFloat 0.0)
      <*> record.required "i" (Json.decodePadded crossLane none)

end Matrix

namespace Cluster

def encode (cluster : Cluster) : Json :=
  .object (cluster.matrix.members
    ++ [("MInt", cluster.integrators.encode), ("Ualt", cluster.switches.encode)])

/-- The members besides the matrix. -/
def decodeAux : Json → Except Json.Fault (IntegratorBank × AuxSwitches) :=
  Json.decodeRecord ["MInt", "Ualt"] fun record =>
    Prod.mk <$> record.required "MInt" IntegratorBank.decode
      <*> record.required "Ualt" AuxSwitches.decode

/-- A cluster is always an object, and the matrix is read before the rest. -/
def decode (value : Json) : Except Json.Fault Cluster :=
  match value with
  | .object _ =>
    if value.whole then do
      let matrix ← Matrix.decode value
      let (integrators, switches) ← decodeAux value
      return ⟨matrix, integrators, switches⟩
    else .error .mismatch
  | _ => .error .mismatch

end Cluster

end Crossbar
