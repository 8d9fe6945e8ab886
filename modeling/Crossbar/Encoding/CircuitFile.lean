import Crossbar.CircuitFile
import Crossbar.Encoding.Message
import Crossbar.Json.Writer

/-!
# Encoding of circuit files

The form of a stored circuit is not written down.  It is the first of table,
cluster and request that the value can be read as.
-/

namespace Crossbar

namespace RouteTable

def encode (table : RouteTable) : Json :=
  .object (Json.optionalMember "title" .string table.title
    ++ Json.optionalMember "desc" .string table.description
    ++ [("routes", .array (table.routes.map Route.encode))]
    ++ Json.optionalMember "alt_signals" AuxSwitches.encode table.switches
    ++ Json.optionalMember "MIntConfig" IntegratorBank.encode table.integrators)

def decode : Json → Except Json.Fault RouteTable :=
  Json.decodeRecord ["title", "desc", "routes", "alt_signals", "MIntConfig"] fun record =>
    RouteTable.mk <$> record.optional "title" Json.decodeString
      <*> record.optional "desc" Json.decodeString
      <*> record.required "routes" (Json.decodeList Route.decode)
      <*> record.optional "alt_signals" AuxSwitches.decode
      <*> record.optional "MIntConfig" IntegratorBank.decode

end RouteTable

namespace CircuitFile

def encode : CircuitFile → Json
  | .ofTable table => table.encode
  | .ofCluster cluster => cluster.encode
  | .ofRequest request => request.encode

def decode (value : Json) : Except Json.Fault CircuitFile :=
  if value.whole then
    match RouteTable.decode value, Cluster.decode value, ConfigRequest.decode value with
    | .ok table, _, _ => .ok (.ofTable table)
    | _, .ok cluster, _ => .ok (.ofCluster cluster)
    | _, _, .ok request => .ok (.ofRequest request)
    | _, _, _ => .error (.rejected "data did not match any variant of untagged enum CircuitFile")
  else .error .mismatch

/-- Reads a stored circuit. -/
def parse (text : String) : Except Json.Fault CircuitFile := Json.decodeText decode text

/-- Writes a circuit to be stored. -/
def write (file : CircuitFile) : String := file.encode.pretty

end CircuitFile

end Crossbar
