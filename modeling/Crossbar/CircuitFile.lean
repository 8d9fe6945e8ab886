import Crossbar.Message
import Crossbar.Route

/-!
# Circuit files

A circuit is stored as a table of routes, as the configuration of a cluster, or
as the request that configures it.
-/

namespace Crossbar

/-- A table of routes with what they rely on. -/
structure RouteTable where
  title : Option String
  description : Option String
  routes : List Route
  switches : Option AuxSwitches
  integrators : Option IntegratorBank
  deriving BEq, Repr

inductive CircuitFile where
  | ofTable (table : RouteTable)
  | ofCluster (cluster : Cluster)
  | ofRequest (request : ConfigRequest)
  deriving BEq, Repr

/-- A short name of the form a circuit is stored in. -/
def CircuitFile.shape : CircuitFile → String
  | .ofTable _ => "routes"
  | .ofCluster _ => "cluster config"
  | .ofRequest _ => "set_config"

end Crossbar
