import Crossbar.Cluster
import Crossbar.Event

/-!
# Routings

A routing is what the router makes of a circuit: the routes, what failed to
route, and the auxiliary signals the routes depend on.
-/

namespace Crossbar

structure Routing where
  routes : List Route
  /-- The errors in the order they were found. -/
  errors : List RoutingError
  switches : AuxSwitches
  deriving BEq, Repr

namespace Routing

def empty : Routing := ⟨[], [], .off⟩

instance : Inhabited Routing := ⟨empty⟩

/-- Whether every connection was routed. -/
def isComplete (routing : Routing) : Bool := routing.errors.isEmpty

/-- Emits the errors into a sink. -/
def report (routing : Routing) (sink : Sink) : Sink :=
  RoutingError.report routing.errors sink

/-- The cluster configuration that holds a routing; errors are not kept. -/
def toCluster (routing : Routing) (integrators : IntegratorBank) : Traced Cluster := do
  let matrix ← Matrix.scatter routing.routes
  return ⟨matrix, integrators, routing.switches⟩

/-- The routing that a cluster configuration holds. -/
def ofCluster (cluster : Cluster) : Traced Routing := do
  let routes ← cluster.matrix.gather
  return ⟨routes, [], cluster.switches⟩

end Routing

end Crossbar
