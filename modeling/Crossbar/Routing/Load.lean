import Crossbar.CircuitFile
import Crossbar.Routing.Basic
import Crossbar.Routing.Expand

/-!
# Loading circuit files

A stored circuit is read back into a routing, the states of its integrators and
the connections it stands for.  A request that claims a lane twice keeps the
first claim and reports the others.
-/

namespace Crossbar

/-- A circuit read from a file. -/
structure LoadedCircuit where
  routing : Routing
  integrators : IntegratorBank
  connections : List Connection
  deriving BEq, Repr

namespace CircuitFile

/-- The error that a claim beyond the first leaves in a routing. -/
def conflictError (conflict : Conflict) : RoutingError :=
  ⟨.doubleAllocation conflict, .matrixLane conflict.lane⟩

/-- The routing and the integrator states that a file holds. -/
def contents : CircuitFile → Traced (Except CodecError (Routing × IntegratorBank))
  | .ofTable table =>
    .of (.ok (⟨table.routes, [], table.switches.getD .off⟩, table.integrators.getD .reset))
  | .ofCluster cluster => do
    let routing ← Routing.ofCluster cluster
    return .ok (routing, cluster.integrators)
  | .ofRequest request => do
    match ← request.blocks.toClusterLenient with
    | .error error => return .error error
    | .ok (cluster, conflicts) =>
      let routing ← Routing.ofCluster cluster
      return .ok ({ routing with errors := conflicts.map conflictError }, cluster.integrators)

/-- Loads a file for a layout. -/
def load (file : CircuitFile) (layout : Layout) :
    Traced (Except RoutingFault LoadedCircuit) := do
  match ← file.contents with
  | .error error => return .error (.codec error)
  | .ok (routing, integrators) =>
    let connections ← expand layout routing.switches routing.routes
    Traced.emit (.loaded file.shape routing.routes.length routing.errors.length)
    return .ok ⟨routing, integrators, connections⟩

end CircuitFile

end Crossbar
