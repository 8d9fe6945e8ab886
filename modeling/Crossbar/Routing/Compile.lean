import Crossbar.Routing.Basic
import Crossbar.Routing.LaneAssignment

/-!
# Compiling a circuit

A circuit is routed in four steps: potentiometers are resolved, connections with
a virtual element are pinned, the remaining connections are placed, and every
placement gets a lane.  Pinned routes take their lanes first and flexible routes
give way to them.  After either placement those routes are dropped whose source
is hidden by an auxiliary signal.

What cannot be routed is left out and reported; only a weighted sink stops the
routing.
-/

namespace Crossbar

/-- The routes of pinned placements and then those of the flexible connections. -/
def routesAround (layout : Layout) (switches : AuxSwitches) (placements : List Placement)
    (flexible : List Resolved) : Traced (List Route) := do
  let visible ← Placement.dropShadowed switches placements
  let pinned ← LaneAssignment.settlePinned visible
  let reserved := LaneSet.ofList (pinned.map Route.lane)
  Traced.emit (.pinnedSettled reserved.size)
  let placed ← Placement.placeAll layout flexible
  let visiblePlaced ← Placement.dropShadowed switches placed
  let routed ← LaneAssignment.settleFlexible reserved visiblePlaced
  return pinned ++ routed

/-- The routes of a circuit and the auxiliary signals they need. -/
def routesOfCircuit (layout : Layout) (connections : List Connection) :
    Traced (Except RoutingFault (List Route × AuxSwitches)) := do
  let resolved ← Resolved.ofConnections connections
  let (pinned, flexible) := resolved.partition Resolved.isVirtual
  Traced.emit (.resolved connections.length pinned.length flexible.length)
  match ← Placement.pinAll layout pinned with
  | .error fault => return .error fault
  | .ok placements =>
    let switches := Placement.switches placements
    let routes ← routesAround layout switches placements flexible
    return .ok (routes, switches)

/-- Compiles a circuit into a routing. -/
def compile (layout : Layout) (connections : List Connection) :
    Traced (Except RoutingFault Routing) :=
  let run := routesOfCircuit layout connections
  match run.value with
  | .error fault => ⟨.error fault, run.events⟩
  | .ok (routes, switches) =>
    ⟨.ok ⟨routes, run.errors, switches⟩,
      run.events ++ [.routingComplete routes.length run.errors.length]⟩

end Crossbar
