import Crossbar.Proofs.Matrix
import Crossbar.Proofs.Payload
import Crossbar.Routing.Load

/-!
# Three forms of a circuit

A circuit can be stored as the table of its routes, as the configuration of a
cluster and as the request that configures the cluster.  Loading reads the first
directly, the second through the matrix and the third through the blocks of a
payload.  All three give the same circuit, whatever layout it is loaded for.
-/

namespace Crossbar

namespace LoadedCircuit

/-- The circuit of routes that were read without an error. -/
def ofRoutes (layout : Layout) (routes : List Route) (switches : AuxSwitches)
    (integrators : IntegratorBank) : LoadedCircuit :=
  ⟨⟨routes, [], switches⟩, integrators, (expand layout switches routes).value⟩

end LoadedCircuit

namespace CircuitFile

/-- Loading expands the routing that a file holds. -/
theorem value_load_eq_ok_iff {file : CircuitFile} {layout : Layout} {circuit : LoadedCircuit} :
    (file.load layout).value = .ok circuit ↔
      file.contents.value = .ok (circuit.routing, circuit.integrators) ∧
        circuit.connections =
          (expand layout circuit.routing.switches circuit.routing.routes).value := by
  obtain ⟨routing, integrators, connections⟩ := circuit
  rw [load, Traced.value_bind]
  cases file.contents.value with
  | error error =>
      simp
  | ok held =>
      obtain ⟨heldRouting, heldIntegrators⟩ := held
      constructor
      · intro loads
        cases loads
        exact ⟨rfl, rfl⟩
      · rintro ⟨sameContents, expanded⟩
        cases sameContents
        dsimp only at expanded
        rw [expanded]
        rfl

/-- What a request holds is read as a cluster and conflicts. -/
theorem exists_cluster_of_contents {request : ConfigRequest} {routing : Routing}
    {integrators : IntegratorBank}
    (held : (CircuitFile.ofRequest request).contents.value = .ok (routing, integrators)) :
    ∃ cluster conflicts, request.blocks.toClusterLenient.value = .ok (cluster, conflicts) ∧
      routing.routes = cluster.matrix.routes ∧
      routing.errors = conflicts.map conflictError := by
  rw [contents, Traced.value_bind] at held
  cases reads : request.blocks.toClusterLenient.value with
  | error error =>
      rw [reads] at held
      cases held
  | ok result =>
      obtain ⟨cluster, conflicts⟩ := result
      rw [reads] at held
      cases held
      exact ⟨cluster, conflicts, rfl, rfl, rfl⟩

/-! ## Each form -/

theorem value_load_ofTable (loading : Layout) (title description : Option String)
    (routes : List Route) (switches : AuxSwitches) (integrators : IntegratorBank) :
    (load (.ofTable ⟨title, description, routes, some switches, some integrators⟩)
      loading).value = .ok (.ofRoutes loading routes switches integrators) :=
  rfl

theorem value_load_ofCluster (loading : Layout) (cluster : Cluster) :
    (load (.ofCluster cluster) loading).value =
      .ok (.ofRoutes loading cluster.matrix.routes cluster.switches cluster.integrators) :=
  rfl

/-- A request that reads as a cluster is loaded like the cluster. -/
theorem value_load_ofRequest (loading : Layout) {request : ConfigRequest} {cluster : Cluster}
    (reads : request.payload.ReadsAs cluster) :
    (load (.ofRequest request) loading).value = (load (.ofCluster cluster) loading).value := by
  have decoded : request.blocks.toClusterLenient.value = .ok (cluster, []) := reads.2
  simp only [load, contents, Traced.value_bind, decoded]
  rfl

/-! ## All forms -/

theorem value_load_toCluster (loading : Layout) (integrators : IntegratorBank)
    {routing : Routing} (distinct : (routing.routes.map Route.lane).Nodup) :
    (load (.ofCluster (routing.toCluster integrators).value) loading).value =
      .ok (.ofRoutes loading (Route.weightedByLane routing.routes) routing.switches
        integrators) := by
  rw [← Matrix.routes_ofRoutes distinct]
  exact value_load_ofCluster loading (routing.toCluster integrators).value

/-- The weighted routes of a routing are loaded from a table as from the cluster that
they are laid out on, and as from the request that configures it. -/
theorem load_alike (encoding loading : Layout) (entity : Json)
    (device place : String) (title description : Option String) (integrators : IntegratorBank)
    {routing : Routing} (hasSlot : .integrators ∈ encoding.slots)
    (distinct : (routing.routes.map Route.lane).Nodup) :
    let table : RouteTable := ⟨title, description, Route.weightedByLane routing.routes,
      some routing.switches, some integrators⟩
    let cluster := (routing.toCluster integrators).value
    let request := ConfigRequest.addressed device place (Payload.ofCluster encoding entity cluster)
    let circuit := LoadedCircuit.ofRoutes loading (Route.weightedByLane routing.routes)
      routing.switches integrators
    (load (.ofTable table) loading).value = .ok circuit ∧
      (load (.ofCluster cluster) loading).value = .ok circuit ∧
      (load (.ofRequest request) loading).value = .ok circuit := by
  intro table cluster request circuit
  have fromCluster := value_load_toCluster loading integrators distinct
  have allKept : BlockTree.kept encoding cluster = cluster := by
    rw [BlockTree.kept_eq, if_pos hasSlot]
  have reads : request.payload.ReadsAs cluster := by
    have readsKept := Payload.readsAs_kept encoding entity cluster
    rw [allKept] at readsKept
    exact Payload.readsAs_addressed device place readsKept
  refine ⟨value_load_ofTable loading title description _ _ _, fromCluster, ?_⟩
  rw [value_load_ofRequest loading reads]
  exact fromCluster

/-- Two routes out of order, one of them with a coefficient that is no number, and a
tap without a weight. -/
def storedRouting : Routing where
  routes := [Route.ofNumbers? 9 8 (0.0 / 0.0) (some 3), Route.ofNumbers? 20 1 0.0 none,
    Route.ofNumbers? 4 7 (-0.5) (some 11)].reduceOption
  errors := []
  switches := AuxSwitches.off.setReference true

/-- The tap is in no form, and the constant keeps its place before the other source. -/
theorem load_alike_storedRouting :
    .integrators ∈ Layout.standard.slots ∧ (storedRouting.routes.map Route.lane).Nodup ∧
      ∃ circuit : LoadedCircuit,
        (load (.ofCluster (storedRouting.toCluster .reset).value)
          ⟨.integrators, .multipliers⟩).value = .ok circuit ∧
        (load (.ofRequest (ConfigRequest.addressed "device" "0" (Payload.ofCluster .standard
          .null (storedRouting.toCluster .reset).value))) ⟨.integrators, .multipliers⟩).value =
            .ok circuit ∧
        circuit.routing.routes.map Route.lane = [4, 9] ∧
        circuit.connections.map Connection.text = ["Const0source -> Pot4in", "Pot4out -> Mul1b",
          "Mul0out -> Pot9in", "Pot9out -> Int3in"] := by
  have hasSlot : .integrators ∈ Layout.standard.slots := by decide
  have distinct : (storedRouting.routes.map Route.lane).Nodup := by decide
  obtain ⟨_, fromCluster, fromRequest⟩ := load_alike .standard ⟨.integrators, .multipliers⟩ .null
    "device" "0" none none .reset hasSlot distinct
  refine ⟨hasSlot, distinct, _, fromCluster, fromRequest, ?_, ?_⟩
  · rw [← Matrix.routes_ofRoutes distinct]
    decide +kernel
  · rw [← Matrix.routes_ofRoutes distinct]
    decide +kernel

end CircuitFile

end Crossbar
