import Crossbar.Proofs.Load
import Crossbar.Proofs.Recompile

/-!
# From a circuit to the device and back

A complete routing is encoded as the request that configures a cluster, loaded
from that request and compiled again.  The taps disappear in the matrix, and so
do routes with coefficient zero; everything else comes back.  The lanes come back
too if the external inputs were on their own lanes, for otherwise their routes
move there.
-/

namespace Crossbar

namespace Pipeline

variable {layout : Layout} {connections : List Connection} {integrators : IntegratorBank}
  {routing : Routing} {route : Route}

/-! ## Encoding and loading -/

/-- The request that configures a cluster for a routing. -/
def encode (layout : Layout) (entity : Json) (device cluster : String)
    (integrators : IntegratorBank) (routing : Routing) : ConfigRequest :=
  ConfigRequest.addressed device cluster
    (Payload.ofCluster layout entity (routing.toCluster integrators).value)

/-- What is loaded: the weighted routes by lane, and their expansion. -/
def reloaded (layout : Layout) (integrators : IntegratorBank) (routing : Routing) :
    LoadedCircuit where
  routing := ⟨Route.weightedByLane routing.routes, [], routing.switches⟩
  integrators := BlockTree.keptIntegrators layout integrators
  connections := (expand layout routing.switches (Route.weightedByLane routing.routes)).value

theorem value_load_encode (entity : Json) (device cluster : String)
    (distinct : (routing.routes.map Route.lane).Nodup) :
    (CircuitFile.load (.ofRequest (encode layout entity device cluster integrators routing))
      layout).value = .ok (reloaded layout integrators routing) := by
  have reads := Payload.readsAs_addressed device cluster
    (Payload.readsAs_kept layout entity (routing.toCluster integrators).value)
  have laidOut : BlockTree.kept layout (routing.toCluster integrators).value =
      (routing.toCluster (BlockTree.keptIntegrators layout integrators)).value :=
    rfl
  rw [encode, CircuitFile.value_load_ofRequest layout reads, laidOut,
    CircuitFile.value_load_toCluster layout _ distinct]
  rfl

/-! ## What is loaded can be compiled -/

theorem mem_routes_of_mem_weightedByLane {routes : List Route}
    (member : route ∈ Route.weightedByLane routes) : route ∈ routes :=
  (Route.mem_weightedByLane.mp member).1

theorem not_isWeighted_zero (unweighted : route.coefficient = 0.0) :
    route.isWeighted = false := by
  rw [Route.isWeighted, unweighted]
  decide

/-- A weighted route of a compiled circuit survives expanding and compiling. -/
theorem recompilable_of_compiled
    (member : route ∈ (Compilation.routing layout connections).routes)
    (isWeighted : route.isWeighted = true) :
    Expansion.Recompilable layout (Compilation.switches layout connections) route := by
  obtain ⟨resolved, sound, compiledFrom⟩ := Compilation.exists_sound_of_mem member
  have bounds := Link.bounds_of_inRange (compiledFrom.inRange sound)
  refine ⟨⟨bounds.1, bounds.2.1⟩, ?_, ?_⟩
  · cases compiledFrom.carries with
    | channel channel _ _ place on => exact Or.inl (Or.inl ⟨channel, place, on⟩)
    | reference _ place on => exact Or.inl (Or.inr ⟨place, on⟩)
    | block wired =>
        refine Or.inr ?_
        rw [← sound.leavesOutput, Layout.portAt_of_crossLaneOf wired]
        exact Layout.kind_of_crossLaneOf wired
  · refine Or.inl fun tap => ?_
    rw [not_isWeighted_zero (compiledFrom.coefficient_of_tap tap)] at isWeighted
    cases isWeighted

theorem recompiled_reloaded (layout : Layout) (connections : List Connection)
    (integrators : IntegratorBank) :
    (compile layout (reloaded layout integrators
        (Compilation.routing layout connections)).connections).value =
        .ok (Compilation.routing layout
          (reloaded layout integrators (Compilation.routing layout connections)).connections) ∧
      Expansion.Recompiled layout (Compilation.switches layout connections)
        (Route.weightedByLane (Compilation.routing layout connections).routes)
        (Compilation.routing layout
          (reloaded layout integrators (Compilation.routing layout connections)).connections) := by
  apply Expansion.recompiled_routing
  · have lanes := (Route.weightedByLane_perm
      (Compilation.routing layout connections).routes).map Route.lane
    refine lanes.nodup_iff.mpr ?_
    exact (Compilation.nodup_lanes layout connections).sublist (List.filter_sublist.map Route.lane)
  · intro route member
    obtain ⟨inRoutes, isWeighted⟩ := Route.mem_weightedByLane.mp member
    exact recompilable_of_compiled inRoutes isWeighted

/-! ## The auxiliary signals come back -/

/-- No route from an external input or a constant is lost in the matrix. -/
def Weighted (routing : Routing) : Prop :=
  ∀ route ∈ routing.routes, routing.switches.Overrides route.input → route.isWeighted = true

instance (routing : Routing) : Decidable (Weighted routing) :=
  inferInstanceAs (Decidable (∀ route ∈ routing.routes, _))

/-- A pinned placement of a complete circuit has a route, and the route is kept if
it starts at an external input or a constant. -/
theorem exists_weighted_route {placement : Placement}
    (complete : Compilation.errors layout connections = [])
    (weighted : Weighted (Compilation.routing layout connections))
    (member : placement ∈ Compilation.pinned layout connections)
    (isVirtual : placement.wire.source.kind.isVirtual = true)
    (overridden : (Compilation.switches layout connections).Overrides placement.input) :
    ∃ route ∈ Route.weightedByLane (Compilation.routing layout connections).routes,
      route.input = placement.input := by
  have origins := Compilation.pinned_origins layout connections
  have noErrors : (Compilation.pinnedRoutes layout connections).errors = [] := by
    simp only [Compilation.errors, List.append_eq_nil_iff] at complete
    exact complete.2.2.1
  have visible : ¬placement.Hidden layout (Compilation.switches layout connections) :=
    Placement.not_hidden_of_isVirtual isVirtual
  obtain ⟨route, routeMember, onLane⟩ := Compilation.exists_route_of_visible
    (Compilation.feeds_of_origins origins) noErrors member visible
  have inRoutes : route ∈ (Compilation.routing layout connections).routes :=
    List.mem_append_left _ routeMember
  have sameInput : route.input = placement.input := by
    rw [onLane]
    rfl
  have isWeighted : route.isWeighted = true := by
    apply weighted route inRoutes
    rw [sameInput]
    exact overridden
  exact ⟨route, Route.mem_weightedByLane.mpr ⟨inRoutes, isWeighted⟩, sameInput⟩

theorem switches_recompiled (complete : Compilation.errors layout connections = [])
    (weighted : Weighted (Compilation.routing layout connections)) {second : Routing}
    (recompiled : Expansion.Recompiled layout (Compilation.switches layout connections)
      (Route.weightedByLane (Compilation.routing layout connections).routes) second) :
    second.switches = Compilation.switches layout connections := by
  apply AuxSwitches.eq_of_hasInput
  · intro channel
    rw [recompiled.inputs channel]
    refine and_iff_left_of_imp fun on => ?_
    obtain ⟨placement, member, kind, place⟩ := Placement.hasInput_switches.mp on
    have isVirtual : placement.wire.source.kind.isVirtual = true := by
      rw [kind]
      rfl
    obtain ⟨route, routeMember, sameInput⟩ := exists_weighted_route complete weighted member
      isVirtual (Or.inl ⟨channel, place, on⟩)
    refine ⟨route, routeMember, ?_⟩
    rw [sameInput]
    exact place
  · rw [recompiled.reference]
    refine and_iff_left_of_imp fun on => ?_
    obtain ⟨placement, member, kind⟩ := Placement.reference_switches.mp on
    have isVirtual : placement.wire.source.kind.isVirtual = true := by
      rw [kind]
      rfl
    have feeds := Compilation.feeds_of_origins (Compilation.pinned_origins layout connections)
      placement member
    have place : placement.input.val = 7 := feeds.place_of_constant kind
    obtain ⟨route, routeMember, sameInput⟩ := exists_weighted_route complete weighted member
      isVirtual (Or.inr ⟨place, on⟩)
    refine ⟨route, routeMember, ?_⟩
    rw [sameInput]
    exact place

/-! ## The whole way -/

/-- What survives the way to the device and back. -/
structure Preserves (layout : Layout) (integrators : IntegratorBank) (first : Routing)
    (loaded : LoadedCircuit) (second : Routing) : Prop where
  loadedErrors : loaded.routing.errors = []
  errors : second.errors = []
  switches : second.switches = first.switches
  signals : (second.routes.map Route.signal).Perm
    ((first.routes.filter Route.isWeighted).map Route.signal)
  integrators : layout.integratorSlot?.isSome = true → loaded.integrators = integrators
  /-- The lanes stay when every route from an external input is on its own lane. -/
  lanes : (∀ route ∈ first.routes, ∀ channel : Channel, route.input.val = 8 + channel.val →
      first.switches.hasInput channel.val = true → route.lane.val = 16 + channel.val) →
    Route.weightedByLane second.routes = Route.weightedByLane first.routes

/-- A complete routing whose external inputs and constants are weighted comes back
from the request that holds it. -/
theorem preserves_of_compile {first : Routing} (entity : Json) (device cluster : String)
    (compiled : (compile layout connections).value = .ok first) (complete : first.errors = [])
    (weighted : Weighted first) :
    ∃ loaded second,
      (CircuitFile.load (.ofRequest (encode layout entity device cluster integrators first))
        layout).value = .ok loaded ∧
      (compile layout loaded.connections).value = .ok second ∧
      Preserves layout integrators first loaded second := by
  obtain ⟨_, rfl⟩ := Compilation.compile_eq_ok_iff.mp compiled
  have distinct := Compilation.nodup_lanes layout connections
  obtain ⟨again, recompiled⟩ := recompiled_reloaded layout connections integrators
  have kept := Route.weightedByLane_perm (Compilation.routing layout connections).routes
  have keptDistinct : ((Route.weightedByLane
      (Compilation.routing layout connections).routes).map Route.lane).Nodup :=
    (kept.map Route.lane).nodup_iff.mpr (distinct.sublist (List.filter_sublist.map Route.lane))
  refine ⟨_, _, value_load_encode entity device cluster distinct, again, rfl,
    recompiled.noErrors, switches_recompiled complete weighted recompiled,
    recompiled.signals.trans (kept.map Route.signal), ?_, ?_⟩
  · intro hasSlot
    exact if_pos hasSlot
  · intro ownLanes
    have sameRoutes := recompiled.lanes fun route member channel place on =>
      ownLanes route (mem_routes_of_mem_weightedByLane member) channel place on
    rw [Route.weightedByLane_eq_of_perm sameRoutes keptDistinct]
    exact Route.weightedByLane_idem keptDistinct

/-- A loop of integrators, a multiplier driven by an external input that also goes
elsewhere and by a constant, and a converter channel that listens to it. -/
def drivenCircuit : List Connection :=
  open Compilation in
  [wired? (port? .integrator 0 .output) (port? .potentiometer 0 .input) (some (-1.0)),
    wired? (port? .potentiometer 0 .output) (port? .integrator 1 .input) none,
    wired? (port? .integrator 1 .output) (port? .integrator 0 .input) none,
    wired? (port? .externalInput 2 .source) (port? .potentiometer 5 .input) (some 0.5),
    wired? (port? .potentiometer 5 .output) (port? .multiplier 0 .a) none,
    wired? (port? .potentiometer 5 .output) (port? .integrator 2 .input) none,
    wired? (port? .constant 0 .source) (port? .potentiometer 6 .input) (some 0.25),
    wired? (port? .potentiometer 6 .output) (port? .multiplier 0 .b) none,
    wired? (port? .multiplier 0 .output) (port? .integrator 3 .input) none,
    wired? (port? .multiplier 0 .output) (port? .converter 0 .sink) none].reduceOption

theorem preserves_drivenCircuit :
    (compile .standard drivenCircuit).value =
        .ok (Compilation.routing .standard drivenCircuit) ∧
      (Compilation.routing .standard drivenCircuit).errors = [] ∧
      Weighted (Compilation.routing .standard drivenCircuit) ∧
      ∃ loaded second,
        (CircuitFile.load (.ofRequest (encode .standard .null "device" "cluster" .reset
          (Compilation.routing .standard drivenCircuit))) .standard).value = .ok loaded ∧
        (compile .standard loaded.connections).value = .ok second ∧
        Preserves .standard .reset (Compilation.routing .standard drivenCircuit) loaded
          second := by
  have compiled : (compile .standard drivenCircuit).value =
      .ok (Compilation.routing .standard drivenCircuit) :=
    Compilation.value_compile_of_isOk (by decide +kernel)
  have complete : (Compilation.routing .standard drivenCircuit).errors = [] :=
    List.isEmpty_iff.mp (by decide +kernel)
  have weighted : Weighted (Compilation.routing .standard drivenCircuit) := by
    decide +kernel
  exact ⟨compiled, complete, weighted,
    preserves_of_compile .null "device" "cluster" compiled complete weighted⟩

end Pipeline

end Crossbar
