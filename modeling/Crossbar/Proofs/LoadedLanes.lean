import Crossbar.Proofs.Expand
import Crossbar.Proofs.Load

/-!
# Lanes of loaded circuits

A matrix has one route for every lane at most, so the routes that are read from a cluster
or a request have distinct lanes.  A table of routes is taken as it is.  When two of its
routes share a lane, the potentiometer of that lane is fed and left twice in the
expansion, and the sources of the routes cannot be told apart any more.
-/

namespace Crossbar

/-! ## Halves of potentiometers -/

/-- A connection feeds the potentiometer with a number. -/
def Connection.feeds (number : UInt32) (connection : Connection) : Bool :=
  connection.target.port = .potentiometer number .sink

/-- A connection leaves the potentiometer with a number. -/
def Connection.leaves (number : UInt32) (connection : Connection) : Bool :=
  connection.source.port = .potentiometer number .source

namespace Expansion

variable {layout : Layout} {switches : AuxSwitches} {route : Route} {routes rest : List Route}
  {constants : Nat} {target : Port} {number : UInt32}

theorem potentiometer_inj {first second : UInt32} {direction : Direction} :
    Port.potentiometer first direction = Port.potentiometer second direction ↔
      first = second := by
  cases direction <;> simp [Port.potentiometer, Port.ofTerminal]

/-- A route feeds the potentiometer of its lane once, and no other. -/
theorem countP_feeds_halves (heard : target? layout route = some target) :
    (halves route (source layout switches route constants) target).countP
        (Connection.feeds number) =
      if route.lane.val.toUInt32 = number then 1 else 0 := by
  have notTarget : target ≠ .potentiometer number .sink := by
    rintro rfl
    exact (target_shape heard).2.2 rfl
  simp [halves, Connection.feeds, Endpoint.bare, potentiometer_inj, notTarget,
    List.countP_cons]

theorem countP_leaves_halves :
    (halves route (source layout switches route constants) target).countP
        (Connection.leaves number) =
      if route.lane.val.toUInt32 = number then 1 else 0 := by
  have notSource : source layout switches route constants ≠ .potentiometer number .source := by
    intro same
    have kind := (source_shape layout switches route constants).2.2
    rw [same] at kind
    exact kind rfl
  simp [halves, Connection.leaves, Endpoint.bare, potentiometer_inj, notSource,
    List.countP_cons]

/-- A property of one half of every route is counted by the lanes of the routes. -/
theorem countP_ofRoutes {test : Connection → Bool}
    (once : ∀ route constants target, target? layout route = some target →
      (halves route (source layout switches route constants) target).countP test =
        if route.lane.val.toUInt32 = number then 1 else 0)
    (constants : Nat) (routes : List Route) :
    (ofRoutes layout switches constants routes).value.countP test =
      (routes.filter (isHeard layout)).countP fun route => route.lane.val.toUInt32 = number := by
  induction routes generalizing constants with
  | nil =>
      rfl
  | cons route rest inductionHypothesis =>
      cases heard : target? layout route with
      | none =>
          rw [value_ofRoutes_unheard heard, inductionHypothesis,
            List.filter_cons_of_neg (by simp [isHeard, heard])]
      | some target =>
          rw [value_ofRoutes_heard heard, List.countP_append, once route constants target heard,
            inductionHypothesis, List.filter_cons_of_pos (by simp [isHeard, heard]),
            List.countP_cons, Nat.add_comm]
          simp

/-- The expansion feeds and leaves a potentiometer once for every route on its lane. -/
theorem countP_expand (layout : Layout) (switches : AuxSwitches) (routes : List Route)
    (number : UInt32) :
    (expand layout switches routes).value.countP (Connection.feeds number) =
        (routes.filter (isHeard layout)).countP (fun route => route.lane.val.toUInt32 = number) ∧
      (expand layout switches routes).value.countP (Connection.leaves number) =
        (routes.filter (isHeard layout)).countP fun route => route.lane.val.toUInt32 = number := by
  rw [value_expand]
  exact ⟨countP_ofRoutes (fun _ _ _ heard => countP_feeds_halves heard) 0 routes,
    countP_ofRoutes (fun _ _ _ _ => countP_leaves_halves) 0 routes⟩

theorem countP_lane_le (layout : Layout) (distinct : (routes.map Route.lane).Nodup)
    (number : UInt32) :
    (routes.filter (isHeard layout)).countP (fun route => route.lane.val.toUInt32 = number) ≤
      1 := by
  have distinctNumbers : ((routes.map Route.lane).map fun lane => lane.val.toUInt32).Nodup :=
    distinct.map Lane.toUInt32_injective
  have atMostOnce := List.nodup_iff_count_le_one.mp distinctNumbers number
  rw [List.map_map, List.count, List.countP_map] at atMostOnce
  calc
    _ ≤ routes.countP fun route => route.lane.val.toUInt32 = number :=
      List.filter_sublist.countP_le
    _ ≤ 1 := by
      simpa only [Function.comp_def, beq_eq_decide] using atMostOnce

end Expansion

/-! ## Loaded circuits -/

namespace CircuitFile

variable {file : CircuitFile} {layout : Layout} {circuit : LoadedCircuit}

/-- The routes of a circuit have distinct lanes, and every potentiometer in its
connections is fed once and left once. -/
structure LanesApart (circuit : LoadedCircuit) : Prop where
  distinct : (circuit.routing.routes.map Route.lane).Nodup
  paired : ∀ connection ∈ circuit.connections, ∀ number,
    connection.feeds number = true ∨ connection.leaves number = true →
      circuit.connections.countP (Connection.feeds number) = 1 ∧
        circuit.connections.countP (Connection.leaves number) = 1

theorem lanesApart_of_nodup (loads : (file.load layout).value = .ok circuit)
    (distinct : (circuit.routing.routes.map Route.lane).Nodup) : LanesApart circuit := by
  refine ⟨distinct, fun connection member number half => ?_⟩
  rw [(value_load_eq_ok_iff.mp loads).2] at member ⊢
  obtain ⟨fed, left⟩ :=
    Expansion.countP_expand layout circuit.routing.switches circuit.routing.routes number
  have atMostOnce := Expansion.countP_lane_le layout distinct number
  rcases half with feeds | leaves
  · have someFed := List.countP_pos_iff.mpr ⟨connection, member, feeds⟩
    omega
  · have someLeft := List.countP_pos_iff.mpr ⟨connection, member, leaves⟩
    omega

/-- A matrix has distinct lanes, and a table has those that were written down. -/
theorem nodup_of_contents {routing : Routing} {integrators : IntegratorBank}
    (held : file.contents.value = .ok (routing, integrators))
    (tableDistinct : ∀ table, file = .ofTable table → (table.routes.map Route.lane).Nodup) :
    (routing.routes.map Route.lane).Nodup := by
  cases file with
  | ofTable table =>
      cases held
      exact tableDistinct table rfl
  | ofCluster cluster =>
      cases held
      exact cluster.matrix.nodup_lanes_routes
  | ofRequest request =>
      obtain ⟨cluster, _, _, routes, _⟩ := exists_cluster_of_contents held
      rw [routes]
      exact cluster.matrix.nodup_lanes_routes

/-- A loaded circuit keeps its lanes apart unless it is read from a table that does not. -/
theorem lanesApart_iff (loads : (file.load layout).value = .ok circuit) :
    LanesApart circuit ↔
      ∀ table, file = .ofTable table → (table.routes.map Route.lane).Nodup := by
  have held := (value_load_eq_ok_iff.mp loads).1
  constructor
  · rintro ⟨distinct, _⟩ table rfl
    have sameRouting := (Prod.mk.inj (Except.ok.inj held)).1
    rwa [← sameRouting] at distinct
  · exact fun tableDistinct => lanesApart_of_nodup loads (nodup_of_contents held tableDistinct)

/-- A table with two taps and a route between them. -/
def tappedTable : RouteTable :=
  ⟨none, none, [Route.ofNumbers? 9 8 0.0 none, Route.ofNumbers? 4 3 (-0.5) (some 1),
    Route.ofNumbers? 20 8 0.0 none].reduceOption, none, none⟩

/-- The tap that nobody listens to is not expanded. -/
theorem lanesApart_tappedTable :
    ∃ circuit, ((CircuitFile.ofTable tappedTable).load .standard).value = .ok circuit ∧
      LanesApart circuit ∧
      circuit.connections.map Connection.text = ["Int0out -> Pot9in", "Pot9out -> Extout1sink",
        "Mul3out -> Pot4in", "Pot4out -> Mul0b"] := by
  have loads : ((CircuitFile.ofTable tappedTable).load .standard).value =
      .ok (.ofRoutes .standard tappedTable.routes .off .reset) :=
    rfl
  refine ⟨_, loads, (lanesApart_iff loads).mpr ?_, by decide +kernel⟩
  intro table same
  cases same
  decide

def crossedTable : RouteTable :=
  ⟨none, none, [Route.ofNumbers? 0 8 1.0 (some 9),
    Route.ofNumbers? 0 9 (-1.0) (some 8)].reduceOption, none, none⟩

/-- The potentiometer of lane 0 is fed by two integrators. -/
theorem not_lanesApart_crossedTable :
    ∃ circuit, ((CircuitFile.ofTable crossedTable).load .standard).value = .ok circuit ∧
      circuit.routing.routes.map Route.lane = [0, 0] ∧
      circuit.connections.map Connection.text = ["Int0out -> Pot0in", "Pot0out -> Int1in",
        "Int1out -> Pot0in", "Pot0out -> Int0in"] ∧
      circuit.connections.countP (Connection.feeds 0) = 2 ∧ ¬LanesApart circuit := by
  refine ⟨_, rfl, by decide +kernel, by decide +kernel, by decide +kernel, ?_⟩
  rintro ⟨distinct, _⟩
  revert distinct
  decide +kernel

end CircuitFile

end Crossbar
