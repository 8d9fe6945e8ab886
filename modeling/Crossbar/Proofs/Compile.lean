import Crossbar.Proofs.Stages

/-!
# Well-formed routings

A route is compiled from a resolved connection when it is a placement of it on
some lane and when its cross-lane carries the source of the connection under the
auxiliary signals of the circuit.  The routes of a compiled circuit keep the
order of the connections they are compiled from, the pinned ones first.  They
have distinct lanes and coefficients in range, and only taps have no output.
-/

namespace Crossbar.Compilation

variable {layout : Layout} {connections : List Connection} {switches : AuxSwitches}
  {placement : Placement} {route : Route} {resolved : Resolved}

/-! ## What cross-lanes carry -/

/-- A cross-lane carries the signal of a port. -/
inductive Carries (layout : Layout) (switches : AuxSwitches) (source : Port)
    (input : CrossLane) : Prop
  | channel (channel : Channel) (kind : source.kind = .externalInput)
      (number : source.number.toNat = channel.val) (place : input.val = 8 + channel.val)
      (on : switches.hasInput channel.val = true)
  | reference (kind : source.kind = .constant) (place : input.val = 7)
      (on : switches.reference = true)
  | block (wired : layout.crossLaneOf source = some input) (own : ¬switches.Overrides input)

theorem Carries.of_externalInput {source : Port} {input : CrossLane}
    (carries : Carries layout switches source input) (kind : source.kind = .externalInput) :
    ∃ channel : Channel, input.val = 8 + channel.val ∧ switches.hasInput channel.val = true := by
  cases carries with
  | channel channel _ _ place on =>
      exact ⟨channel, place, on⟩
  | reference constant =>
      rw [constant] at kind
      cases kind
  | block wired =>
      exact absurd kind (Layout.kind_ne_of_crossLaneOf wired rfl)

theorem Carries.on_of_externalInput {source : Port} {input : CrossLane} {channel : Channel}
    (carries : Carries layout switches source input) (kind : source.kind = .externalInput)
    (place : input.val = 8 + channel.val) : switches.hasInput channel.val = true := by
  obtain ⟨found, foundPlace, on⟩ := carries.of_externalInput kind
  obtain rfl : found = channel := Fin.ext (by omega)
  exact on

theorem Carries.on_of_constant {source : Port} {input : CrossLane}
    (carries : Carries layout switches source input) (kind : source.kind = .constant) :
    input.val = 7 ∧ switches.reference = true := by
  cases carries with
  | channel _ external =>
      rw [external] at kind
      cases kind
  | reference _ place on => exact ⟨place, on⟩
  | block wired =>
      exact absurd kind (Layout.kind_ne_of_crossLaneOf wired rfl)

theorem Carries.wired_of_block {source : Port} {input : CrossLane}
    (carries : Carries layout switches source input)
    (block : source.kind = .multiplier ∨ source.kind = .integrator) :
    layout.crossLaneOf source = some input := by
  cases carries with
  | channel _ kind => simp [kind] at block
  | reference kind => simp [kind] at block
  | block wired => exact wired

/-- A route is a placement of a resolved connection on some lane, with nothing but
the lane changed, and reads the source of the connection. -/
def CompiledFrom (layout : Layout) (switches : AuxSwitches) (route : Route)
    (resolved : Resolved) : Prop :=
  ∃ placement, Placement.Placed layout resolved placement ∧
    Carries layout switches resolved.wire.source route.input ∧
    route = ⟨route.lane, placement.input, placement.coefficient, placement.output⟩

/-! ## The placements of a circuit -/

theorem sound_of_mem_virtual (member : resolved ∈ virtual connections) : resolved.Sound :=
  Resolved.sound_of_mem (List.mem_of_mem_filter member)

theorem sound_of_mem_physical (member : resolved ∈ physical connections) : resolved.Sound :=
  Resolved.sound_of_mem (List.mem_of_mem_filter member)

theorem pinned_origins (layout : Layout) (connections : List Connection) :
    List.SublistForall₂ (fun placement resolved => Placement.Placed layout resolved placement)
      (pinned layout connections) (virtual connections) := by
  refine sublistForall₂_imp ?_ (Placement.outcomes_origins layout (virtual connections))
  intro placement resolved member placed
  have isVirtual := (List.mem_filter.mp member).2
  exact Placement.placed_of_pin (sound_of_mem_virtual member) isVirtual placed

theorem placed_origins (layout : Layout) (connections : List Connection) :
    List.SublistForall₂ (fun placement resolved => Placement.Placed layout resolved placement)
      (placed layout connections) (physical connections) :=
  Placement.placeAll_origins layout (physical connections)

/-- Without an error every connection with a virtual element is pinned. -/
theorem aligned_pinned (unstopped : Placement.Unstopped layout (virtual connections))
    (complete : Traced.failures (Placement.outcomes layout (virtual connections)) = []) :
    List.Forall₂ (fun placement resolved => Placement.Placed layout resolved placement)
      (pinned layout connections) (virtual connections) :=
  forall₂_of_sublistForall₂ (pinned_origins layout connections)
    (Placement.aligned_outcomes unstopped complete).length_eq

theorem feeds_of_origins {placements : List Placement} {items : List Resolved}
    (origins : List.SublistForall₂
      (fun placement resolved => Placement.Placed layout resolved placement) placements items) :
    ∀ placement ∈ placements,
      Placement.Feeds layout placement.wire.source placement.input := by
  intro placement member
  obtain ⟨resolved, _, isPlaced⟩ := exists_origin origins member
  exact isPlaced.feeds

/-- A pinned placement that is not hidden reads its source. -/
theorem carries_of_pinned (member : placement ∈ pinned layout connections)
    (feeds : Placement.Feeds layout placement.wire.source placement.input)
    (visible : ¬placement.Hidden layout (Compilation.switches layout connections)) :
    Carries layout (Compilation.switches layout connections) placement.wire.source
      placement.input := by
  cases feeds with
  | channel channel kind number place =>
      have on := Placement.hasInput_switches.mpr ⟨placement, member, kind, place⟩
      exact Carries.channel channel kind number place on
  | reference kind place =>
      have on := Placement.reference_switches.mpr ⟨placement, member, kind⟩
      exact Carries.reference kind place on
  | block wired =>
      exact Carries.block wired fun overridden =>
        visible ((Placement.hidden_iff_of_wired wired).mpr overridden)

/-- A flexible placement that is not hidden reads its source. -/
theorem carries_of_placed (member : placement ∈ placed layout connections)
    (visible : ¬placement.Hidden layout switches) :
    Carries layout switches placement.wire.source placement.input := by
  obtain ⟨resolved, resolvedMember, isPlaced⟩ :=
    exists_origin (placed_origins layout connections) member
  have bothPhysical := (List.mem_filter.mp resolvedMember).2
  rw [Bool.not_eq_true', Resolved.isVirtual, Bool.or_eq_false_iff, ← isPlaced.wire_eq]
    at bothPhysical
  have physicalSource : placement.wire.source.kind.isVirtual = false := bothPhysical.1
  cases isPlaced.feeds with
  | channel channel kind number place =>
      rw [kind] at physicalSource
      cases physicalSource
  | reference kind place =>
      rw [kind] at physicalSource
      cases physicalSource
  | block wired =>
      exact Carries.block wired fun overridden =>
        visible ((Placement.hidden_iff_of_wired wired).mpr overridden)

/-! ## The routes of a group -/

theorem value_routesOf {group : Group} {kept : LaneSet} {placements : List Placement}
    (feeds : ∀ placement ∈ placements,
      Placement.Feeds layout placement.wire.source placement.input) :
    (routesOf group switches kept placements).value =
      (LaneAssignment.settle group kept
        (placements.filter fun placement => ¬placement.Hidden layout switches)).value := by
  rw [← Placement.value_dropShadowed feeds]
  rfl

theorem errors_routesOf {group : Group} {kept : LaneSet} {placements : List Placement}
    (feeds : ∀ placement ∈ placements,
      Placement.Feeds layout placement.wire.source placement.input) :
    (routesOf group switches kept placements).errors =
      (Placement.dropShadowed switches placements).errors ++
        (LaneAssignment.settle group kept
          (placements.filter fun placement => ¬placement.Hidden layout switches)).errors := by
  rw [← Placement.value_dropShadowed feeds, routesOf, Traced.errors_bind]

/-- A group without errors has a route for every placement that is not hidden. -/
theorem exists_route_of_visible {group : Group} {kept : LaneSet} {placements : List Placement}
    (feeds : ∀ placement ∈ placements,
      Placement.Feeds layout placement.wire.source placement.input)
    (noErrors : (routesOf group switches kept placements).errors = [])
    (member : placement ∈ placements) (visible : ¬placement.Hidden layout switches) :
    ∃ route ∈ (routesOf group switches kept placements).value,
      route = placement.onLane route.lane := by
  rw [errors_routesOf feeds, List.append_eq_nil_iff] at noErrors
  rw [value_routesOf feeds]
  refine exists_result (LaneAssignment.aligned_settle noErrors.2) ?_
  exact List.mem_filter.mpr ⟨member, by simpa using visible⟩

/-- Without an error nothing is hidden, and all placements are settled. -/
theorem routesOf_of_complete {group : Group} {kept : LaneSet} {placements : List Placement}
    (feeds : ∀ placement ∈ placements,
      Placement.Feeds layout placement.wire.source placement.input)
    (complete : (routesOf group switches kept placements).errors = []) :
    (routesOf group switches kept placements).value =
        (LaneAssignment.settle group kept placements).value ∧
      (LaneAssignment.settle group kept placements).errors = [] := by
  rw [errors_routesOf feeds, List.append_eq_nil_iff] at complete
  obtain ⟨noneHidden, settled⟩ := complete
  have reported := @Placement.errors_dropShadowed layout switches placements feeds
  rw [noneHidden, List.forall₂_nil_left_iff, List.filter_eq_nil_iff] at reported
  have allVisible : placements.filter
      (fun placement => ¬placement.Hidden layout switches) = placements := by
    rw [List.filter_eq_self]
    intro placement member
    simpa using reported placement member
  rw [allVisible] at settled
  rw [value_routesOf feeds, allVisible]
  exact ⟨rfl, settled⟩

/-- The routes of a group are compiled from the connections of the group, if
every placement that is not hidden reads its source. -/
theorem routesOf_origins {group : Group} {kept : LaneSet} {placements : List Placement}
    {items : List Resolved}
    (origins : List.SublistForall₂
      (fun placement resolved => Placement.Placed layout resolved placement) placements items)
    (carries : ∀ placement ∈ placements, ¬placement.Hidden layout switches →
      Carries layout switches placement.wire.source placement.input) :
    List.SublistForall₂ (CompiledFrom layout switches)
      (routesOf group switches kept placements).value items := by
  rw [value_routesOf (feeds_of_origins origins)]
  have visibleOrigins := LaneAssignment.settle_origins group kept
    (placements.filter fun placement => ¬placement.Hidden layout switches)
  have routeOrigins : List.SublistForall₂ (fun route placement =>
      route = placement.onLane route.lane ∧
        Carries layout switches placement.wire.source placement.input)
      (LaneAssignment.settle group kept
        (placements.filter fun placement => ¬placement.Hidden layout switches)).value
      placements := by
    refine sublistForall₂_of_sublist (sublistForall₂_imp ?_ visibleOrigins) List.filter_sublist
    intro route placement member onLane
    obtain ⟨inPlacements, visible⟩ := List.mem_filter.mp member
    exact ⟨onLane, carries placement inPlacements (by simpa using visible)⟩
  refine sublistForall₂_imp ?_ (sublistForall₂_comp routeOrigins origins)
  rintro route resolved _ ⟨placement, ⟨onLane, reads⟩, isPlaced⟩
  refine ⟨placement, isPlaced, ?_, onLane⟩
  rw [isPlaced.wire_eq] at reads
  rw [onLane]
  exact reads

theorem pinnedRoutes_origins (layout : Layout) (connections : List Connection) :
    List.SublistForall₂ (CompiledFrom layout (Compilation.switches layout connections))
      (pinnedRoutes layout connections).value (virtual connections) := by
  have origins := pinned_origins layout connections
  refine routesOf_origins origins fun placement member visible => ?_
  exact carries_of_pinned member (feeds_of_origins origins placement member) visible

theorem flexibleRoutes_origins (layout : Layout) (connections : List Connection) :
    List.SublistForall₂ (CompiledFrom layout (Compilation.switches layout connections))
      (flexibleRoutes layout connections).value (physical connections) := by
  exact routesOf_origins (placed_origins layout connections) fun _ => carries_of_placed

/-- All routes are compiled from different resolved connections. -/
theorem routes_origins (layout : Layout) (connections : List Connection) :
    ∃ origins, origins.Subperm (Resolved.ofConnections connections).value ∧
      List.Forall₂ (CompiledFrom layout (Compilation.switches layout connections))
        (routing layout connections).routes origins := by
  obtain ⟨pinnedOrigins, pinnedAligned, pinnedSublist⟩ :=
    List.sublistForall₂_iff.mp (pinnedRoutes_origins layout connections)
  obtain ⟨flexibleOrigins, flexibleAligned, flexibleSublist⟩ :=
    List.sublistForall₂_iff.mp (flexibleRoutes_origins layout connections)
  refine ⟨pinnedOrigins ++ flexibleOrigins, ?_, ?_⟩
  · have halves := List.filter_append_perm Resolved.isVirtual
      (Resolved.ofConnections connections).value
    exact (pinnedSublist.append flexibleSublist).subperm.trans halves.subperm
  · exact List.rel_append pinnedAligned flexibleAligned

/-! ## Lanes, coefficients and outputs -/

theorem nodup_lanes (layout : Layout) (connections : List Connection) :
    ((routing layout connections).routes.map Route.lane).Nodup := by
  have pinnedLanes : ((pinnedRoutes layout connections).value.map Route.lane).Nodup :=
    LaneAssignment.nodup_settle _ _ _
  have flexibleLanes : ((flexibleRoutes layout connections).value.map Route.lane).Nodup :=
    LaneAssignment.nodup_settle _ _ _
  have apart : ((pinnedRoutes layout connections).value.map Route.lane).Disjoint
      ((flexibleRoutes layout connections).value.map Route.lane) := by
    intro lane inPinned inFlexible
    obtain ⟨route, member, rfl⟩ := List.mem_map.mp inFlexible
    exact LaneAssignment.lane_not_mem_of_mem_settle member (LaneSet.mem_ofList.mpr inPinned)
  rw [routing, List.map_append]
  exact pinnedLanes.append flexibleLanes apart

theorem length_le_of_nodup_lanes {routes : List Route}
    (distinct : (routes.map Route.lane).Nodup) : routes.length ≤ 32 := by
  calc routes.length
      = (routes.map Route.lane).length := (List.length_map _).symm
    _ ≤ Fintype.card Lane := distinct.length_le_card
    _ = 32 := Fintype.card_fin 32

theorem CompiledFrom.carries (compiledFrom : CompiledFrom layout switches route resolved) :
    Carries layout switches resolved.wire.source route.input := by
  obtain ⟨_, _, carries, _⟩ := compiledFrom
  exact carries

theorem CompiledFrom.crossLaneOf_target
    (compiledFrom : CompiledFrom layout switches route resolved) {output : CrossLane}
    (leaves : route.output = some output) :
    layout.crossLaneOf resolved.wire.target = some output := by
  obtain ⟨placement, isPlaced, _, onLane⟩ := compiledFrom
  rw [onLane] at leaves
  exact isPlaced.crossLaneOf_target leaves

theorem CompiledFrom.inRange (compiledFrom : CompiledFrom layout switches route resolved)
    (sound : resolved.Sound) : Link.inRange route.coefficient = true := by
  obtain ⟨placement, isPlaced, _, onLane⟩ := compiledFrom
  rw [onLane]
  exact isPlaced.inRange sound

theorem CompiledFrom.output_eq_none_iff
    (compiledFrom : CompiledFrom layout switches route resolved) :
    route.output = none ↔ resolved.wire.target.kind.isSink = true := by
  obtain ⟨placement, isPlaced, _, onLane⟩ := compiledFrom
  rw [onLane]
  exact isPlaced.output_eq_none_iff

theorem CompiledFrom.coefficient_of_tap
    (compiledFrom : CompiledFrom layout switches route resolved) (tap : route.output = none) :
    route.coefficient = 0.0 := by
  obtain ⟨placement, isPlaced, _, onLane⟩ := compiledFrom
  rw [onLane] at tap ⊢
  exact isPlaced.coefficient_of_tap tap

/-- Every route is compiled from a sound connection. -/
theorem exists_sound_of_mem (member : route ∈ (routing layout connections).routes) :
    ∃ resolved : Resolved, resolved.Sound ∧
      CompiledFrom layout (Compilation.switches layout connections) route resolved := by
  obtain ⟨origins, inside, aligned⟩ := routes_origins layout connections
  obtain ⟨resolved, originMember, compiledFrom⟩ := exists_item aligned member
  exact ⟨resolved, Resolved.sound_of_mem (inside.subset originMember), compiledFrom⟩

theorem inRange_of_mem (member : route ∈ (routing layout connections).routes) :
    Link.inRange route.coefficient = true := by
  obtain ⟨resolved, sound, compiledFrom⟩ := exists_sound_of_mem member
  exact compiledFrom.inRange sound

/-- The routes of a routing have distinct lanes, at most 32 in number, and
coefficients in range.  They are compiled from different connections of the
circuit, and a route has no output exactly when its connection ends at a
converter channel or an external output, in which case its coefficient is 0. -/
structure WellFormed (layout : Layout) (connections : List Connection) (routing : Routing) :
    Prop where
  distinct : (routing.routes.map Route.lane).Nodup
  length_le : routing.routes.length ≤ 32
  ranged : ∀ route ∈ routing.routes, -20.0 ≤ route.coefficient ∧ route.coefficient ≤ 20.0 ∧
    route.coefficient.isNaN = false
  compiledFrom : ∃ origins : List Connection, origins.Subperm connections ∧
    List.Forall₂ (fun route connection =>
      (∃ resolved, Resolved.StemsFrom connections resolved connection ∧
        CompiledFrom layout routing.switches route resolved) ∧
      (route.output = none ↔ connection.wire.target.kind = .converter ∨
        connection.wire.target.kind = .externalOutput) ∧
      (route.output = none → route.coefficient = 0.0)) routing.routes origins

/-- Whatever compiles is well formed. -/
theorem wellFormed_of_compile {routing : Routing}
    (compiled : (compile layout connections).value = .ok routing) :
    WellFormed layout connections routing := by
  obtain ⟨_, rfl⟩ := compile_eq_ok_iff.mp compiled
  have distinct := nodup_lanes layout connections
  refine ⟨distinct, length_le_of_nodup_lanes distinct, ?_, ?_⟩
  · intro route member
    exact Link.bounds_of_inRange (inRange_of_mem member)
  · obtain ⟨origins, inside, aligned⟩ := routes_origins layout connections
    obtain ⟨stems, stemsAligned, stemsSublist⟩ :=
      List.sublistForall₂_iff.mp (Resolved.ofConnections_origins connections)
    obtain ⟨ends, endsInside, endsAligned⟩ := exists_subperm_of_forall₂ inside stemsAligned
    refine ⟨ends, endsInside.trans stemsSublist.subperm, ?_⟩
    refine (forall₂_comp aligned endsAligned).imp ?_
    rintro route connection ⟨resolved, compiledFrom, stemsFrom⟩
    refine ⟨⟨resolved, stemsFrom, compiledFrom⟩, ?_, compiledFrom.coefficient_of_tap⟩
    rw [← stemsFrom.target, ← Placement.isSink_iff]
    exact compiledFrom.output_eq_none_iff

/-- A port by its kind, number and terminal. -/
def port? (kind : Kind) (number : UInt32) (terminal : Terminal) : Option Port :=
  if listed : terminal ∈ kind.terminals then some (.ofTerminal kind number terminal listed)
  else none

/-- A connection into a port that may hold a coefficient. -/
def wired? (source target : Option Port) (coefficient : Option Float) : Option Connection := do
  return ⟨.bare (← source), ⟨← target, coefficient.map .potentiometer⟩⟩

/-- An external input on two integrators, a tap, a source that the external input
hides, and a potentiometer whose coefficient is no number. -/
def fannedCircuit : List Connection :=
  [wired? (port? .externalInput 0 .source) (port? .potentiometer 3 .input) (some 0.5),
    wired? (port? .potentiometer 3 .output) (port? .integrator 0 .input) none,
    wired? (port? .potentiometer 3 .output) (port? .integrator 1 .input) none,
    wired? (port? .multiplier 0 .output) (port? .converter 0 .sink) none,
    wired? (port? .integrator 0 .output) (port? .multiplier 0 .a) none,
    wired? (port? .integrator 2 .output) (port? .potentiometer 5 .input) (some (0.0 / 0.0)),
    wired? (port? .integrator 3 .output) (port? .multiplier 0 .b) none].reduceOption

/-- The second branch of the external input moves to a free lane, and the last
connection gives way to it. -/
theorem wellFormed_fannedCircuit :
    (compile .standard fannedCircuit).value = .ok (routing .standard fannedCircuit) ∧
      WellFormed .standard fannedCircuit (routing .standard fannedCircuit) ∧
      (routing .standard fannedCircuit).routes.map Route.lane = [16, 1, 0, 2] := by
  have compiled : (compile .standard fannedCircuit).value =
      .ok (routing .standard fannedCircuit) :=
    value_compile_of_isOk (by decide +kernel)
  exact ⟨compiled, wellFormed_of_compile compiled, by decide +kernel⟩

end Crossbar.Compilation
