import Crossbar.Proofs.ExpandedRoutes
import Crossbar.Proofs.Fault
import Crossbar.Proofs.Load
import Crossbar.Proofs.Pairing

/-!
# Taps that stop a compilation

A loaded circuit can be compiled again unless one of its taps weighs its listener: the tap
is on a lane that a converter channel or an external output listens to, and has a
coefficient within the limits other than 0 and 1.  The first such tap names the fault.
Nothing else about the routes matters, whether their lanes are distinct or not, for
every half of a potentiometer carries the coefficient of its own route.
-/

namespace Crossbar

/-- A tap gives its listener a coefficient within the limits other than 0 and 1. -/
def Route.WeighsListener (route : Route) : Prop :=
  route.output = none ∧ route.lane.val < 16 ∧
    (-20.0 ≤ route.coefficient ∧ route.coefficient ≤ 20.0) ∧
    route.coefficient != 0.0 ∧ route.coefficient != 1.0

instance : DecidablePred Route.WeighsListener :=
  fun _ => inferInstanceAs (Decidable (_ ∧ _))

/-- The first tap of a list that weighs its listener. -/
inductive FirstWeighsListener (routes : List Route) : RoutingFault → Prop
  | intro {before after : List Route} {tap : Route} {sink : Port}
      (whole : routes = before ++ tap :: after)
      (unweighted : ∀ earlier ∈ before, ¬earlier.WeighsListener)
      (weighs : tap.WeighsListener)
      (reserved : sink.kind.reservedLane sink.number.toNat = some tap.lane) :
      FirstWeighsListener routes (.sinkCoefficient sink tap.coefficient)

/-! ## Halves of strands -/

theorem Endpoint.lane?_potentiometer (lane : Lane) (direction : Direction)
    (coefficient : Float) :
    Endpoint.lane? ⟨.potentiometer lane.val.toUInt32 direction,
        some (.potentiometer coefficient)⟩ =
      if -20.0 ≤ coefficient ∧ coefficient ≤ 20.0 then some lane else none := by
  have kind : (Port.potentiometer lane.val.toUInt32 direction).kind = .potentiometer := by
    cases direction <;> rfl
  have number : (Port.potentiometer lane.val.toUInt32 direction).number.toNat = lane.val := by
    cases direction <;> exact Lane.toNat_toUInt32 lane
  by_cases ranged : -20.0 ≤ coefficient ∧ coefficient ≤ 20.0
  · rw [if_pos ranged, Endpoint.lane?_eq_some_iff]
    refine ⟨kind, ?_, number⟩
    intro other set
    rw [← Option.some.inj set]
    exact ranged
  · rw [if_neg ranged, Endpoint.lane?, if_neg]
    rintro ⟨_, limited⟩
    exact ranged (limited coefficient rfl)

namespace Strand

variable {strand : Strand} {strands rest : List Strand} {whole : List Connection}

/-- The connection of a strand into the potentiometer of its lane. -/
def feedingHalf (strand : Strand) : Connection :=
  ⟨.bare strand.wire.source, ⟨.potentiometer strand.lane.val.toUInt32 .sink,
    some (.potentiometer strand.route.coefficient)⟩⟩

/-- The connection of a strand out of the potentiometer of its lane. -/
def leavingHalf (strand : Strand) : Connection :=
  ⟨⟨.potentiometer strand.lane.val.toUInt32 .source,
    some (.potentiometer strand.route.coefficient)⟩, .bare strand.wire.target⟩

theorem halves_eq (strand : Strand) : strand.halves = [strand.feedingHalf, strand.leavingHalf] :=
  rfl

/-- The fault of what a strand resolves to, if its coefficient is within the limits. -/
def fault? (strand : Strand) : Option RoutingFault :=
  if -20.0 ≤ strand.route.coefficient ∧ strand.route.coefficient ≤ 20.0 then
    strand.resolved.fault?
  else none

theorem joined?_feedingHalf (sourceKind : strand.wire.source.kind ≠ .potentiometer) :
    Resolved.joined? whole strand.feedingHalf = none := by
  have indirect : ¬strand.feedingHalf.IsDirect := fun isDirect => isDirect.2.2 rfl
  have unleft : strand.feedingHalf.source.lane? = none :=
    Connection.lane?_eq_none_of_kind sourceKind
  rw [Resolved.joined?, if_neg indirect, Connection.leftLane?, unleft, ite_self,
    Option.bind_none]

/-- The half that leaves a potentiometer ends at its own target with its own coefficient,
whoever feeds the potentiometer. -/
theorem fault?_joined?_leavingHalf
    (isPart : ∀ half ∈ strand.halves, half ∈ whole ∧ half.wire.WellShaped) :
    (Resolved.joined? whole strand.leavingHalf).bind Resolved.fault? = strand.fault? := by
  have indirect : ¬strand.leavingHalf.IsDirect := fun isDirect => isDirect.2.1 rfl
  obtain ⟨feedingMember, feedingShape⟩ := isPart strand.feedingHalf (by simp [halves_eq])
  obtain ⟨_, leavingShape⟩ := isPart strand.leavingHalf (by simp [halves_eq])
  have fed : strand.feedingHalf.fedLane? = _ :=
    (Connection.fedLane?_of_wellShaped feedingShape).trans (Endpoint.lane?_potentiometer ..)
  have left : strand.leavingHalf.leftLane? = _ :=
    (Connection.leftLane?_of_wellShaped leavingShape).trans (Endpoint.lane?_potentiometer ..)
  rw [Resolved.joined?, if_neg indirect, left, fault?]
  by_cases ranged : -20.0 ≤ strand.route.coefficient ∧ strand.route.coefficient ≤ 20.0
  · rw [if_pos ranged] at fed
    rw [if_pos ranged, if_pos ranged, Option.bind_some]
    cases found : whole.find? fun other => other.fedLane? = some strand.lane with
    | none =>
        have unfed := List.find?_eq_none.mp found strand.feedingHalf feedingMember
        exact absurd (decide_eq_true fed) unfed
    | some feeding =>
        rfl
  · rw [if_neg ranged, if_neg ranged]
    rfl

theorem findSome?_fault?_halves (sourceKind : strand.wire.source.kind ≠ .potentiometer)
    (isPart : ∀ half ∈ strand.halves, half ∈ whole ∧ half.wire.WellShaped) :
    (strand.halves.filterMap (Resolved.joined? whole)).findSome? Resolved.fault? =
      strand.fault? := by
  rw [halves_eq, List.filterMap_cons_none (joined?_feedingHalf sourceKind),
    ← fault?_joined?_leavingHalf isPart]
  cases joined : Resolved.joined? whole strand.leavingHalf with
  | none =>
      rw [List.filterMap_cons_none joined]
      rfl
  | some resolved =>
      rw [List.filterMap_cons_some joined, List.filterMap_nil, List.findSome?_singleton,
        Option.bind_some]

theorem findSome?_fault?_flatMap_halves
    (sourceKind : ∀ strand ∈ rest, strand.wire.source.kind ≠ .potentiometer)
    (isPart : ∀ strand ∈ rest, ∀ half ∈ strand.halves, half ∈ whole ∧ half.wire.WellShaped) :
    ((rest.flatMap halves).filterMap (Resolved.joined? whole)).findSome? Resolved.fault? =
      rest.findSome? fault? := by
  induction rest with
  | nil =>
      rfl
  | cons strand rest inductionHypothesis =>
      rw [List.forall_mem_cons] at sourceKind isPart
      rw [List.flatMap_cons, List.filterMap_append, List.findSome?_append, List.findSome?_cons,
        findSome?_fault?_halves sourceKind.1 isPart.1, inductionHypothesis sourceKind.2 isPart.2]
      cases strand.fault? <;> rfl

end Strand

/-! ## Faults of taps -/

namespace Route

variable {route : Route} {routes : List Route} {fault : RoutingFault}

/-- The fault of a tap that weighs its listener. -/
def tapFault? (route : Route) : Option RoutingFault :=
  if route.WeighsListener then
    (Expansion.listener? route.lane).map fun sink => .sinkCoefficient sink route.coefficient
  else none

theorem tapFault?_eq_some_iff :
    route.tapFault? = some fault ↔ route.WeighsListener ∧ ∃ sink : Port,
      sink.kind.reservedLane sink.number.toNat = some route.lane ∧
        fault = .sinkCoefficient sink route.coefficient := by
  rw [tapFault?, Option.ite_none_right_eq_some, Option.map_eq_some_iff]
  refine and_congr_right fun weighs => ?_
  obtain ⟨listener, listens⟩ :=
    Option.isSome_iff_exists.mp ((Expansion.isSome_listener? route.lane).mpr weighs.2.1)
  have reserved := (Expansion.listener_reserves listens).2.2
  constructor
  · rintro ⟨sink, found, rfl⟩
    exact ⟨sink, (Expansion.listener_reserves found).2.2, rfl⟩
  · rintro ⟨sink, sinkReserved, rfl⟩
    have same := (Port.listensTo_of_reservedLane sinkReserved).eq
      (Port.listensTo_of_reservedLane reserved)
    exact ⟨sink, same ▸ listens, rfl⟩

theorem tapFault?_eq_none_iff : route.tapFault? = none ↔ ¬route.WeighsListener := by
  rw [tapFault?]
  by_cases weighs : route.WeighsListener
  · have listened := (Expansion.isSome_listener? route.lane).mpr weighs.2.1
    rw [if_pos weighs, Option.map_eq_none_iff, ← Option.not_isSome_iff_eq_none]
    exact not_congr (iff_of_true listened weighs)
  · simp [weighs]

theorem findSome?_tapFault?_eq_some_iff :
    routes.findSome? tapFault? = some fault ↔ FirstWeighsListener routes fault := by
  rw [List.findSome?_eq_some_iff]
  constructor
  · rintro ⟨before, tap, after, whole, found, noneBefore⟩
    obtain ⟨weighs, sink, reserved, rfl⟩ := tapFault?_eq_some_iff.mp found
    refine FirstWeighsListener.intro whole ?_ weighs reserved
    exact fun earlier member => tapFault?_eq_none_iff.mp (noneBefore earlier member)
  · rintro ⟨whole, unweighted, weighs, reserved⟩
    refine ⟨_, _, _, whole, tapFault?_eq_some_iff.mpr ⟨weighs, _, reserved, rfl⟩, ?_⟩
    exact fun earlier member => tapFault?_eq_none_iff.mpr (unweighted earlier member)

end Route

namespace Expansion

variable {layout : Layout} {switches : AuxSwitches} {route : Route} {routes : List Route}
  {constants : Nat} {target : Port} {fault : RoutingFault}

theorem fault?_of_target? (ends : target? layout route = some target) (source : Port) :
    Strand.fault? ⟨route, source, target⟩ = route.tapFault? := by
  cases output : route.output with
  | some crossLane =>
      have unweighted : ¬route.WeighsListener := by
        rintro ⟨tap, _⟩
        rw [output] at tap
        cases tap
      rw [target?_of_output output, Option.some.injEq] at ends
      have noSink : target.kind.isSink = false := by
        rw [← ends]
        exact Placement.isSink_of_crossLaneOf (Layout.crossLaneOf_portAt_sink layout crossLane)
      rw [Route.tapFault?_eq_none_iff.mpr unweighted]
      simp [Strand.fault?, Strand.resolved, Resolved.fault?, noSink]
  | none =>
      rw [target?_of_tap output] at ends
      have isSink := (listener_reserves ends).1
      have listened : route.lane.val < 16 := by
        rw [← isSome_listener?, ends]
        rfl
      have weighsIff : route.WeighsListener ↔
          (-20.0 ≤ route.coefficient ∧ route.coefficient ≤ 20.0) ∧
            (route.coefficient != 0.0 && route.coefficient != 1.0) = true := by
        simp [Route.WeighsListener, output, listened]
      rw [Route.tapFault?, ends, Strand.fault?, Strand.resolved, Resolved.fault?, if_pos isSink]
      simp only [weighsIff, Option.filter_some, Option.map_some]
      by_cases ranged : -20.0 ≤ route.coefficient ∧ route.coefficient ≤ 20.0
      · rw [if_pos ranged]
        by_cases weighted : (route.coefficient != 0.0 && route.coefficient != 1.0) = true
        · rw [if_pos weighted, if_pos ⟨ranged, weighted⟩, Option.map_some]
        · rw [if_neg weighted, if_neg fun weighs => weighted weighs.2, Option.map_none]
      · rw [if_neg ranged, if_neg fun weighs => ranged weighs.1]

theorem findSome?_fault?_strands (layout : Layout) (switches : AuxSwitches) (constants : Nat)
    (routes : List Route) :
    (strands layout switches constants routes).findSome? Strand.fault? =
      routes.findSome? Route.tapFault? := by
  induction routes generalizing constants with
  | nil =>
      rfl
  | cons route rest inductionHypothesis =>
      rw [List.findSome?_cons]
      cases ends : target? layout route with
      | none =>
          have unweighted : ¬route.WeighsListener := by
            rintro ⟨_, listened, _⟩
            have upper := (target?_eq_none_iff.mp ends).2
            omega
          rw [strands_unheard ends, inductionHypothesis,
            Route.tapFault?_eq_none_iff.mpr unweighted]
      | some target =>
          rw [strands_heard ends, List.findSome?_cons, fault?_of_target? ends,
            inductionHypothesis]

theorem value_compile_expand_eq_error_iff :
    (compile layout (expand layout switches routes).value).value = .error fault ↔
      routes.findSome? Route.tapFault? = some fault := by
  have isPart : ∀ strand ∈ strands layout switches 0 routes, ∀ half ∈ strand.halves,
      half ∈ (expand layout switches routes).value ∧ half.wire.WellShaped := by
    intro strand member half isHalf
    refine ⟨?_, wellShaped_of_mem_halves member isHalf⟩
    rw [value_expand, value_ofRoutes]
    exact List.mem_flatMap.mpr ⟨strand, member, isHalf⟩
  have sourceKind : ∀ strand ∈ strands layout switches 0 routes,
      strand.wire.source.kind ≠ .potentiometer := by
    intro strand member
    obtain ⟨_, _, number, starts⟩ := mem_strands member
    rw [starts]
    exact (source_shape layout switches strand.route number).2.2
  have faults := Strand.findSome?_fault?_flatMap_halves sourceKind isPart
  rw [findSome?_fault?_strands, ← value_ofRoutes, ← value_expand,
    ← Resolved.value_ofConnections_eq_filterMap] at faults
  rw [Compilation.value_compile_eq_error_iff, faults]

end Expansion

/-! ## Loaded circuits -/

namespace CircuitFile

variable {file : CircuitFile} {layout : Layout} {circuit : LoadedCircuit}

/-- What compiling a loaded circuit gives: a routing, unless a tap weighs its listener,
and else the fault of the first such tap. -/
structure StopsAtTaps (layout : Layout) (circuit : LoadedCircuit) : Prop where
  succeeds : (∃ routing, (compile layout circuit.connections).value = .ok routing) ↔
    ∀ route ∈ circuit.routing.routes, ¬route.WeighsListener
  fault : ∀ fault, (compile layout circuit.connections).value = .error fault ↔
    FirstWeighsListener circuit.routing.routes fault

theorem value_compile_of_load (loads : (file.load layout).value = .ok circuit)
    (fault : RoutingFault) :
    (compile layout circuit.connections).value = .error fault ↔
      circuit.routing.routes.findSome? Route.tapFault? = some fault := by
  rw [(value_load_eq_ok_iff.mp loads).2]
  exact Expansion.value_compile_expand_eq_error_iff

/-- A loaded circuit is compiled again unless a tap weighs its listener. -/
theorem stopsAtTaps_of_load (loads : (file.load layout).value = .ok circuit) :
    StopsAtTaps layout circuit := by
  have stops := value_compile_of_load loads
  have noFault : circuit.routing.routes.findSome? Route.tapFault? = none ↔
      ∀ route ∈ circuit.routing.routes, ¬route.WeighsListener := by
    rw [List.findSome?_eq_none_iff]
    exact forall₂_congr fun route _ => Route.tapFault?_eq_none_iff
  refine ⟨?_, fun fault => (stops fault).trans Route.findSome?_tapFault?_eq_some_iff⟩
  cases compiled : (compile layout circuit.connections).value with
  | ok routing =>
      have unstopped : circuit.routing.routes.findSome? Route.tapFault? = none := by
        rw [Option.eq_none_iff_forall_ne_some]
        intro fault found
        have failed := (stops fault).mpr found
        rw [compiled] at failed
        cases failed
      exact iff_of_true ⟨routing, rfl⟩ (noFault.mp unstopped)
  | error fault =>
      have found := (stops fault).mp compiled
      rw [← noFault, found]
      simp

/-- A tap that passes its signal on, one beyond the limits, one that nobody hears and a
route on the lane of the first tap. -/
def mildTable : RouteTable :=
  ⟨none, none, [Route.ofNumbers? 3 8 1.0 none, Route.ofNumbers? 5 9 25.0 none,
    Route.ofNumbers? 20 9 0.5 none, Route.ofNumbers? 3 1 0.5 (some 8)].reduceOption, none, none⟩

/-- No tap weighs its listener, though the table is irregular. -/
theorem stopsAtTaps_mildTable :
    ∃ circuit, ((CircuitFile.ofTable mildTable).load .standard).value = .ok circuit ∧
      StopsAtTaps .standard circuit ∧
      ∃ routing, (compile .standard circuit.connections).value = .ok routing := by
  have loads : ((CircuitFile.ofTable mildTable).load .standard).value =
      .ok (.ofRoutes .standard mildTable.routes .off .reset) :=
    rfl
  have stops := stopsAtTaps_of_load loads
  exact ⟨_, loads, stops, stops.succeeds.mpr (by decide +kernel)⟩

def weighedTable : RouteTable :=
  ⟨none, none, [Route.ofNumbers? 4 9 1.0 (some 8), Route.ofNumbers? 3 8 0.5 none].reduceOption,
    none, none⟩

/-- The tap of one lane stops the compilation, though every coefficient is within the
limits. -/
theorem not_recompiles_weighedTable :
    ∃ circuit, ((CircuitFile.ofTable weighedTable).load .standard).value = .ok circuit ∧
      circuit.routing.errors = [] ∧
      (∀ route ∈ circuit.routing.routes, -20.0 ≤ route.coefficient ∧ route.coefficient ≤ 20.0) ∧
      (compile .standard circuit.connections).value =
        .error (.sinkCoefficient (.converter 3) 0.5) ∧
      ¬∃ routing, (compile .standard circuit.connections).value = .ok routing := by
  have loads : ((CircuitFile.ofTable weighedTable).load .standard).value =
      .ok (.ofRoutes .standard weighedTable.routes .off .reset) :=
    rfl
  have stopped := (value_compile_of_load loads (.sinkCoefficient (.converter 3) 0.5)).mpr rfl
  refine ⟨_, loads, rfl, by decide +kernel, stopped, ?_⟩
  rintro ⟨routing, compiled⟩
  rw [stopped] at compiled
  cases compiled

end CircuitFile

end Crossbar
