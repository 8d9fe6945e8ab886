import Crossbar.Proofs.Expand
import Crossbar.Proofs.FirstFit

/-!
# Taps and the lanes of sinks

Converter channels and external outputs listen to a lane of their own, and the tap for
a sink asks for that lane.  It shares the lane with constants, which ask for the lane of
their potentiometer, and the first one to ask gets it.  So a tap stays on the lane of its
sink exactly if no constant before it goes through the potentiometer of that lane.
-/

namespace Crossbar

/-- A constant asks for the lane of its potentiometer. -/
def Resolved.ClaimsLane (resolved : Resolved) (lane : Lane) : Prop :=
  resolved.wire.source.kind = .constant ∧ resolved.lane = some lane

/-! ## Who asks for the lane of a sink -/

namespace Placement

variable {layout : Layout} {resolved : Resolved} {placement : Placement} {lane : Lane}
  {connections : List Resolved} {placements : List Placement} {port : Port}

/-- Apart from the sink that listens to a lane, only constants ask for it. -/
theorem claimsLane_of_placed (isVirtual : resolved.isVirtual = true)
    (placed : Placed layout resolved placement) (listens : port.ListensTo lane)
    (apart : resolved.wire.target.element ≠ port.element) (asks : placement.lane = some lane) :
    resolved.ClaimsLane lane ∧ placement.output ≠ none := by
  cases placed with
  | sink _ _ reserved _ =>
      rw [Option.some.inj asks] at reserved
      exact absurd ((Port.listensTo_of_reservedLane reserved).element_eq listens) apart
  | externalInput kind number target =>
      have high := congrArg Fin.val (Option.some.inj asks)
      have low := listens.lt
      simp only [AuxSwitches.channelLane] at high
      omega
  | constant kind target =>
      exact ⟨⟨kind, asks⟩, Option.some_ne_none _⟩
  | flexible source target =>
      simp [Resolved.isVirtual, Layout.isVirtual_of_crossLaneOf source,
        Layout.isVirtual_of_crossLaneOf target] at isVirtual

theorem lane_of_claimsLane (placed : Placed layout resolved placement)
    (claims : resolved.ClaimsLane lane) : placement.lane = some lane := by
  obtain ⟨constant, asks⟩ := claims
  cases placed with
  | sink _ _ _ source => exact absurd constant (Layout.kind_ne_of_crossLaneOf source rfl)
  | externalInput kind =>
      rw [kind] at constant
      cases constant
  | constant => exact asks
  | flexible source => exact absurd constant (Layout.kind_ne_of_crossLaneOf source rfl)

theorem mem_requested_iff_claimsLane
    (aligned : List.Forall₂ (fun placement resolved => Placed layout resolved placement)
      placements connections)
    (allVirtual : ∀ resolved ∈ connections, resolved.isVirtual = true)
    (apart : ∀ resolved ∈ connections, resolved.wire.target.element ≠ port.element)
    (listens : port.ListensTo lane) :
    lane ∈ LaneAssignment.requested placements ↔
      ∃ resolved ∈ connections, resolved.ClaimsLane lane := by
  rw [LaneAssignment.requested, List.mem_filterMap]
  constructor
  · rintro ⟨placement, member, asks⟩
    obtain ⟨resolved, inConnections, placed⟩ := exists_item aligned member
    exact ⟨resolved, inConnections, (claimsLane_of_placed (allVirtual resolved inConnections)
      placed listens (apart resolved inConnections) asks).1⟩
  · rintro ⟨resolved, member, claims⟩
    obtain ⟨placement, inPlacements, placed⟩ := exists_result aligned member
    exact ⟨placement, inPlacements, lane_of_claimsLane placed claims⟩

theorem sink_of_placed (sink : resolved.wire.target.kind.isSink = true)
    (placed : Placed layout resolved placement) :
    ∃ lane input, resolved.wire.target.ListensTo lane ∧
      layout.crossLaneOf resolved.wire.source = some input ∧
      placement = ⟨some lane, input, 0.0, none, resolved.wire⟩ := by
  cases placed with
  | sink _ _ reserved source =>
      exact ⟨_, _, Port.listensTo_of_reservedLane reserved, source, rfl⟩
  | externalInput _ _ target =>
      rw [isSink_of_crossLaneOf target] at sink
      cases sink
  | constant _ target =>
      rw [isSink_of_crossLaneOf target] at sink
      cases sink
  | flexible _ target =>
      rw [isSink_of_crossLaneOf target] at sink
      cases sink

end Placement

/-! ## Taps -/

namespace Compilation

variable {layout : Layout} {connections : List Connection} {before after : List Resolved}
  {resolved : Resolved} {lane : Lane}

/-- A resolved connection is the only one that ends at its sink. -/
structure SoleTap (connections : List Connection) (before : List Resolved) (resolved : Resolved)
    (after : List Resolved) : Prop where
  whole : (Resolved.ofConnections connections).value = before ++ resolved :: after
  sink : resolved.wire.target.kind = .converter ∨ resolved.wire.target.kind = .externalOutput
  sole : ∀ other ∈ before ++ after, other.wire.target.element ≠ resolved.wire.target.element

/-- A route without an output leads the signal of a port onto a lane. -/
def Taps (layout : Layout) (routing : Routing) (source : Port) (lane : Lane) : Prop :=
  ∃ route ∈ routing.routes, route.lane = lane ∧ route.output = none ∧
    layout.crossLaneOf source = some route.input

theorem not_taps_of_output {route : Route} {source : Port}
    (member : route ∈ (routing layout connections).routes)
    (heard : route.output ≠ none) :
    ¬Taps layout (routing layout connections) source route.lane := by
  rintro ⟨tap, tapMember, sameLane, noOutput, _⟩
  have same := List.inj_on_of_nodup_map (nodup_lanes layout connections) tapMember member sameLane
  rw [same] at noOutput
  exact heard noOutput

section Complete

variable (complete : errors layout connections = [])

include complete

/-- The placement of the only tap for a sink, and the placements before it. -/
theorem exists_placement_of_soleTap
    (unstopped : Placement.Unstopped layout (virtual connections))
    (soleTap : SoleTap connections before resolved after) :
    ∃ earlier lane input later,
      pinned layout connections =
        earlier ++ ⟨some lane, input, 0.0, none, resolved.wire⟩ :: later ∧
      List.Forall₂ (fun placement other => Placement.Placed layout other placement) earlier
        (before.filter Resolved.isVirtual) ∧
      resolved.wire.target.ListensTo lane ∧
      layout.crossLaneOf resolved.wire.source = some input := by
  simp only [errors, List.append_eq_nil_iff] at complete
  have isVirtual : resolved.isVirtual = true := by
    rcases soleTap.sink with kind | kind <;> simp [Resolved.isVirtual, kind, Kind.isVirtual]
  have split : virtual connections =
      before.filter Resolved.isVirtual ++ resolved :: after.filter Resolved.isVirtual := by
    rw [virtual, soleTap.whole, List.filter_append, List.filter_cons_of_pos isVirtual]
  have aligned := aligned_pinned unstopped complete.2.1
  rw [split] at aligned
  obtain ⟨earlier, placement, later, whole, alignedBefore, placed⟩ := forall₂_split aligned
  obtain ⟨lane, input, listens, wired, rfl⟩ :=
    Placement.sink_of_placed (Placement.isSink_iff.mpr soleTap.sink) placed
  exact ⟨earlier, lane, input, later, whole, alignedBefore, listens, wired⟩

theorem settle_pinned_of_complete :
    (pinnedRoutes layout connections).value =
        (LaneAssignment.settle .pinned ∅ (pinned layout connections)).value ∧
      (LaneAssignment.settle .pinned ∅ (pinned layout connections)).errors = [] := by
  simp only [errors, List.append_eq_nil_iff] at complete
  exact routesOf_of_complete (feeds_of_origins (pinned_origins layout connections))
    complete.2.2.1

theorem exists_route_of_pinned {placement : Placement}
    (member : placement ∈ pinned layout connections) :
    ∃ route ∈ (routing layout connections).routes, route = placement.onLane route.lane := by
  obtain ⟨settled, noErrors⟩ := settle_pinned_of_complete complete
  obtain ⟨route, routeMember, onLane⟩ :=
    exists_result (LaneAssignment.aligned_settle noErrors) member
  rw [← settled] at routeMember
  exact ⟨route, List.mem_append_left _ routeMember, onLane⟩

theorem mem_routes_of_held {earlier later : List Placement} {placement : Placement}
    (split : pinned layout connections = earlier ++ placement :: later)
    (held : LaneAssignment.held? ∅ earlier placement = some lane) :
    placement.onLane lane ∈ (routing layout connections).routes := by
  have onLane := LaneAssignment.mem_settle_of_held .pinned split held
  rw [← (settle_pinned_of_complete complete).1] at onLane
  exact List.mem_append_left _ onLane

end Complete

/-- In a circuit without errors a sink that is reached once is tapped on some lane, and
on its own lane exactly if no constant before it claims that. -/
theorem taps_iff_unclaimed {routing : Routing}
    (compiled : (compile layout connections).value = .ok routing)
    (complete : routing.errors = []) (soleTap : SoleTap connections before resolved after) :
    ∃ lane, resolved.wire.target.ListensTo lane ∧
      (∃ found, Taps layout routing resolved.wire.source found) ∧
      (Taps layout routing resolved.wire.source lane ↔
        ∀ other ∈ before, ¬other.ClaimsLane lane) := by
  obtain ⟨unstopped, rfl⟩ := compile_eq_ok_iff.mp compiled
  obtain ⟨earlier, lane, input, later, split, aligned, listens, wired⟩ :=
    exists_placement_of_soleTap complete unstopped soleTap
  have allVirtual : ∀ other ∈ before.filter Resolved.isVirtual, other.isVirtual = true :=
    fun other member => (List.mem_filter.mp member).2
  have apart : ∀ other ∈ before.filter Resolved.isVirtual,
      other.wire.target.element ≠ resolved.wire.target.element := fun other member =>
    soleTap.sole other (List.mem_append_left _ (List.mem_of_mem_filter member))
  have asked := Placement.mem_requested_iff_claimsLane aligned allVirtual apart listens
  have unreserved : lane ∉ (∅ : LaneSet) := LaneSet.not_mem_empty
  refine ⟨lane, listens, ?_, ?_, ?_⟩
  · have member : (⟨some lane, input, 0.0, none, resolved.wire⟩ : Placement) ∈
        pinned layout connections := by
      simp [split]
    obtain ⟨route, routeMember, onLane⟩ := exists_route_of_pinned complete member
    refine ⟨route.lane, route, routeMember, rfl, ?_, ?_⟩
    · rw [onLane]
      rfl
    · rw [onLane]
      exact wired
  · intro taps other member claims
    have otherVirtual : other.isVirtual = true := by
      simp [Resolved.isVirtual, claims.1, Kind.isVirtual]
    have wanted := asked.mpr ⟨other, List.mem_filter.mpr ⟨member, otherVirtual⟩, claims⟩
    obtain ⟨first, holder, rest, earlierSplit, held⟩ :=
      LaneAssignment.exists_holder wanted unreserved
    have holderMember : holder ∈ earlier := by
      simp [earlierSplit]
    obtain ⟨origin, originMember, originPlaced⟩ := exists_item aligned holderMember
    have asks := (LaneAssignment.held?_eq_some_iff.mp held).1
    have heard := (Placement.claimsLane_of_placed (allVirtual origin originMember) originPlaced
      listens (apart origin originMember) asks).2
    rw [earlierSplit, List.append_assoc, List.cons_append] at split
    exact not_taps_of_output (mem_routes_of_held complete split held) heard taps
  · intro unclaimed
    have unasked : lane ∉ LaneAssignment.requested earlier := by
      intro wanted
      obtain ⟨other, member, claims⟩ := asked.mp wanted
      exact unclaimed other (List.mem_of_mem_filter member) claims
    have held : LaneAssignment.held? ∅ earlier ⟨some lane, input, 0.0, none, resolved.wire⟩ =
        some lane :=
      LaneAssignment.held?_eq_some_iff.mpr ⟨rfl, unreserved, unasked⟩
    exact ⟨_, mem_routes_of_held complete split held, rfl, rfl, wired⟩

/-! ## A displaced tap -/

/-- A constant through potentiometer 0 drives an integrator, which is measured by
converter channel 0. -/
def measuredCircuit : List Connection :=
  [wired? (port? .constant 0 .source) (port? .potentiometer 0 .input) none,
    wired? (port? .potentiometer 0 .output) (port? .integrator 0 .input) none,
    wired? (port? .integrator 0 .output) (port? .converter 0 .sink) none].reduceOption

theorem input_mem_terminals : Terminal.input ∈ Kind.integrator.terminals := by
  decide

theorem output_mem_terminals : Terminal.output ∈ Kind.integrator.terminals := by
  decide

def constantFeed : Resolved :=
  ⟨⟨.constant 0, .ofTerminal .integrator 0 .input input_mem_terminals⟩, none, Lane.ofNat? 0⟩

def converterTap : Resolved :=
  ⟨⟨.ofTerminal .integrator 0 .output output_mem_terminals, .converter 0⟩, none, none⟩

/-- With the constant first the tap moves away from the lane of its converter
channel, and nothing is reported. -/
theorem not_taps_measuredCircuit :
    (compile .standard measuredCircuit).value = .ok (routing .standard measuredCircuit) ∧
      (routing .standard measuredCircuit).errors.isEmpty = true ∧
      SoleTap measuredCircuit [constantFeed] converterTap [] ∧
      converterTap.wire.target.ListensTo 0 ∧
      ¬Taps .standard (routing .standard measuredCircuit) converterTap.wire.source 0 := by
  have compiled : (compile .standard measuredCircuit).value =
      .ok (routing .standard measuredCircuit) :=
    value_compile_of_isOk (by decide +kernel)
  have soleTap : SoleTap measuredCircuit [constantFeed] converterTap [] :=
    ⟨rfl, Or.inl rfl, by decide⟩
  have heard : ∀ route ∈ (routing .standard measuredCircuit).routes,
      route.lane = 0 → route.output ≠ none := by
    decide +kernel
  refine ⟨compiled, by decide +kernel, soleTap, .converter rfl (by decide) rfl, ?_⟩
  rintro ⟨route, member, onLane, tap, _⟩
  exact heard route member onLane tap

/-- With the tap first it has the lane of its converter channel. -/
theorem taps_measuredCircuit_rotate :
    (compile .standard (measuredCircuit.rotate 2)).value =
        .ok (routing .standard (measuredCircuit.rotate 2)) ∧
      (routing .standard (measuredCircuit.rotate 2)).errors = [] ∧
      SoleTap (measuredCircuit.rotate 2) [] converterTap [constantFeed] ∧
      ∃ lane, converterTap.wire.target.ListensTo lane ∧
        Taps .standard (routing .standard (measuredCircuit.rotate 2))
          converterTap.wire.source lane := by
  have compiled : (compile .standard (measuredCircuit.rotate 2)).value =
      .ok (routing .standard (measuredCircuit.rotate 2)) :=
    value_compile_of_isOk (by decide +kernel)
  have complete : (routing .standard (measuredCircuit.rotate 2)).errors = [] :=
    List.isEmpty_iff.mp (by decide +kernel)
  have soleTap : SoleTap (measuredCircuit.rotate 2) [] converterTap [constantFeed] :=
    ⟨rfl, Or.inl rfl, by decide⟩
  obtain ⟨lane, listens, _, taps⟩ := taps_iff_unclaimed compiled complete soleTap
  exact ⟨compiled, complete, soleTap, lane, listens, taps.mpr fun _ member => nomatch member⟩

end Compilation

end Crossbar
