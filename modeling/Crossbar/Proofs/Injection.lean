import Crossbar.Proofs.Conservation
import Crossbar.Proofs.FirstFit

/-!
# Signals that are switched on

A switch is set when a connection that starts at its signal is pinned, and nothing
switches it off again.  A pinned connection that starts at a signal cannot be hidden, so
it either becomes a route or finds all lanes taken.  In the second case its switch stays
on, and the signal takes a cross-lane over for no route.
-/

namespace Crossbar

/-! ## Injected signals -/

/-- A signal that a switch puts on a cross-lane. -/
inductive Injection where
  | externalInput (channel : Channel)
  | reference
  deriving DecidableEq, Repr

namespace Injection

/-- The cross-lane that the signal takes over. -/
def crossLane : Injection → CrossLane
  | .externalInput channel => AuxSwitches.channelCrossLane channel
  | .reference => referenceCrossLane

/-- The switch of the signal is on. -/
def IsOn (switches : AuxSwitches) : Injection → Prop
  | .externalInput channel => switches.hasInput channel.val = true
  | .reference => switches.reference = true

instance (switches : AuxSwitches) :
    (injection : Injection) → Decidable (injection.IsOn switches)
  | .externalInput _ => inferInstanceAs (Decidable (_ = true))
  | .reference => inferInstanceAs (Decidable (_ = true))

/-- A port is where the signal comes from. -/
def StartsAt (port : Port) : Injection → Prop
  | .externalInput channel => port.kind = .externalInput ∧ port.number.toNat = channel.val
  | .reference => port.kind = .constant

variable {layout : Layout} {injection : Injection} {port : Port} {input : CrossLane}
  {placements : List Placement}

theorem isVirtual_of_startsAt (startsAt : injection.StartsAt port) :
    port.kind.isVirtual = true := by
  cases injection with
  | externalInput channel =>
      rw [startsAt.1]
      rfl
  | reference =>
      rw [show port.kind = .constant from startsAt]
      rfl

theorem input_eq_of_feeds (feeds : Placement.Feeds layout port input)
    (startsAt : injection.StartsAt port) : input = injection.crossLane := by
  cases injection with
  | externalInput channel =>
      obtain ⟨kind, number⟩ := startsAt
      obtain ⟨found, foundNumber, place⟩ := feeds.of_externalInput kind
      have sameChannel : found = channel := Fin.ext (foundNumber.symm.trans number)
      rw [sameChannel] at place
      exact Fin.ext place
  | reference =>
      exact Fin.ext (feeds.place_of_constant startsAt)

/-- A switch is on exactly when some placement starts at its signal. -/
theorem isOn_switches (feeds : ∀ placement ∈ placements,
      Placement.Feeds layout placement.wire.source placement.input) :
    injection.IsOn (Placement.switches placements) ↔
      ∃ placement ∈ placements, injection.StartsAt placement.wire.source := by
  cases injection with
  | externalInput channel =>
      refine Placement.hasInput_switches.trans (exists_congr fun placement => ?_)
      refine and_congr_right fun member => ?_
      constructor
      · rintro ⟨kind, place⟩
        refine ⟨kind, ?_⟩
        obtain ⟨found, number, foundPlace⟩ := (feeds placement member).of_externalInput kind
        omega
      · intro startsAt
        have input := input_eq_of_feeds (feeds placement member) startsAt
        exact ⟨startsAt.1, congrArg Fin.val input⟩
  | reference =>
      exact Placement.reference_switches

end Injection

namespace Compilation

variable {layout : Layout} {connections : List Connection} {injection : Injection}
  {placement : Placement}

/-! ## Signals that are read, and signals without a lane -/

/-- A route reads the signal from its cross-lane for a connection that starts there. -/
def IsRead (layout : Layout) (connections : List Connection) (routing : Routing)
    (injection : Injection) : Prop :=
  ∃ route ∈ routing.routes, route.input = injection.crossLane ∧
    ∃ resolved ∈ (Resolved.ofConnections connections).value,
      injection.StartsAt resolved.wire.source ∧
        ∃ placement, Placement.Placed layout resolved placement ∧
          route = ⟨route.lane, placement.input, placement.coefficient, placement.output⟩

/-- A pinned connection that starts at the signal found no lane, whether or not it
asked for one. -/
def IsStarved (routing : Routing) (injection : Injection) : Prop :=
  ∃ (wire : Wire) (lane : Option Lane), injection.StartsAt wire.source ∧
    ⟨.noFreeLane .pinned, .route wire (lane.map fun lane => lane.val.toUInt32)⟩ ∈ routing.errors

/-- The switches of a routing: on for the signals that are read or found no lane, so for
those that are read and no others unless some signal found no lane for any connection. -/
structure Switched (layout : Layout) (connections : List Connection) (routing : Routing) :
    Prop where
  on_iff : ∀ injection : Injection, injection.IsOn routing.switches ↔
    IsRead layout connections routing injection ∨ IsStarved routing injection
  exact_iff : (∀ injection : Injection, injection.IsOn routing.switches ↔
      IsRead layout connections routing injection) ↔
    ∀ injection, IsStarved routing injection → IsRead layout connections routing injection
  exhausted : ∀ injection, IsStarved routing injection →
    ∀ lane, ∃ route ∈ routing.routes, route.lane = lane

/-! ## From switches to routes -/

/-- A pinned placement that cannot be hidden becomes a route or finds no lane. -/
theorem route_or_noFreeLane (member : placement ∈ pinned layout connections)
    (isVirtual : placement.wire.source.kind.isVirtual = true) :
    (∃ route ∈ (pinnedRoutes layout connections).value, route = placement.onLane route.lane) ∨
      ⟨.noFreeLane .pinned, placement.subject⟩ ∈ (pinnedRoutes layout connections).errors := by
  have feeds := feeds_of_origins (pinned_origins layout connections)
  have visible : placement ∈ (pinned layout connections).filter fun placement =>
      ¬placement.Hidden layout (Compilation.switches layout connections) :=
    List.mem_filter.mpr ⟨member, by simpa using Placement.not_hidden_of_isVirtual isVirtual⟩
  obtain ⟨fates, aligned, sameValues, sameErrors, _⟩ :=
    LaneAssignment.accounted_settle .pinned ∅ _
  obtain ⟨fate, isFate, assigned⟩ := exists_item aligned visible
  rw [pinnedRoutes, value_routesOf feeds, errors_routesOf feeds]
  cases fate with
  | kept route =>
      refine .inl ⟨route, ?_, assigned⟩
      rw [← sameValues]
      exact List.mem_filterMap.mpr ⟨_, isFate, rfl⟩
  | failed error =>
      rw [← show error = _ from assigned]
      refine .inr (List.mem_append_right _ (sameErrors.mem_iff.mp ?_))
      exact List.mem_filterMap.mpr ⟨_, isFate, rfl⟩
  | spent =>
      exact assigned.elim

/-! ## From errors to switches -/

/-- A group reports its own placements for want of a lane. -/
theorem exists_placement_of_noFreeLane {group found : Group} {switches : AuxSwitches}
    {kept : LaneSet} {placements : List Placement} {subject : RoutingSubject}
    (feeds : ∀ placement ∈ placements,
      Placement.Feeds layout placement.wire.source placement.input)
    (failed : ⟨.noFreeLane found, subject⟩ ∈ (routesOf group switches kept placements).errors) :
    found = group ∧ ∃ placement ∈ placements, subject = placement.subject := by
  rw [errors_routesOf feeds] at failed
  rcases List.mem_append.mp failed with hidden | unsettled
  · rw [Placement.dropShadowed, Traced.errors_collectAll, Traced.mem_failures] at hidden
    obtain ⟨_, _, dropped⟩ := List.mem_map.mp hidden
    have otherCode := Placement.code_of_checkShadow dropped
    simp [RoutingError.code, Cause.code] at otherCode
  · obtain ⟨fates, aligned, _, sameErrors, _⟩ := LaneAssignment.accounted_settle group kept
      (placements.filter fun placement => ¬placement.Hidden layout switches)
    obtain ⟨fate, isFate, isError⟩ := List.mem_filterMap.mp (sameErrors.mem_iff.mpr unsettled)
    obtain ⟨placement, visible, assigned⟩ := exists_result aligned isFate
    cases fate with
    | kept route =>
        cases isError
    | spent =>
        cases isError
    | failed error =>
        cases isError
        obtain ⟨sameCause, sameSubject⟩ := RoutingError.mk.inj assigned
        exact ⟨Cause.noFreeLane.inj sameCause, placement, List.mem_of_mem_filter visible,
          sameSubject⟩

theorem IsStarved.exists_pinned
    (starved : IsStarved (routing layout connections) injection) :
    ∃ placement ∈ pinned layout connections, injection.StartsAt placement.wire.source := by
  obtain ⟨wire, lane, startsAt, failed⟩ := starved
  change _ ∈ errors layout connections at failed
  simp only [errors, List.mem_append] at failed
  rcases failed with resolving | pinning | pinnedFailed | placing | flexibleFailed
  · have otherCode := Resolved.code_of_ofConnections resolving
    simp [RoutingError.code, Cause.code] at otherCode
  · have otherCode := Placement.code_of_outcomes (Traced.mem_failures.mp pinning)
    simp [RoutingError.code, Cause.code] at otherCode
  · obtain ⟨_, placement, member, sameSubject⟩ := exists_placement_of_noFreeLane
      (feeds_of_origins (pinned_origins layout connections)) pinnedFailed
    have sameWire : wire = placement.wire := (RoutingSubject.route.inj sameSubject).1
    exact ⟨placement, member, sameWire ▸ startsAt⟩
  · have otherCode := Placement.code_of_placeAll placing
    simp [RoutingError.code, Cause.code] at otherCode
  · obtain ⟨otherGroup, _⟩ := exists_placement_of_noFreeLane
      (feeds_of_origins (placed_origins layout connections)) flexibleFailed
    cases otherGroup

theorem mem_pinned_of_startsAt {resolved : Resolved}
    (member : resolved ∈ (Resolved.ofConnections connections).value)
    (startsAt : injection.StartsAt resolved.wire.source)
    (placed : Placement.Placed layout resolved placement) :
    placement ∈ pinned layout connections := by
  have isVirtual : resolved.isVirtual = true := by
    rw [Resolved.isVirtual, Injection.isVirtual_of_startsAt startsAt, Bool.true_or]
  have isPinned : .ok placement ∈ Placement.outcomes layout (virtual connections) := by
    refine List.mem_filterMap.mpr ⟨resolved, List.mem_filter.mpr ⟨member, isVirtual⟩, ?_⟩
    rw [Placement.pin_of_placed isVirtual placed]
    rfl
  exact List.mem_filterMap.mpr ⟨_, isPinned, rfl⟩

/-! ## The theorem -/

theorem isOn_iff (injection : Injection) :
    injection.IsOn (switches layout connections) ↔
      IsRead layout connections (routing layout connections) injection ∨
        IsStarved (routing layout connections) injection := by
  have origins := pinned_origins layout connections
  have feeds := feeds_of_origins origins
  refine (Injection.isOn_switches feeds).trans ⟨?_, ?_⟩
  · rintro ⟨placement, member, startsAt⟩
    obtain ⟨resolved, isResolved, placed⟩ := exists_origin origins member
    rcases route_or_noFreeLane member (Injection.isVirtual_of_startsAt startsAt) with
      ⟨route, isRoute, onLane⟩ | noLane
    · refine .inl ⟨route, List.mem_append_left _ isRoute, ?_, resolved,
        List.mem_of_mem_filter isResolved, ?_, placement, placed, onLane⟩
      · rw [onLane]
        exact Injection.input_eq_of_feeds (feeds placement member) startsAt
      · rwa [← placed.wire_eq]
    · refine .inr ⟨placement.wire, placement.lane, startsAt, ?_⟩
      change _ ∈ errors layout connections
      simp only [errors, List.mem_append]
      exact .inr (.inr (.inl noLane))
  · rintro (⟨route, _, _, resolved, isResolved, startsAt, placement, placed, _⟩ | starved)
    · refine ⟨placement, mem_pinned_of_startsAt isResolved startsAt placed, ?_⟩
      rwa [placed.wire_eq]
    · exact starved.exists_pinned

/-- Switches are on for what is read and for what found no lane. -/
theorem switched_of_compile {routing : Routing}
    (compiled : (compile layout connections).value = .ok routing) :
    Switched layout connections routing := by
  obtain ⟨_, rfl⟩ := compile_eq_ok_iff.mp compiled
  refine ⟨isOn_iff, ?_, ?_⟩
  · constructor
    · intro exact injection starved
      exact (exact injection).mp ((isOn_iff injection).mpr (.inr starved))
    · intro starvedRead injection
      refine (isOn_iff injection).trans ?_
      exact or_iff_left_of_imp (starvedRead injection)
  · rintro injection ⟨wire, lane, _, failed⟩
    exact (fillsLanes_routing layout connections).exhausted ⟨_, failed, rfl⟩

/-- The external input is read by both of its branches. -/
theorem switched_fannedCircuit :
    (compile .standard fannedCircuit).value = .ok (routing .standard fannedCircuit) ∧
      Switched .standard fannedCircuit (routing .standard fannedCircuit) ∧
      (Injection.externalInput 0).IsOn (routing .standard fannedCircuit).switches := by
  have compiled : (compile .standard fannedCircuit).value =
      .ok (routing .standard fannedCircuit) :=
    value_compile_of_isOk (by decide +kernel)
  exact ⟨compiled, switched_of_compile compiled, by decide +kernel⟩

/-- External inputs on all lanes, and a constant after them. -/
def starvedCircuit : List Connection :=
  ((List.range 32).map (fun number =>
      wired? (port? .externalInput (number % 8).toUInt32 .source)
        (port? .integrator (number / 8).toUInt32 .input) none) ++
    [wired? (port? .constant 0 .source) (port? .multiplier 0 .a) none]).reduceOption

/-- The constant finds no lane, and the reference stays on though no route reads its
cross-lane. -/
theorem not_read_starvedCircuit :
    (compile .standard starvedCircuit).value = .ok (routing .standard starvedCircuit) ∧
      Injection.reference.IsOn (routing .standard starvedCircuit).switches ∧
      (∀ route ∈ (routing .standard starvedCircuit).routes, route.input ≠ referenceCrossLane) ∧
      ¬IsRead .standard starvedCircuit (routing .standard starvedCircuit) .reference ∧
      (routing .standard starvedCircuit).errors.map RoutingError.text =
        ["[R105] no free lane for pinned route: Const0source -> Mul0a"] := by
  have compiled : (compile .standard starvedCircuit).value =
      .ok (routing .standard starvedCircuit) :=
    value_compile_of_isOk (by decide +kernel)
  have noRoute : ∀ route ∈ (routing .standard starvedCircuit).routes,
      route.input ≠ referenceCrossLane := by
    decide +kernel
  refine ⟨compiled, by decide +kernel, noRoute, ?_, by decide +kernel⟩
  rintro ⟨route, isRoute, input, _⟩
  exact noRoute route isRoute input

end Compilation

end Crossbar
