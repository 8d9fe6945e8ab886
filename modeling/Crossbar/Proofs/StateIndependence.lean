import Crossbar.Proofs.ZeroSigns

/-!
# States that do not matter

Of all the state that the ends of connections carry, a compilation reads only the
coefficients of potentiometers.  Two circuits with the same ports and with
coefficients that agree are stopped by the same fault, or they are compiled to the
same errors and switches and to equal routes.

Coefficients agree when they are the same or equal, and then they are the same
without the signs of zeros.  Nothing else of the states is left once the connections
are links, and every later step commutes with leaving out those signs.
-/

namespace Crossbar

/-! ## Connections that agree -/

/-- Two coefficients are the same, or they are equal numbers. -/
def Coefficient.Agree (first second : Float) : Prop :=
  first = second ∨ (first == second) = true

instance (first second : Float) : Decidable (Coefficient.Agree first second) :=
  inferInstanceAs (Decidable (_ ∨ _))

instance : (first second : Option Float) → Decidable (Option.Rel Coefficient.Agree first second)
  | none, none => isTrue .none
  | none, some _ => isFalse nofun
  | some _, none => isFalse nofun
  | some first, some second =>
    decidable_of_iff (Coefficient.Agree first second) ⟨.some, fun | .some agree => agree⟩

theorem Coefficient.Agree.unsigned_eq {first second : Float} (agree : Agree first second) :
    unsigned first = unsigned second := by
  rcases agree with rfl | equal
  · rfl
  · exact unsigned_eq_of_beq equal

/-- Two ends are the same port, and a potentiometer has coefficients that agree. -/
structure Endpoint.Agrees (first second : Endpoint) : Prop where
  port : first.port = second.port
  coefficient : first.port.kind = .potentiometer →
    Option.Rel Coefficient.Agree first.coefficient? second.coefficient?

structure Connection.Agrees (first second : Connection) : Prop where
  source : first.source.Agrees second.source
  target : first.target.Agrees second.target

instance (first second : Endpoint) : Decidable (first.Agrees second) :=
  decidable_of_iff (first.port = second.port ∧ (first.port.kind = .potentiometer →
      Option.Rel Coefficient.Agree first.coefficient? second.coefficient?))
    ⟨fun agrees => ⟨agrees.1, agrees.2⟩, fun agrees => ⟨agrees.port, agrees.coefficient⟩⟩

instance (first second : Connection) : Decidable (first.Agrees second) :=
  decidable_of_iff (first.source.Agrees second.source ∧ first.target.Agrees second.target)
    ⟨fun agrees => ⟨agrees.1, agrees.2⟩, fun agrees => ⟨agrees.source, agrees.target⟩⟩

theorem Connection.Agrees.wire_eq {first second : Connection} (agrees : first.Agrees second) :
    first.wire = second.wire := by
  rw [Connection.wire, agrees.source.port, agrees.target.port, Connection.wire]

/-! ## Links -/

namespace Link

/-- Coefficients that agree are both in range, or they are the same. -/
theorem checkPotentiometer_agrees (wire : Wire) {first second : Endpoint}
    (agrees : first.Agrees second) (kind : first.port.kind = .potentiometer) :
    (checkPotentiometer wire first).map (Prod.map id (Option.map Coefficient.unsigned)) =
      (checkPotentiometer wire second).map (Prod.map id (Option.map Coefficient.unsigned)) := by
  unfold checkPotentiometer
  dsimp only
  rw [agrees.port]
  cases Lane.ofNat? second.port.number.toNat with
  | none => rfl
  | some lane =>
      have coefficients := agrees.coefficient kind
      generalize first.coefficient? = firstCoefficient at coefficients
      generalize second.coefficient? = secondCoefficient at coefficients
      cases coefficients with
      | none => rfl
      | @some firstValue secondValue agree =>
          have same := agree.unsigned_eq
          have sameRange : inRange firstValue = inRange secondValue := by
            rw [← Coefficient.inRange_unsigned, same, Coefficient.inRange_unsigned]
          cases range : inRange secondValue with
          | true => simp [sameRange, range, Except.map, same]
          | false =>
              rw [range] at sameRange
              rw [Coefficient.unsigned_of_not_inRange sameRange,
                Coefficient.unsigned_of_not_inRange range] at same
              rw [same]

/-- Potentiometers that agree make links that are the same without the signs of zeros. -/
theorem map_checkPotentiometer_agrees (wire : Wire) {make : Lane × Option Float → Link}
    (commutes : ∀ found, (make found).unsigned =
      make (Prod.map id (Option.map Coefficient.unsigned) found))
    {first second : Endpoint} (agrees : first.Agrees second)
    (kind : first.port.kind = .potentiometer) :
    ((checkPotentiometer wire first).map make).map unsigned =
      ((checkPotentiometer wire second).map make).map unsigned := by
  have pushed (checked : Except RoutingError (Lane × Option Float)) :
      (checked.map make).map unsigned =
        (checked.map (Prod.map id (Option.map Coefficient.unsigned))).map make := by
    cases checked with
    | error error => rfl
    | ok found => exact congrArg Except.ok (commutes found)
  rw [pushed, pushed, checkPotentiometer_agrees wire agrees kind]

theorem ofConnection_agrees {first second : Connection} (agrees : first.Agrees second) :
    (ofConnection first).map unsigned = (ofConnection second).map unsigned := by
  have sameWire := agrees.wire_eq
  cases shape : second.wire.shapeFault? with
  | some fault =>
      rw [ofConnection_of_fault shape, ofConnection_of_fault (sameWire ▸ shape), sameWire]
  | none =>
      have wellShaped := Wire.shapeFault?_eq_none_iff.mp shape
      have firstShaped : first.wire.WellShaped := sameWire ▸ wellShaped
      by_cases source : second.wire.source.kind = .potentiometer
      · have firstSource : first.wire.source.kind = .potentiometer := sameWire ▸ source
        rw [ofConnection_of_source wellShaped source,
          ofConnection_of_source firstShaped firstSource, sameWire]
        exact map_checkPotentiometer_agrees second.wire (fun _ => rfl) agrees.source firstSource
      · have firstSource : first.wire.source.kind ≠ .potentiometer := sameWire ▸ source
        by_cases target : second.wire.target.kind = .potentiometer
        · have firstTarget : first.wire.target.kind = .potentiometer := sameWire ▸ target
          rw [ofConnection_of_target wellShaped source target,
            ofConnection_of_target firstShaped firstSource firstTarget, sameWire]
          exact map_checkPotentiometer_agrees second.wire (fun _ => rfl) agrees.target firstTarget
        · have firstTarget : first.wire.target.kind ≠ .potentiometer := sameWire ▸ target
          rw [ofConnection_of_direct wellShaped source target,
            ofConnection_of_direct firstShaped firstSource firstTarget, sameWire]

/-- The links of circuits that agree are the same without the signs of zeros, and so is
what is wrong with the other connections. -/
theorem map_ofConnection_agrees {first second : List Connection}
    (agree : List.Forall₂ Connection.Agrees first second) :
    (first.map ofConnection).map (Except.map unsigned) =
      (second.map ofConnection).map (Except.map unsigned) := by
  induction agree with
  | nil => rfl
  | cons headAgrees _ inductionHypothesis =>
      simp only [List.map_cons, ofConnection_agrees headAgrees, inductionHypothesis]

end Link

/-! ## Circuits that agree -/

section Circuits

variable {first second : List Connection} (agree : List.Forall₂ Connection.Agrees first second)

include agree

namespace Resolved

theorem links_agree : (links first).map Link.unsigned = (links second).map Link.unsigned := by
  rw [links, links, ← Traced.value_collectAll_map, Link.map_ofConnection_agrees agree,
    Traced.value_collectAll_map]

theorem joined_agree :
    (ofLinks (links first) ∅ (links first)).map (Except.map unsigned) =
      (ofLinks (links second) ∅ (links second)).map (Except.map unsigned) := by
  rw [← ofLinks_unsigned, links_agree agree, ofLinks_unsigned]

theorem value_ofConnections_agree :
    (ofConnections first).value.map unsigned = (ofConnections second).value.map unsigned := by
  rw [value_ofConnections, value_ofConnections, ← Traced.value_collectAll_map,
    joined_agree agree, Traced.value_collectAll_map]

theorem errors_ofConnections_agree :
    (ofConnections first).errors = (ofConnections second).errors := by
  have shapes := congrArg Traced.failures (Link.map_ofConnection_agrees agree)
  have halves := congrArg Traced.failures (joined_agree agree)
  simp only [Traced.failures_map_map] at shapes halves
  rw [errors_ofConnections, errors_ofConnections, shapes, halves]

/-- The part of a circuit that is picked by its ports. -/
theorem filter_agree {pick : Resolved → Bool} (ports : pick ∘ unsigned = pick) :
    ((ofConnections first).value.filter pick).map unsigned =
      ((ofConnections second).value.filter pick).map unsigned := by
  have pushed (connections : List Resolved) :
      (connections.filter pick).map unsigned = (connections.map unsigned).filter pick := by
    rw [List.filter_map, ports]
  rw [pushed, pushed, value_ofConnections_agree agree]

theorem findSome?_fault?_agree :
    (ofConnections first).value.findSome? fault? =
      (ofConnections second).value.findSome? fault? := by
  have pushed (connections : List Resolved) :
      connections.findSome? fault? = (connections.map unsigned).findSome? fault? := by
    rw [List.findSome?_map]
    exact congrArg (connections.findSome? ·) (funext fun _ => (fault?_unsigned _).symm)
  rw [pushed, value_ofConnections_agree agree, ← pushed]

end Resolved

namespace Compilation

variable (layout : Layout)

theorem virtual_agree :
    (virtual first).map Resolved.unsigned = (virtual second).map Resolved.unsigned :=
  Resolved.filter_agree agree rfl

theorem physical_agree :
    (physical first).map Resolved.unsigned = (physical second).map Resolved.unsigned :=
  Resolved.filter_agree agree rfl

theorem outcomes_agree :
    (Placement.outcomes layout (virtual first)).map (Except.map Placement.unsigned) =
      (Placement.outcomes layout (virtual second)).map (Except.map Placement.unsigned) := by
  rw [← Placement.outcomes_unsigned, virtual_agree agree, Placement.outcomes_unsigned]

theorem pinned_agree :
    (pinned layout first).map Placement.unsigned =
      (pinned layout second).map Placement.unsigned := by
  rw [pinned, pinned, ← Traced.value_collectAll_map, outcomes_agree agree layout,
    Traced.value_collectAll_map]

theorem switches_agree : switches layout first = switches layout second := by
  rw [switches, ← Placement.switches_unsigned, pinned_agree agree layout,
    Placement.switches_unsigned, switches]

theorem placed_agree :
    (placed layout first).map Placement.unsigned =
      (placed layout second).map Placement.unsigned :=
  (Placement.commutes_placeAll layout).value_eq (physical_agree agree)

theorem value_pinnedRoutes_agree :
    (pinnedRoutes layout first).value.map Route.unsigned =
      (pinnedRoutes layout second).value.map Route.unsigned := by
  rw [pinnedRoutes, pinnedRoutes, switches_agree agree layout]
  exact (commutes_routesOf _ _ _).value_eq (pinned_agree agree layout)

theorem errors_pinnedRoutes_agree :
    (pinnedRoutes layout first).errors = (pinnedRoutes layout second).errors := by
  rw [pinnedRoutes, pinnedRoutes, switches_agree agree layout]
  exact (commutes_routesOf _ _ _).errors_eq (pinned_agree agree layout)

theorem reserved_agree : reserved layout first = reserved layout second := by
  rw [reserved, ← Route.map_lane_unsigned, value_pinnedRoutes_agree agree layout,
    Route.map_lane_unsigned, reserved]

theorem value_flexibleRoutes_agree :
    (flexibleRoutes layout first).value.map Route.unsigned =
      (flexibleRoutes layout second).value.map Route.unsigned := by
  rw [flexibleRoutes, flexibleRoutes, switches_agree agree layout, reserved_agree agree layout]
  exact (commutes_routesOf _ _ _).value_eq (placed_agree agree layout)

theorem errors_flexibleRoutes_agree :
    (flexibleRoutes layout first).errors = (flexibleRoutes layout second).errors := by
  rw [flexibleRoutes, flexibleRoutes, switches_agree agree layout, reserved_agree agree layout]
  exact (commutes_routesOf _ _ _).errors_eq (placed_agree agree layout)

theorem errors_agree : errors layout first = errors layout second := by
  have pinning := congrArg Traced.failures (outcomes_agree agree layout)
  simp only [Traced.failures_map_map] at pinning
  rw [errors, Resolved.errors_ofConnections_agree agree, pinning,
    errors_pinnedRoutes_agree agree layout,
    (Placement.commutes_placeAll layout).errors_eq (physical_agree agree),
    errors_flexibleRoutes_agree agree layout, errors]

theorem routes_agree :
    ((routing layout first).routes == (routing layout second).routes) = true := by
  apply Route.beq_of_map_unsigned_eq
  · simp only [routing, List.map_append, value_pinnedRoutes_agree agree layout,
      value_flexibleRoutes_agree agree layout]
  · intro route member
    exact Coefficient.beq_self_of_inRange (inRange_of_mem member)

end Compilation

end Circuits

/-! ## Outcomes -/

namespace Compilation

/-- Two compilations are stopped by the same fault, or they give the same errors and
auxiliary signals and equal routes. -/
inductive SameOutcome : Except RoutingFault Routing → Except RoutingFault Routing → Prop
  | fault (fault : RoutingFault) : SameOutcome (.error fault) (.error fault)
  | routing {first second : Routing} (routes : (first.routes == second.routes) = true)
      (errors : first.errors = second.errors) (switches : first.switches = second.switches) :
      SameOutcome (.ok first) (.ok second)

/-- Of the states of a circuit only the coefficients of potentiometers matter. -/
theorem sameOutcome_of_agrees (layout : Layout) {first second : List Connection}
    (agree : List.Forall₂ Connection.Agrees first second) :
    SameOutcome (compile layout first).value (compile layout second).value := by
  have sameFaults : ∀ fault, (compile layout first).value = .error fault ↔
      (compile layout second).value = .error fault := by
    intro fault
    rw [value_compile_eq_error_iff, value_compile_eq_error_iff,
      Resolved.findSome?_fault?_agree agree]
  cases compiled : (compile layout first).value with
  | error fault =>
      rw [(sameFaults fault).mp compiled]
      exact SameOutcome.fault fault
  | ok found =>
      cases others : (compile layout second).value with
      | error fault =>
          rw [(sameFaults fault).mpr others] at compiled
          cases compiled
      | ok other =>
          rw [(compile_eq_ok_iff.mp compiled).2, (compile_eq_ok_iff.mp others).2]
          exact SameOutcome.routing (routes_agree agree layout) (errors_agree agree layout)
            (switches_agree agree layout)

/-- A way through a potentiometer whose coefficient is zero, one through a potentiometer
without a coefficient, and half a way into a potentiometer whose coefficient is no
number.  `states` are those of the ends, two for each connection. -/
def threeWays (states : List (Option State)) : List Connection :=
  let ends (place : Nat) (port : Option Port) : Option Endpoint :=
    port.map fun port => ⟨port, (states[place]?).join⟩
  let wire (place : Nat) (source target : Option Port) : Option Connection := do
    return ⟨← ends (2 * place) source, ← ends (2 * place + 1) target⟩
  [wire 0 (port? .integrator 0 .output) (port? .potentiometer 3 .input),
    wire 1 (port? .potentiometer 3 .output) (port? .integrator 1 .input),
    wire 2 (port? .integrator 1 .output) (port? .potentiometer 4 .input),
    wire 3 (port? .potentiometer 4 .output) (port? .multiplier 0 .a),
    wire 4 (port? .integrator 2 .output) (port? .potentiometer 5 .input)].reduceOption

/-- Only the coefficients of the potentiometers that have one. -/
def bareStates : List (Option State) :=
  [none, some (.potentiometer (-0.0)), none, none, none, none, none, none, none,
    some (.potentiometer (0.0 / 0.0))]

/-- The other sign of the zero, states of integrators everywhere else, and a coefficient
out of range at an integrator. -/
def busyStates : List (Option State) :=
  [some (.integrator 0.5 none), some (.potentiometer 0.0), none,
    some (.potentiometer 30.0), none, some (.integrator 1.0 (some 100)),
    some (.integrator (-1.0) none), some (.integrator 0.25 (some 10000)), none,
    some (.potentiometer (0.0 / 0.0))]

/-- The routes are equal without being the same, since a zero keeps its sign. -/
theorem sameOutcome_threeWays :
    List.Forall₂ Connection.Agrees (threeWays bareStates) (threeWays busyStates) ∧
      SameOutcome (compile .standard (threeWays bareStates)).value
        (compile .standard (threeWays busyStates)).value ∧
      (routing .standard (threeWays busyStates)).routes.map Route.lane = [3, 4] ∧
      (routing .standard (threeWays bareStates)).routes.map Route.coefficient ≠
        (routing .standard (threeWays busyStates)).routes.map Route.coefficient ∧
      (routing .standard (threeWays busyStates)).errors.map RoutingError.code =
        [⟨.routing, 108⟩] := by
  have agree : List.Forall₂ Connection.Agrees (threeWays bareStates) (threeWays busyStates) := by
    decide +kernel
  exact ⟨agree, sameOutcome_of_agrees .standard agree, by decide +kernel, by decide +kernel,
    by decide +kernel⟩

end Compilation

end Crossbar
