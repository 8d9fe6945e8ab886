import Crossbar.Proofs.Expand

/-!
# Reconstructing what was compiled

Expanding the routes of a compiled circuit gives its resolved connections back.
Every route is assigned to the connection it was compiled from; the pinned routes
come first, and both groups keep the order of the circuit.  A route that is
expanded starts where its connection starts, up to the number of a constant, and
a route with an output ends where its connection ends.

No cross-lane is read for something else: the placements that are dropped are
exactly those whose source an auxiliary signal hides.
-/

namespace Crossbar

namespace Compilation

variable {layout : Layout} {connections : List Connection} {switches : AuxSwitches}
  {route : Route} {routes : List Route} {resolved : Resolved} {origins : List Resolved}
  {constants : Nat}

/-! ## Expanded routes and their origins -/

/-- An expansion gives the origins of the routes back, except for the taps that
are skipped.  A route is expanded into two connections that meet at the potentiometer
of its lane, and both carry its coefficient there. -/
inductive Recovers : List Route → List Resolved → List Connection → Prop
  | nil : Recovers [] [] []
  | skipped {route : Route} {origin : Resolved} {routes : List Route} {origins : List Resolved}
      {expanded : List Connection} (tap : route.output = none) (unheard : 16 ≤ route.lane.val)
      (later : Recovers routes origins expanded) :
      Recovers (route :: routes) (origin :: origins) expanded
  | recovered {route : Route} {origin : Resolved} {routes : List Route}
      {origins : List Resolved} {expanded : List Connection} {source target : Port}
      (heard : route.output ≠ none ∨ route.lane.val < 16)
      (sameSource : source.SameUpToConstant origin.wire.source)
      (sameTarget : route.output ≠ none → target = origin.wire.target)
      (later : Recovers routes origins expanded) :
      Recovers (route :: routes) (origin :: origins)
        (⟨⟨source, none⟩, ⟨.potentiometer route.lane.val.toUInt32 .sink,
            some (.potentiometer route.coefficient)⟩⟩ ::
          ⟨⟨.potentiometer route.lane.val.toUInt32 .source,
            some (.potentiometer route.coefficient)⟩, ⟨target, none⟩⟩ :: expanded)

/-- A route with an output ends at the target of its origin. -/
theorem CompiledFrom.target_eq (compiledFrom : CompiledFrom layout switches route resolved)
    (sound : resolved.Sound) (leaves : route.output ≠ none) :
    Expansion.target? layout route = some resolved.wire.target := by
  obtain ⟨output, leavesOn⟩ := Option.ne_none_iff_exists'.mp leaves
  have wired := compiledFrom.crossLaneOf_target leavesOn
  rw [Expansion.target?_of_output leavesOn, ← sound.entersInput,
    Layout.portAt_of_crossLaneOf wired]

theorem recovers_ofRoutes
    (compiledFrom : List.Forall₂ (CompiledFrom layout switches) routes origins)
    (sound : ∀ origin ∈ origins, origin.Sound) :
    Recovers routes origins (Expansion.ofRoutes layout switches constants routes).value := by
  induction compiledFrom generalizing constants with
  | nil =>
      exact Recovers.nil
  | @cons route origin routes origins headFrom _ inductionHypothesis =>
      have headSound := sound origin (List.mem_cons_self ..)
      have later : ∀ constants, Recovers routes origins
          (Expansion.ofRoutes layout switches constants routes).value :=
        fun _ => inductionHypothesis fun other member =>
          sound other (List.mem_cons_of_mem _ member)
      cases expanded : Expansion.target? layout route with
      | none =>
          obtain ⟨tap, unheard⟩ := Expansion.target?_eq_none_iff.mp expanded
          rw [Expansion.value_ofRoutes_unheard expanded]
          exact Recovers.skipped tap unheard (later constants)
      | some target =>
          rw [Expansion.value_ofRoutes_heard expanded]
          refine Recovers.recovered ?_ ?_ ?_ (later _)
          · have isHeard : Expansion.target? layout route ≠ none := by simp [expanded]
            rw [Ne, Expansion.target?_eq_none_iff, not_and_or, not_le] at isHeard
            exact isHeard
          · exact Expansion.source_of_carries headFrom.carries headSound.leavesOutput
          · intro leaves
            have sameTarget := headFrom.target_eq headSound leaves
            rw [expanded, Option.some.injEq] at sameTarget
            exact sameTarget

/-! ## Dropped placements -/

/-- The error of a placement whose source is hidden. -/
def ReportsShadow (error : RoutingError) (placement : Placement) : Prop :=
  ∃ signal, error = ⟨.shadowedSource placement.input signal placement.wire.source,
    .route placement.wire (placement.lane.map fun lane => lane.val.toUInt32)⟩

theorem ReportsShadow.code_eq {error : RoutingError} {placement : Placement}
    (reports : ReportsShadow error placement) : error.code = ⟨.routing, 110⟩ := by
  obtain ⟨signal, rfl⟩ := reports
  rfl

/-- The shadow errors of a group are those of its hidden placements. -/
theorem shadows_routesOf {group : Group} {kept : LaneSet} {placements : List Placement}
    (feeds : ∀ placement ∈ placements,
      Placement.Feeds layout placement.wire.source placement.input) :
    List.Forall₂ ReportsShadow
      ((routesOf group switches kept placements).errors.filter
        fun error => error.code = ⟨.routing, 110⟩)
      (placements.filter fun placement => placement.Hidden layout switches) := by
  have reported : List.Forall₂ ReportsShadow (Placement.dropShadowed switches placements).errors
      (placements.filter fun placement => placement.Hidden layout switches) :=
    Placement.errors_dropShadowed feeds
  have kept : (Placement.dropShadowed switches placements).errors.filter
      (fun error => error.code = ⟨.routing, 110⟩) =
      (Placement.dropShadowed switches placements).errors := by
    rw [List.filter_eq_self]
    intro error member
    obtain ⟨placement, _, reports⟩ := exists_item reported member
    simp [reports.code_eq]
  rw [errors_routesOf feeds, List.filter_append, kept, List.filter_eq_nil_iff.mpr,
    List.append_nil]
  · exact reported
  · intro error member
    simp [LaneAssignment.code_of_settle member]

theorem filter_shadows_eq_nil {errors : List RoutingError}
    (others : ∀ error ∈ errors, error.code ≠ ⟨.routing, 110⟩) :
    (errors.filter fun error => error.code = ⟨.routing, 110⟩) = [] := by
  rw [List.filter_eq_nil_iff]
  intro error member coded
  exact others error member (of_decide_eq_true coded)

/-- The shadow errors of a circuit are those of its hidden placements, the pinned
ones first. -/
theorem shadows_errors (layout : Layout) (connections : List Connection) :
    List.Forall₂ ReportsShadow
      ((errors layout connections).filter fun error => error.code = ⟨.routing, 110⟩)
      ((pinned layout connections ++ placed layout connections).filter fun placement =>
        placement.Hidden layout (Compilation.switches layout connections)) := by
  have resolving : (Resolved.ofConnections connections).errors.filter
      (fun error => error.code = ⟨.routing, 110⟩) = [] :=
    filter_shadows_eq_nil fun _ failed =>
      ne_of_mem_of_not_mem (Resolved.code_of_ofConnections failed) (by decide)
  have pinning : (Traced.failures (Placement.outcomes layout (virtual connections))).filter
      (fun error => error.code = ⟨.routing, 110⟩) = [] :=
    filter_shadows_eq_nil fun _ failed =>
      ne_of_mem_of_not_mem (Placement.code_of_outcomes (Traced.mem_failures.mp failed)) (by decide)
  have placing : (Placement.placeAll layout (physical connections)).errors.filter
      (fun error => error.code = ⟨.routing, 110⟩) = [] :=
    filter_shadows_eq_nil fun _ failed =>
      ne_of_mem_of_not_mem (Placement.code_of_placeAll failed) (by decide)
  simp only [errors, List.filter_append, resolving, pinning, placing, List.nil_append]
  exact List.rel_append (shadows_routesOf (feeds_of_origins (pinned_origins layout connections)))
    (shadows_routesOf (feeds_of_origins (placed_origins layout connections)))

/-! ## Compiled routings -/

/-- Expanding a routing gives back what was compiled into it, and what is hidden
was dropped. -/
structure Reconstructs (layout : Layout) (connections : List Connection) (routing : Routing) :
    Prop where
  recovered : ∃ pinnedOrigins flexibleOrigins : List Resolved,
    pinnedOrigins.Sublist (virtual connections) ∧
    flexibleOrigins.Sublist (physical connections) ∧
    List.Forall₂ (CompiledFrom layout routing.switches) routing.routes
      (pinnedOrigins ++ flexibleOrigins) ∧
    Recovers routing.routes (pinnedOrigins ++ flexibleOrigins)
      (expand layout routing.switches routing.routes).value
  dropped : List.Forall₂ ReportsShadow
    (routing.errors.filter fun error => error.code = ⟨.routing, 110⟩)
    ((pinned layout connections ++ placed layout connections).filter fun placement =>
      placement.Hidden layout routing.switches)

/-- Whatever compiles is reconstructed by expanding it. -/
theorem reconstructs_of_compile {routing : Routing}
    (compiled : (compile layout connections).value = .ok routing) :
    Reconstructs layout connections routing := by
  obtain ⟨_, rfl⟩ := compile_eq_ok_iff.mp compiled
  obtain ⟨pinnedOrigins, pinnedAligned, pinnedSublist⟩ :=
    List.sublistForall₂_iff.mp (pinnedRoutes_origins layout connections)
  obtain ⟨flexibleOrigins, flexibleAligned, flexibleSublist⟩ :=
    List.sublistForall₂_iff.mp (flexibleRoutes_origins layout connections)
  have aligned := List.rel_append pinnedAligned flexibleAligned
  have sound : ∀ origin ∈ pinnedOrigins ++ flexibleOrigins, origin.Sound := by
    intro origin member
    rcases List.mem_append.mp member with inPinned | inFlexible
    · exact sound_of_mem_virtual (pinnedSublist.subset inPinned)
    · exact sound_of_mem_physical (flexibleSublist.subset inFlexible)
  have recovers : Recovers (routing layout connections).routes (pinnedOrigins ++ flexibleOrigins)
      (expand layout (Compilation.switches layout connections)
        (routing layout connections).routes).value := by
    rw [Expansion.value_expand]
    exact recovers_ofRoutes aligned sound
  exact ⟨⟨pinnedOrigins, flexibleOrigins, pinnedSublist, flexibleSublist, aligned, recovers⟩,
    shadows_errors layout connections⟩

/-- The integrator whose cross-lane the external input takes is dropped, and the
error about the coefficient stays. -/
theorem reconstructs_fannedCircuit :
    (compile .standard fannedCircuit).value = .ok (routing .standard fannedCircuit) ∧
      Reconstructs .standard fannedCircuit (routing .standard fannedCircuit) ∧
      (routing .standard fannedCircuit).errors.map RoutingError.code =
        [⟨.routing, 108⟩, ⟨.routing, 110⟩] := by
  have compiled : (compile .standard fannedCircuit).value =
      .ok (routing .standard fannedCircuit) :=
    value_compile_of_isOk (by decide +kernel)
  exact ⟨compiled, reconstructs_of_compile compiled, by decide +kernel⟩

end Compilation

end Crossbar
