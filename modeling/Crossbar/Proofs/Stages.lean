import Crossbar.Proofs.LanePasses
import Crossbar.Proofs.Placement
import Crossbar.Routing.Compile

/-!
# The stages of a compilation

A compilation is one pass through its stages.  Each stage is named here as a
function of the circuit, and a compilation succeeds exactly when no pinned
connection stops it, with the routes, errors and auxiliary signals that the
stages give.
-/

namespace Crossbar

/-! ## Pinning a list -/

namespace Placement

/-- No connection stops the compilation. -/
def Unstopped (layout : Layout) (connections : List Resolved) : Prop :=
  ∀ resolved ∈ connections, ∃ outcome, pin layout resolved = .ok outcome

/-- What becomes of connections with a virtual element, faults left out. -/
def outcomes (layout : Layout) (connections : List Resolved) :
    List (Except RoutingError Placement) :=
  connections.filterMap fun resolved => (pin layout resolved).toOption

section PinAll

variable {layout : Layout} {connections rest : List Resolved} {resolved : Resolved}
  {placements : List Placement} {outcome : Except RoutingError Placement}

theorem unstopped_cons (pinned : pin layout resolved = .ok outcome) :
    Unstopped layout (resolved :: rest) ↔ Unstopped layout rest := by
  simp [Unstopped, pinned]

theorem outcomes_cons (pinned : pin layout resolved = .ok outcome) :
    outcomes layout (resolved :: rest) = outcome :: outcomes layout rest := by
  simp [outcomes, pinned, Except.toOption]

theorem value_pinAll_cons (pinned : pin layout resolved = .ok outcome) :
    (pinAll layout (resolved :: rest)).value =
      (pinAll layout rest).value.map fun placements => outcome.toOption.toList ++ placements := by
  rw [pinAll, pinned]
  cases outcome <;> rfl

theorem errors_pinAll_cons (pinned : pin layout resolved = .ok outcome) :
    (pinAll layout (resolved :: rest)).errors =
      Traced.failures [outcome] ++ (pinAll layout rest).errors := by
  rw [pinAll, pinned]
  simp

theorem value_pinAll (unstopped : Unstopped layout connections) :
    (pinAll layout connections).value =
      .ok (Traced.collectAll (outcomes layout connections)).value := by
  induction connections with
  | nil =>
      rfl
  | cons resolved rest inductionHypothesis =>
      obtain ⟨outcome, pinned⟩ := unstopped resolved (List.mem_cons_self ..)
      have tail := inductionHypothesis ((unstopped_cons pinned).mp unstopped)
      rw [value_pinAll_cons pinned, outcomes_cons pinned, tail]
      cases outcome <;> rfl

theorem errors_pinAll (unstopped : Unstopped layout connections) :
    (pinAll layout connections).errors = Traced.failures (outcomes layout connections) := by
  induction connections with
  | nil =>
      rfl
  | cons resolved rest inductionHypothesis =>
      obtain ⟨outcome, pinned⟩ := unstopped resolved (List.mem_cons_self ..)
      have tail := inductionHypothesis ((unstopped_cons pinned).mp unstopped)
      rw [errors_pinAll_cons pinned, outcomes_cons pinned, tail]
      cases outcome <;> rfl

/-- Only a list in which nothing stops the compilation is pinned. -/
theorem unstopped_of_value_pinAll (succeeded : (pinAll layout connections).value = .ok placements) :
    Unstopped layout connections := by
  induction connections generalizing placements with
  | nil =>
      intro resolved member
      cases member
  | cons resolved rest inductionHypothesis =>
      cases pinned : pin layout resolved with
      | error fault =>
          rw [pinAll, pinned] at succeeded
          cases succeeded
      | ok outcome =>
          rw [value_pinAll_cons pinned] at succeeded
          rw [unstopped_cons pinned]
          cases later : (pinAll layout rest).value with
          | error fault =>
              rw [later] at succeeded
              cases succeeded
          | ok laterPlacements => exact inductionHypothesis later

theorem code_of_pinSink {error : RoutingError}
    (failed : pinSink layout resolved = .ok (.error error)) :
    error.code ∈ [⟨.routing, 103⟩, ⟨.routing, 104⟩, ⟨.routing, 106⟩, ⟨.routing, 107⟩] := by
  unfold pinSink at failed
  dsimp only at failed
  split at failed
  · cases failed
  · split at failed <;> cases failed <;> simp [RoutingError.code, Cause.code]

theorem code_of_pinExternalInput {error : RoutingError}
    (failed : pinExternalInput layout resolved = .error error) :
    error.code ∈ [⟨.routing, 103⟩, ⟨.routing, 104⟩, ⟨.routing, 106⟩, ⟨.routing, 107⟩] := by
  unfold pinExternalInput at failed
  dsimp only at failed
  split at failed
  · split at failed
    · cases failed
    · cases failed
      simp [RoutingError.code, Cause.code]
  · cases failed
    simp [RoutingError.code, Cause.code]

theorem code_of_pinConstant {error : RoutingError}
    (failed : pinConstant layout resolved = .error error) :
    error.code ∈ [⟨.routing, 103⟩, ⟨.routing, 104⟩, ⟨.routing, 106⟩, ⟨.routing, 107⟩] := by
  unfold pinConstant at failed
  dsimp only at failed
  split at failed
  · cases failed
  · cases failed
    simp [RoutingError.code, Cause.code]

theorem outcomes_origins (layout : Layout) (connections : List Resolved) :
    List.SublistForall₂ (fun placement resolved => pin layout resolved = .ok (.ok placement))
      (Traced.collectAll (outcomes layout connections)).value connections := by
  induction connections with
  | nil =>
      exact List.SublistForall₂.nil
  | cons resolved rest inductionHypothesis =>
      cases pinned : pin layout resolved with
      | error fault =>
          have skipped : outcomes layout (resolved :: rest) = outcomes layout rest := by
            simp [outcomes, pinned, Except.toOption]
          rw [skipped]
          exact List.SublistForall₂.cons_right inductionHypothesis
      | ok outcome =>
          rw [outcomes_cons pinned]
          cases outcome with
          | ok placement => exact List.SublistForall₂.cons pinned inductionHypothesis
          | error error => exact List.SublistForall₂.cons_right inductionHypothesis

/-- Without an error every connection is placed. -/
theorem aligned_outcomes (unstopped : Unstopped layout connections)
    (complete : Traced.failures (outcomes layout connections) = []) :
    List.Forall₂ (fun placement resolved => pin layout resolved = .ok (.ok placement))
      (Traced.collectAll (outcomes layout connections)).value connections := by
  induction connections with
  | nil =>
      exact List.Forall₂.nil
  | cons resolved rest inductionHypothesis =>
      obtain ⟨outcome, pinned⟩ := unstopped resolved (List.mem_cons_self ..)
      rw [outcomes_cons pinned] at complete ⊢
      cases outcome with
      | ok placement =>
          exact List.Forall₂.cons pinned
            (inductionHypothesis ((unstopped_cons pinned).mp unstopped) complete)
      | error error => cases complete

/-- Pinning reports ports without a cross-lane, channels that do not exist and
virtual elements that cannot be joined. -/
theorem code_of_outcomes {error : RoutingError}
    (failed : .error error ∈ outcomes layout connections) :
    error.code ∈ [⟨.routing, 103⟩, ⟨.routing, 104⟩, ⟨.routing, 106⟩, ⟨.routing, 107⟩] := by
  obtain ⟨resolved, _, outcome⟩ := List.mem_filterMap.mp failed
  have pinned : pin layout resolved = .ok (.error error) := by
    cases pinned : pin layout resolved with
    | error fault =>
        rw [pinned] at outcome
        cases outcome
    | ok result =>
        rw [pinned] at outcome
        cases outcome
        rfl
  unfold pin at pinned
  split at pinned
  · exact code_of_pinSink pinned
  · exact code_of_pinSink pinned
  · exact code_of_pinExternalInput (Except.ok.inj pinned)
  · exact code_of_pinConstant (Except.ok.inj pinned)
  · cases pinned
    simp [RoutingError.code, Cause.code]

end PinAll

/-! ## Placing a list -/

theorem placeAll_eq (layout : Layout) (connections : List Resolved) :
    placeAll layout connections = Traced.collectAll
      (connections.zipIdx.map fun entry => ofPosition layout entry.1 entry.2) :=
  rfl

/-- Flexible placements keep the order of their connections. -/
theorem placeAll_origins (layout : Layout) (connections : List Resolved) :
    List.SublistForall₂ (fun placement resolved => Placed layout resolved placement)
      (placeAll layout connections).value connections := by
  rw [placeAll_eq]
  generalize 0 = start
  induction connections generalizing start with
  | nil =>
      exact List.SublistForall₂.nil
  | cons resolved rest inductionHypothesis =>
      have tail := inductionHypothesis (start + 1)
      rw [List.zipIdx_cons, List.map_cons]
      cases outcome : ofPosition layout resolved start with
      | ok placement => exact List.SublistForall₂.cons (placed_of_ofPosition outcome) tail
      | error error => exact List.SublistForall₂.cons_right tail

theorem code_of_placeAll {layout : Layout} {connections : List Resolved} {error : RoutingError}
    (failed : error ∈ (placeAll layout connections).errors) :
    error.code ∈ [⟨.routing, 103⟩, ⟨.routing, 104⟩] := by
  rw [placeAll_eq, Traced.errors_collectAll, Traced.mem_failures] at failed
  obtain ⟨⟨resolved, position⟩, _, outcome⟩ := List.mem_map.mp failed
  unfold ofPosition at outcome
  dsimp only at outcome
  split at outcome
  · cases outcome
    simp [RoutingError.code, Cause.code]
  · cases outcome
    simp [RoutingError.code, Cause.code]
  · cases outcome

/-! ## Dropping hidden placements -/

section DropShadowed

variable {layout : Layout} {switches : AuxSwitches} {placement : Placement}
  {placements : List Placement}

theorem checkShadow_of_visible
    (feeds : Feeds layout placement.wire.source placement.input)
    (visible : ¬placement.Hidden layout switches) :
    checkShadow switches placement = .ok placement := by
  rw [checkShadow, (shadow?_eq_none_iff feeds).mpr visible]

theorem checkShadow_of_hidden
    (feeds : Feeds layout placement.wire.source placement.input)
    (hidden : placement.Hidden layout switches) :
    ∃ signal, checkShadow switches placement =
      .error ⟨.shadowedSource placement.input signal placement.wire.source,
        placement.subject⟩ := by
  cases shadow : shadow? switches placement with
  | none => exact absurd hidden ((shadow?_eq_none_iff feeds).mp shadow)
  | some signal => exact ⟨signal, by rw [checkShadow, shadow]⟩

theorem code_of_checkShadow {error : RoutingError}
    (dropped : checkShadow switches placement = .error error) : error.code = ⟨.routing, 110⟩ := by
  unfold checkShadow at dropped
  split at dropped
  · cases dropped
    rfl
  · cases dropped

/-- The placements that are dropped are the hidden ones. -/
theorem value_dropShadowed
    (feeds : ∀ placement ∈ placements, Feeds layout placement.wire.source placement.input) :
    (dropShadowed switches placements).value =
      placements.filter fun placement => ¬placement.Hidden layout switches := by
  unfold dropShadowed
  induction placements with
  | nil =>
      rfl
  | cons placement rest inductionHypothesis =>
      have headFeeds := feeds placement (List.mem_cons_self ..)
      have tail := inductionHypothesis fun other member =>
        feeds other (List.mem_cons_of_mem _ member)
      rw [List.map_cons]
      by_cases hidden : placement.Hidden layout switches
      · obtain ⟨signal, dropped⟩ := checkShadow_of_hidden headFeeds hidden
        rw [dropped, Traced.value_collectAll_error_cons, tail,
          List.filter_cons_of_neg (by simpa using hidden)]
      · rw [checkShadow_of_visible headFeeds hidden, Traced.value_collectAll_ok_cons, tail,
          List.filter_cons_of_pos (by simpa using hidden)]

/-- Every hidden placement is reported once, in order. -/
theorem errors_dropShadowed
    (feeds : ∀ placement ∈ placements, Feeds layout placement.wire.source placement.input) :
    List.Forall₂ (fun error placement => ∃ signal,
        error = ⟨.shadowedSource placement.input signal placement.wire.source,
          placement.subject⟩)
      (dropShadowed switches placements).errors
      (placements.filter fun placement => placement.Hidden layout switches) := by
  rw [dropShadowed, Traced.errors_collectAll]
  induction placements with
  | nil =>
      exact List.Forall₂.nil
  | cons placement rest inductionHypothesis =>
      have headFeeds := feeds placement (List.mem_cons_self ..)
      have tail := inductionHypothesis fun other member =>
        feeds other (List.mem_cons_of_mem _ member)
      rw [List.map_cons]
      by_cases hidden : placement.Hidden layout switches
      · obtain ⟨signal, dropped⟩ := checkShadow_of_hidden headFeeds hidden
        rw [dropped, Traced.failures_error_cons,
          List.filter_cons_of_pos (by simpa using hidden)]
        exact List.Forall₂.cons ⟨signal, rfl⟩ tail
      · rw [checkShadow_of_visible headFeeds hidden, Traced.failures_ok_cons,
          List.filter_cons_of_neg (by simpa using hidden)]
        exact tail

/-- Nothing is dropped when nothing is hidden. -/
theorem dropShadowed_of_visible
    (feeds : ∀ placement ∈ placements, Feeds layout placement.wire.source placement.input)
    (visible : ∀ placement ∈ placements, ¬placement.Hidden layout switches) :
    (dropShadowed switches placements).value = placements ∧
      (dropShadowed switches placements).errors = [] := by
  have unchanged : placements.map (checkShadow switches) = placements.map .ok := by
    apply List.map_congr_left
    intro placement member
    exact checkShadow_of_visible (feeds placement member) (visible placement member)
  rw [dropShadowed, Traced.errors_collectAll, unchanged]
  exact ⟨(Traced.value_collectAll_map_ok id _).trans (List.map_id _),
    Traced.failures_map_ok id _⟩

end DropShadowed

end Placement

/-! ## The stages of a circuit -/

/-- The routes of one group of placements outside the reserved lanes. -/
def routesOf (group : Group) (switches : AuxSwitches) (reserved : LaneSet)
    (placements : List Placement) : Traced (List Route) := do
  let visible ← Placement.dropShadowed switches placements
  LaneAssignment.settle group reserved visible

/-- Either group is settled in its own way, and both are settled alike. -/
theorem routesAround_eq (layout : Layout) (switches : AuxSwitches)
    (placements : List Placement) (flexible : List Resolved) :
    routesAround layout switches placements flexible = (do
      let pinned ← routesOf .pinned switches ∅ placements
      let reserved := LaneSet.ofList (pinned.map Route.lane)
      Traced.emit (.pinnedSettled reserved.size)
      let placed ← Placement.placeAll layout flexible
      let routed ← routesOf .flexible switches reserved placed
      return pinned ++ routed) := by
  apply Traced.eq_of_value_events
  · simp only [routesAround, routesOf, LaneAssignment.settlePinned_eq,
      LaneAssignment.settleFlexible_eq, Traced.value_bind]
  · simp only [routesAround, routesOf, LaneAssignment.settlePinned_eq,
      LaneAssignment.settleFlexible_eq, Traced.value_bind, Traced.events_bind, List.append_assoc]

namespace Compilation

section Stages

variable (layout : Layout) (connections : List Connection)

def virtual : List Resolved :=
  (Resolved.ofConnections connections).value.filter Resolved.isVirtual

def physical : List Resolved :=
  (Resolved.ofConnections connections).value.filter fun resolved => !resolved.isVirtual

def pinned : List Placement :=
  (Traced.collectAll (Placement.outcomes layout (virtual connections))).value

def placed : List Placement := (Placement.placeAll layout (physical connections)).value

def switches : AuxSwitches := Placement.switches (pinned layout connections)

def pinnedRoutes : Traced (List Route) :=
  routesOf .pinned (switches layout connections) ∅ (pinned layout connections)

/-- The lanes that flexible routes give way to. -/
def reserved : LaneSet :=
  LaneSet.ofList ((pinnedRoutes layout connections).value.map Route.lane)

def flexibleRoutes : Traced (List Route) :=
  routesOf .flexible (switches layout connections) (reserved layout connections)
    (placed layout connections)

def errors : List RoutingError :=
  (Resolved.ofConnections connections).errors ++
    (Traced.failures (Placement.outcomes layout (virtual connections)) ++
      ((pinnedRoutes layout connections).errors ++
        ((Placement.placeAll layout (physical connections)).errors ++
          (flexibleRoutes layout connections).errors)))

/-- What the compilation of a circuit gives when nothing stops it. -/
def routing : Routing :=
  ⟨(pinnedRoutes layout connections).value ++ (flexibleRoutes layout connections).value,
    errors layout connections, switches layout connections⟩

end Stages

variable {layout : Layout} {connections : List Connection} {routing : Routing}

/-- As many lanes are reserved as there are pinned routes. -/
theorem card_reserved (layout : Layout) (connections : List Connection) :
    (reserved layout connections).members.card =
      (pinnedRoutes layout connections).value.length := by
  have distinct : ((pinnedRoutes layout connections).value.map Route.lane).Nodup :=
    LaneAssignment.nodup_settle _ _ _
  rw [reserved, LaneSet.members_ofList, List.toFinset_card_of_nodup distinct, List.length_map]

theorem value_routesAround :
    (routesAround layout (switches layout connections) (pinned layout connections)
      (physical connections)).value =
      (Compilation.routing layout connections).routes := by
  rw [routesAround_eq]
  rfl

theorem errors_routesAround :
    (routesAround layout (switches layout connections) (pinned layout connections)
      (physical connections)).errors =
      (pinnedRoutes layout connections).errors ++
        ((Placement.placeAll layout (physical connections)).errors ++
          (flexibleRoutes layout connections).errors) := by
  have quiet : (Traced.emit (.pinnedSettled (reserved layout connections).size)).errors = [] :=
    Traced.errors_emit rfl
  simp only [routesAround_eq, Traced.errors_bind, Traced.errors_pure, List.append_nil]
  rw [← pinnedRoutes, ← reserved, quiet]
  rfl

/-- The run of an unstopped circuit. -/
theorem routesOfCircuit_of_unstopped
    (unstopped : Placement.Unstopped layout (virtual connections)) :
    (routesOfCircuit layout connections).value =
        .ok ((Compilation.routing layout connections).routes, switches layout connections) ∧
      (routesOfCircuit layout connections).errors = errors layout connections := by
  have pinnedValue := Placement.value_pinAll unstopped
  have pinnedErrors := Placement.errors_pinAll unstopped
  have quiet (counted pinnedCount flexible : Nat) :
      (Traced.emit (.resolved counted pinnedCount flexible)).errors = [] :=
    Traced.errors_emit rfl
  have halved : (Resolved.ofConnections connections).value.partition Resolved.isVirtual =
      (virtual connections, physical connections) :=
    List.partition_eq_filter_filter
  simp only [routesOfCircuit, Traced.value_bind, Traced.errors_bind, halved, pinnedValue,
    pinnedErrors, quiet, List.nil_append, Traced.value_pure, Traced.errors_pure, List.append_nil]
  rw [← pinned, ← switches, value_routesAround, errors_routesAround]
  exact ⟨rfl, rfl⟩

theorem unstopped_of_routesOfCircuit {found : List Route × AuxSwitches}
    (succeeded : (routesOfCircuit layout connections).value = .ok found) :
    Placement.Unstopped layout (virtual connections) := by
  have halved : (Resolved.ofConnections connections).value.partition Resolved.isVirtual =
      (virtual connections, physical connections) :=
    List.partition_eq_filter_filter
  simp only [routesOfCircuit, Traced.value_bind, halved] at succeeded
  cases value : (Placement.pinAll layout (virtual connections)).value with
  | error fault =>
      rw [value] at succeeded
      cases succeeded
  | ok placements => exact Placement.unstopped_of_value_pinAll value

theorem value_compile (unstopped : Placement.Unstopped layout (virtual connections)) :
    (compile layout connections).value = .ok (Compilation.routing layout connections) := by
  obtain ⟨value, errors⟩ := routesOfCircuit_of_unstopped unstopped
  simp only [compile, value, errors]
  rfl

/-- A circuit compiles exactly when nothing stops it, into what its stages give. -/
theorem compile_eq_ok_iff :
    (compile layout connections).value = .ok routing ↔
      Placement.Unstopped layout (virtual connections) ∧
        routing = Compilation.routing layout connections := by
  constructor
  · intro compiled
    cases run : (routesOfCircuit layout connections).value with
    | error fault =>
        simp only [compile, run] at compiled
        cases compiled
    | ok found =>
        have unstopped := unstopped_of_routesOfCircuit run
        rw [value_compile unstopped, Except.ok.injEq] at compiled
        exact ⟨unstopped, compiled.symm⟩
  · rintro ⟨unstopped, rfl⟩
    exact value_compile unstopped

/-- A compilation fails with the fault of the first pinned connection that stops it,
and else gives the routing of its stages. -/
theorem value_compile_eq_map (layout : Layout) (connections : List Connection) :
    (compile layout connections).value =
      (Placement.pinAll layout (virtual connections)).value.map fun _ =>
        Compilation.routing layout connections := by
  cases value : (Placement.pinAll layout (virtual connections)).value with
  | error fault =>
      have halved : (Resolved.ofConnections connections).value.partition Resolved.isVirtual =
          (virtual connections, physical connections) :=
        List.partition_eq_filter_filter
      have stopped : (routesOfCircuit layout connections).value = .error fault := by
        simp only [routesOfCircuit, Traced.value_bind, halved, value]
        rfl
      simp only [compile, stopped]
      rfl
  | ok placements => exact value_compile (Placement.unstopped_of_value_pinAll value)

/-- The routing of a circuit whose compilation runs through. -/
theorem value_compile_of_isOk (succeeded : (compile layout connections).value.isOk = true) :
    (compile layout connections).value = .ok (Compilation.routing layout connections) := by
  cases compiled : (compile layout connections).value with
  | error fault =>
      rw [compiled] at succeeded
      cases succeeded
  | ok found =>
      rw [(compile_eq_ok_iff.mp compiled).2]

end Compilation

end Crossbar
