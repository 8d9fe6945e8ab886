import Crossbar.Proofs.Compile
import Crossbar.Proofs.Resolution

/-!
# Nothing is lost in a compilation

Every connection of a circuit has one fate.  A direct connection and a half that
leaves a potentiometer become a route or are rejected, and a half that feeds a
potentiometer is spent on those that leave it or is rejected.  The routes and the
errors of a compiled circuit are exactly those of its connections, and the routes
of each group come in the order of the connections.
-/

namespace Crossbar

/-- An error is about a wire on its way to a lane. -/
def RoutingError.About (error : RoutingError) (wire : Wire) : Prop :=
  ∃ lane : Option Lane, error.subject = .route wire (lane.map fun lane => lane.val.toUInt32)

/-! ## Lanes -/

namespace LaneAssignment

/-- A fate that fits a placement that asks for a lane. -/
def Assigned (group : Group) (placement : Placement) : Fate Route → Prop
  | .kept route => route = placement.onLane route.lane
  | .failed error => error = ⟨.noFreeLane group, placement.subject⟩
  | .spent => False

variable {group : Group}

theorem accounted_assign (occupied kept : LaneSet) (placements : List Placement) :
    Accounted (Assigned group) placements (assign group occupied kept placements).value
      (assign group occupied kept placements).errors 0 := by
  induction placements generalizing occupied kept with
  | nil =>
      exact Accounted.nil
  | cons placement rest inductionHypothesis =>
      have onLane (lane : Lane) : Assigned group placement (.kept (placement.onLane lane)) := rfl
      cases keeps : keeps? kept placement with
      | some lane =>
          rw [value_assign_keep keeps, errors_assign_keep keeps]
          exact Accounted.cons (onLane lane) (inductionHypothesis occupied (kept.insert lane))
      | none =>
          cases free : occupied.lowestFree with
          | some lane =>
              rw [value_assign_move keeps free, errors_assign_move keeps free]
              exact Accounted.cons (onLane lane) (inductionHypothesis (occupied.insert lane) kept)
          | none =>
              have noLane : Assigned group placement
                  (.failed ⟨.noFreeLane group, placement.subject⟩) := rfl
              rw [value_assign_drop keeps free, errors_assign_drop keeps free]
              exact Accounted.cons noLane (inductionHypothesis occupied kept)

theorem accounted_settle (group : Group) (reserved : LaneSet) (placements : List Placement) :
    Accounted (Assigned group) placements (settle group reserved placements).value
      (settle group reserved placements).errors 0 :=
  accounted_assign _ reserved placements

end LaneAssignment

/-! ## Placements -/

namespace Placement

variable {layout : Layout} {resolved : Resolved} {items : List Resolved}

/-- A fate that fits a resolved connection that is placed. -/
def Positioned (layout : Layout) (resolved : Resolved) : Fate Placement → Prop
  | .kept placement => Placed layout resolved placement
  | .failed error => error.About resolved.wire
  | .spent => False

theorem about_of_pin {error : RoutingError} (failed : pin layout resolved = .ok (.error error)) :
    error.About resolved.wire := by
  have fromSink (sunk : pinSink layout resolved = .ok (.error error)) :
      error.About resolved.wire := by
    unfold pinSink at sunk
    dsimp only at sunk
    split at sunk
    · cases sunk
    · split at sunk <;> cases sunk <;> exact ⟨resolved.lane, rfl⟩
  unfold pin at failed
  split at failed
  · exact fromSink failed
  · exact fromSink failed
  · have injected := Except.ok.inj failed
    unfold pinExternalInput at injected
    dsimp only at injected
    split at injected
    · split at injected <;> cases injected
      exact ⟨resolved.lane, rfl⟩
    · cases injected
      exact ⟨resolved.lane, rfl⟩
  · have injected := Except.ok.inj failed
    unfold pinConstant at injected
    dsimp only at injected
    split at injected <;> cases injected
    exact ⟨resolved.lane, rfl⟩
  · cases failed
    exact ⟨resolved.lane, rfl⟩

theorem about_of_ofPosition {position : Nat} {error : RoutingError}
    (failed : ofPosition layout resolved position = .error error) :
    error.About resolved.wire := by
  unfold ofPosition at failed
  dsimp only at failed
  split at failed <;> cases failed <;> exact ⟨_, rfl⟩

theorem accounted_outcomes (unstopped : Unstopped layout items)
    (sound : ∀ resolved ∈ items, resolved.Sound)
    (isVirtual : ∀ resolved ∈ items, resolved.isVirtual = true) :
    Accounted (Positioned layout) items (Traced.collectAll (outcomes layout items)).value
      (Traced.failures (outcomes layout items)) 0 := by
  apply Accounted.collectAll
  induction items with
  | nil =>
      exact List.Forall₂.nil
  | cons resolved rest inductionHypothesis =>
      obtain ⟨outcome, pinned⟩ := unstopped resolved (List.mem_cons_self ..)
      rw [outcomes_cons pinned]
      refine List.Forall₂.cons ?_ (inductionHypothesis ((unstopped_cons pinned).mp unstopped)
        (fun other member => sound other (List.mem_cons_of_mem _ member))
        fun other member => isVirtual other (List.mem_cons_of_mem _ member))
      cases outcome with
      | ok placement =>
          exact placed_of_pin (sound resolved (List.mem_cons_self ..))
            (isVirtual resolved (List.mem_cons_self ..)) pinned
      | error error => exact about_of_pin pinned

theorem accounted_placeAll (layout : Layout) (items : List Resolved) :
    Accounted (Positioned layout) items (placeAll layout items).value
      (placeAll layout items).errors 0 := by
  rw [placeAll_eq, Traced.errors_collectAll]
  apply Accounted.collectAll
  generalize 0 = start
  induction items generalizing start with
  | nil =>
      exact List.Forall₂.nil
  | cons resolved rest inductionHypothesis =>
      rw [List.zipIdx_cons, List.map_cons]
      refine List.Forall₂.cons ?_ (inductionHypothesis (start + 1))
      cases outcome : ofPosition layout resolved start with
      | ok placement => exact placed_of_ofPosition outcome
      | error error => exact about_of_ofPosition outcome

end Placement

/-! ## Routes -/

namespace Compilation

variable {layout : Layout} {connections : List Connection} {switches : AuxSwitches}
  {items : List Resolved} {placements : List Placement}

/-- A fate that fits a placement that passes when it reads its source. -/
def Reads (layout : Layout) (switches : AuxSwitches) (placement : Placement) :
    Fate Placement → Prop
  | .kept passed =>
    passed = placement ∧ Carries layout switches placement.wire.source placement.input
  | .failed error => error.About placement.wire
  | .spent => False

theorem accounted_dropShadowed
    (feeds : ∀ placement ∈ placements,
      Placement.Feeds layout placement.wire.source placement.input)
    (carries : ∀ placement ∈ placements, ¬placement.Hidden layout switches →
      Carries layout switches placement.wire.source placement.input) :
    Accounted (Reads layout switches) placements
      (Placement.dropShadowed switches placements).value
      (Placement.dropShadowed switches placements).errors 0 := by
  rw [Placement.dropShadowed, Traced.errors_collectAll]
  refine (Accounted.collectAll_map (Placement.checkShadow switches) placements).imp ?_
  rintro placement member _ rfl
  by_cases hidden : placement.Hidden layout switches
  · obtain ⟨signal, dropped⟩ :=
      Placement.checkShadow_of_hidden (feeds placement member) hidden
    rw [dropped]
    exact ⟨placement.lane, rfl⟩
  · rw [Placement.checkShadow_of_visible (feeds placement member) hidden]
    exact ⟨rfl, carries placement member hidden⟩

/-- A fate that fits a resolved connection that is routed. -/
def Routed (layout : Layout) (switches : AuxSwitches) (resolved : Resolved) : Fate Route → Prop
  | .kept route => CompiledFrom layout switches route resolved
  | .failed error => error.About resolved.wire
  | .spent => False

theorem routed_of_steps {group : Group} {resolved : Resolved} {fate : Fate Route}
    (steps : Fate.Then (Placement.Positioned layout)
      (Fate.Then (Reads layout switches) (LaneAssignment.Assigned group)) resolved fate) :
    Routed layout switches resolved fate := by
  cases steps with
  | failed about => exact about
  | spent impossible => exact impossible.elim
  | @kept placement _ placed later =>
      have sameWire : placement.wire = resolved.wire := Placement.Placed.wire_eq placed
      cases later with
      | @failed error hidden =>
          have about : error.About placement.wire := hidden
          rwa [sameWire] at about
      | spent impossible => exact impossible.elim
      | @kept passed _ reads assigned =>
          obtain ⟨rfl, carries⟩ := reads
          cases fate with
          | kept route =>
              have onLane : route = passed.onLane route.lane := assigned
              refine ⟨passed, placed, ?_, onLane⟩
              rw [onLane, ← sameWire]
              exact carries
          | failed error =>
              have noLane : error = ⟨.noFreeLane group, passed.subject⟩ := assigned
              refine ⟨passed.lane, ?_⟩
              rw [noLane, ← sameWire]
              rfl
          | spent => exact assigned.elim

/-- A group accounts for its connections if every placement that is not hidden
reads its source. -/
theorem accounted_routesOf {group : Group} {kept : LaneSet} {placingErrors : List RoutingError}
    (positioned : Accounted (Placement.Positioned layout) items placements placingErrors 0)
    (feeds : ∀ placement ∈ placements,
      Placement.Feeds layout placement.wire.source placement.input)
    (carries : ∀ placement ∈ placements, ¬placement.Hidden layout switches →
      Carries layout switches placement.wire.source placement.input) :
    Accounted (Routed layout switches) items (routesOf group switches kept placements).value
      (placingErrors ++ (routesOf group switches kept placements).errors) 0 := by
  have reads := accounted_dropShadowed feeds carries
  have assigned := LaneAssignment.accounted_settle group kept
    (Placement.dropShadowed switches placements).value
  rw [routesOf, Traced.errors_bind]
  exact (positioned.comp (reads.comp assigned)).imp fun _ _ _ => routed_of_steps

theorem accounted_pinnedRoutes
    (unstopped : Placement.Unstopped layout (virtual connections)) :
    Accounted (Routed layout (Compilation.switches layout connections)) (virtual connections)
      (pinnedRoutes layout connections).value
      (Traced.failures (Placement.outcomes layout (virtual connections)) ++
        (pinnedRoutes layout connections).errors) 0 := by
  have feeds := feeds_of_origins (pinned_origins layout connections)
  refine accounted_routesOf (Placement.accounted_outcomes unstopped
    (fun _ => sound_of_mem_virtual) fun _ member => (List.mem_filter.mp member).2) feeds ?_
  intro placement member visible
  exact carries_of_pinned member (feeds placement member) visible

theorem accounted_flexibleRoutes (layout : Layout) (connections : List Connection) :
    Accounted (Routed layout (Compilation.switches layout connections)) (physical connections)
      (flexibleRoutes layout connections).value
      ((Placement.placeAll layout (physical connections)).errors ++
        (flexibleRoutes layout connections).errors) 0 := by
  have origins := placed_origins layout connections
  exact accounted_routesOf (Placement.accounted_placeAll layout (physical connections))
    (feeds_of_origins origins) fun _ => carries_of_placed

/-! ## Circuits -/

/-- A fate that fits a connection of a circuit.  A kept connection has a route and
the resolved connection that stems from it. -/
inductive Befalls (layout : Layout) (connections : List Connection) (switches : AuxSwitches)
    (connection : Connection) : Fate (Resolved × Route) → Prop
  | routed {resolved : Resolved} {route : Route}
      (stems : Resolved.StemsFrom connections resolved connection)
      (compiledFrom : CompiledFrom layout switches route resolved) :
      Befalls layout connections switches connection (.kept (resolved, route))
  | refused {error : RoutingError} (failed : Link.ofConnection connection = .error error) :
      Befalls layout connections switches connection (.failed error)
  /-- A half of a way through a potentiometer lacks the other half, or comes second. -/
  | unconnected {link : Link} {lane : Lane} (made : Link.ofConnection connection = .ok link)
      (half : link.feedsLane lane = true ∨ link.leavesLane lane = true) :
      Befalls layout connections switches connection
        (.failed ⟨.unconnectedPotentiometer, .route link.wire (some lane.val.toUInt32)⟩)
  | unrouted {resolved : Resolved} {error : RoutingError}
      (stems : Resolved.StemsFrom connections resolved connection)
      (about : error.About resolved.wire) :
      Befalls layout connections switches connection (.failed error)
  /-- The first half that feeds a potentiometer is used by those that leave it. -/
  | spent {link : Link} {lane : Lane} (made : Link.ofConnection connection = .ok link)
      (first : (Resolved.links connections).find? (Link.feedsLane lane) = some link)
      (left : (Resolved.links connections).any (Link.leavesLane lane) = true) :
      Befalls layout connections switches connection .spent

theorem befalls_of_steps {connection : Connection} {fate : Fate (Resolved × Route)}
    (steps : Fate.Then
      (Fate.Then (fun connection fate => fate = .ofExcept (Link.ofConnection connection))
        (Resolved.Resolves (Resolved.links connections)))
      (Fate.Paired (Routed layout switches)) connection fate) :
    Befalls layout connections switches connection fate := by
  cases steps with
  | @kept resolved _ resolves routed =>
      cases resolves with
      | @kept link _ linked joined =>
          have made := Fate.eq_ok_of_kept_eq linked
          cases joined with
          | joined joins =>
              have stems : Resolved.StemsFrom connections resolved connection :=
                ⟨link, joins, made⟩
              obtain ⟨plain, fits, rfl⟩ := routed
              cases plain with
              | kept route => exact Befalls.routed stems fits
              | failed error => exact Befalls.unrouted stems fits
              | spent => exact fits.elim
  | failed resolves =>
      cases resolves with
      | kept linked joined =>
          have made := Fate.eq_ok_of_kept_eq linked
          cases joined with
          | unconnected half => exact Befalls.unconnected made half
      | failed linked => exact Befalls.refused (Fate.eq_error_of_failed_eq linked)
  | spent resolves =>
      cases resolves with
      | kept linked joined =>
          have made := Fate.eq_ok_of_kept_eq linked
          cases joined with
          | spent first left => exact Befalls.spent made first left
      | spent linked => exact absurd linked Fate.spent_ne_ofExcept

/-- What a compiled circuit says about its connections.  Every connection has one
fate.  The routes are those of the connections, the pinned ones first and each
group in order, the errors are those of the connections, and one half is spent
for every potentiometer that is both fed and left. -/
structure Accounts (layout : Layout) (connections : List Connection) (routing : Routing)
    (fates : List (Fate (Resolved × Route))) : Prop where
  befalls : List.Forall₂ (Befalls layout connections routing.switches) connections fates
  routes : routing.routes =
    ((Fate.values fates).filter fun pair => pair.1.isVirtual).map Prod.snd ++
      ((Fate.values fates).filter fun pair => !pair.1.isVirtual).map Prod.snd
  errors : (Fate.errors fates).Perm routing.errors
  spent : Fate.spentCount fates = (Resolved.bridged connections).card

theorem exists_accounts (unstopped : Placement.Unstopped layout (virtual connections)) :
    ∃ fates, Accounts layout connections (routing layout connections) fates := by
  obtain ⟨pairs, routed, pinnedValues, flexibleValues⟩ := Accounted.interleave
    (accounted_pinnedRoutes unstopped) (accounted_flexibleRoutes layout connections)
  obtain ⟨fates, befalls, rfl, sameErrors, sameSpent⟩ :=
    ((Resolved.accounted_ofConnections connections).comp routed).imp
      fun _ _ _ => befalls_of_steps
  refine ⟨fates, befalls, ?_, ?_, sameSpent⟩
  · rw [pinnedValues, flexibleValues]
    rfl
  · simpa only [routing, errors, List.append_assoc] using sameErrors

/-- Nothing is lost or duplicated: every connection of a compiled circuit becomes
one route, leaves one error or is used up by a potentiometer. -/
theorem accounts_of_compile {routing : Routing}
    (compiled : (compile layout connections).value = .ok routing) :
    connections.length =
        routing.routes.length + routing.errors.length + (Resolved.bridged connections).card ∧
      ∃ fates, Accounts layout connections routing fates := by
  obtain ⟨unstopped, rfl⟩ := compile_eq_ok_iff.mp compiled
  obtain ⟨fates, accounts⟩ := exists_accounts unstopped
  refine ⟨?_, fates, accounts⟩
  have accounted : Accounted (Befalls layout connections (routing layout connections).switches)
      connections (Fate.values fates) (routing layout connections).errors
      (Resolved.bridged connections).card :=
    ⟨fates, accounts.befalls, rfl, accounts.errors, accounts.spent⟩
  have halves := (List.filter_append_perm
    (fun pair : Resolved × Route => pair.1.isVirtual) (Fate.values fates)).length_eq
  rw [accounted.length_eq, ← halves, accounts.routes, List.length_append, List.length_append,
    List.length_map, List.length_map]

/-- The seven connections of the circuit become four routes and leave two errors,
and the half that feeds the potentiometer of lane 3 is used up. -/
theorem accounts_fannedCircuit :
    (compile .standard fannedCircuit).value = .ok (routing .standard fannedCircuit) ∧
      (Resolved.bridged fannedCircuit).card = 1 ∧
      fannedCircuit.length = (routing .standard fannedCircuit).routes.length +
        (routing .standard fannedCircuit).errors.length +
        (Resolved.bridged fannedCircuit).card ∧
      ∃ fates, Accounts .standard fannedCircuit (routing .standard fannedCircuit) fates := by
  have compiled : (compile .standard fannedCircuit).value =
      .ok (routing .standard fannedCircuit) :=
    value_compile_of_isOk (by decide +kernel)
  exact ⟨compiled, by decide +kernel, accounts_of_compile compiled⟩

end Compilation

end Crossbar
