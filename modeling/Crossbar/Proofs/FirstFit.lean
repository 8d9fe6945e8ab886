import Crossbar.Proofs.Compile

/-!
# First come, first served

Of the placements that ask for a lane the first one holds it, unless the lane is
reserved.  The others take the lanes that nobody holds in ascending order, the first
of them the lowest one, until no lane is left.  So the lane of a placement is known
from its position and the placements before it, without a run of the assignment.

Over a whole circuit no lane is wasted: as many routes come out as there are visible
placements, up to the number of lanes.
-/

namespace Crossbar

namespace LaneAssignment

variable {group : Group} {reserved occupied kept : LaneSet} {placement : Placement}
  {placements earlier rest whole : List Placement} {lane : Lane}

/-! ## Held and free lanes -/

/-- The lane a placement holds: the one it asks for, unless that is reserved or was
asked for earlier. -/
def held? (reserved : LaneSet) (earlier : List Placement) (placement : Placement) :
    Option Lane :=
  placement.lane.filter fun lane => lane ∉ reserved ∧ lane ∉ requested earlier

/-- What every placement of a list holds. -/
def holdings (reserved : LaneSet) (placements : List Placement) : List (Option Lane) :=
  placements.mapIdx fun position placement =>
    held? reserved (placements.take position) placement

/-- The lanes that are neither reserved nor held, in ascending order. -/
def freeLanes (reserved : LaneSet) (placements : List Placement) : List Lane :=
  Lane.all.filter fun lane => lane ∉ reserved ∧ some lane ∉ holdings reserved placements

/-- The lane of the placement at a position: the one it holds, or the next free lane
after those for the earlier placements that hold none. -/
def fittedLane? (reserved : LaneSet) (placements : List Placement) (position : Nat)
    (placement : Placement) : Option Lane :=
  let earlier := placements.take position
  held? reserved earlier placement <|>
    (freeLanes reserved placements)[(holdings reserved earlier).count none]?

/-- What becomes of the placement at a position.  Nothing but its lane changes, and
without a lane it is reported with the lane it asked for. -/
def fit (group : Group) (reserved : LaneSet) (placements : List Placement) (position : Nat)
    (placement : Placement) : Except RoutingError Route :=
  match fittedLane? reserved placements position placement with
  | some lane => .ok ⟨lane, placement.input, placement.coefficient, placement.output⟩
  | none => .error ⟨.noFreeLane group,
      .route placement.wire (placement.lane.map fun lane => lane.val.toUInt32)⟩

/-- Lanes are given first come, first served: the routes and the errors are those of
the placements, in order. -/
structure FirstFit (group : Group) (reserved : LaneSet) (placements : List Placement)
    (settled : Traced (List Route)) : Prop where
  routes : settled.value =
    (placements.mapIdx (fit group reserved placements)).filterMap Except.toOption
  errors : settled.errors = Traced.failures (placements.mapIdx (fit group reserved placements))

theorem mem_requested_concat :
    lane ∈ requested (earlier ++ [placement]) ↔
      lane ∈ requested earlier ∨ placement.lane = some lane := by
  simp [requested]

theorem held?_eq_some_iff :
    held? reserved earlier placement = some lane ↔
      placement.lane = some lane ∧ lane ∉ reserved ∧ lane ∉ requested earlier := by
  simp [held?, Option.filter_eq_some_iff]

theorem holdings_concat (reserved : LaneSet) (earlier : List Placement) (placement : Placement) :
    holdings reserved (earlier ++ [placement]) =
      holdings reserved earlier ++ [held? reserved earlier placement] := by
  rw [holdings, List.mapIdx_concat, List.take_left]
  refine congrArg (· ++ _) (List.mapIdx_eq_mapIdx_iff.mpr ?_)
  intro position inside
  rw [List.take_append_of_le_length inside.le]

/-- A lane is held exactly if it is asked for and not reserved. -/
theorem some_mem_holdings_iff :
    some lane ∈ holdings reserved placements ↔ lane ∉ reserved ∧ lane ∈ requested placements := by
  induction placements using List.reverseRecOn with
  | nil =>
      simp [holdings, requested]
  | append_singleton earlier placement inductionHypothesis =>
      rw [holdings_concat, List.mem_append, List.mem_singleton, inductionHypothesis, eq_comm,
        held?_eq_some_iff, mem_requested_concat]
      tauto

theorem freeLanes_eq (reserved : LaneSet) (placements : List Placement) :
    freeLanes reserved placements =
      ((requested placements).foldl LaneSet.insert reserved).free := by
  apply List.filter_congr
  intro lane _
  rw [decide_eq_decide, some_mem_holdings_iff, LaneSet.mem_foldl_insert]
  tauto

/-! ## The assignment at work -/

/-- The invariant of an assignment that has come past the earlier placements: the
lanes they asked for are no longer there to keep, and the first free lanes are gone, one
for each of them that holds none. -/
structure Progress (reserved : LaneSet) (whole earlier : List Placement)
    (occupied kept : LaneSet) : Prop where
  kept : ∀ lane, lane ∈ kept ↔ lane ∈ reserved ∨ lane ∈ requested earlier
  free : occupied.free =
    (freeLanes reserved whole).drop ((holdings reserved earlier).count none)

section Steps

theorem progress_settle (reserved : LaneSet) (placements : List Placement) :
    Progress reserved placements [] ((requested placements).foldl LaneSet.insert reserved)
      reserved :=
  ⟨fun _ => by simp [requested], by rw [freeLanes_eq]; rfl⟩

theorem Progress.keeps?_eq (progress : Progress reserved whole earlier occupied kept)
    (placement : Placement) : keeps? kept placement = held? reserved earlier placement := by
  ext lane
  rw [keeps?_eq_some_iff, held?_eq_some_iff, progress.kept, not_or]

theorem Progress.kept_of_moves (progress : Progress reserved whole earlier occupied kept)
    (moves : keeps? kept placement = none) (lane : Lane) :
    lane ∈ kept ↔ lane ∈ reserved ∨ lane ∈ requested (earlier ++ [placement]) := by
  have taken := keeps?_eq_none_iff.mp moves lane
  rw [mem_requested_concat, ← or_assoc, ← progress.kept lane]
  tauto

theorem Progress.keep (progress : Progress reserved whole earlier occupied kept)
    (keeps : keeps? kept placement = some lane) :
    Progress reserved whole (earlier ++ [placement]) occupied (kept.insert lane) := by
  have asked := (keeps?_eq_some_iff.mp keeps).1
  constructor
  · intro other
    rw [LaneSet.mem_insert, progress.kept other, mem_requested_concat, asked, Option.some.injEq,
      eq_comm]
    tauto
  · rw [progress.keeps?_eq] at keeps
    rw [progress.free, holdings_concat, List.count_append, keeps]
    rfl

theorem Progress.move (progress : Progress reserved whole earlier occupied kept)
    (moves : keeps? kept placement = none) (free : occupied.lowestFree = some lane) :
    Progress reserved whole (earlier ++ [placement]) (occupied.insert lane) kept := by
  refine ⟨progress.kept_of_moves moves, ?_⟩
  have remaining := progress.free
  rw [LaneSet.free_eq_cons free] at remaining
  rw [progress.keeps?_eq] at moves
  rw [holdings_concat, List.count_append, moves, List.count_singleton_self, ← List.drop_drop,
    ← remaining]
  rfl

theorem Progress.drop (progress : Progress reserved whole earlier occupied kept)
    (moves : keeps? kept placement = none) (full : occupied.lowestFree = none) :
    Progress reserved whole (earlier ++ [placement]) occupied kept := by
  refine ⟨progress.kept_of_moves moves, ?_⟩
  have exhausted := progress.free
  rw [LaneSet.free_eq_nil full] at exhausted
  rw [progress.keeps?_eq] at moves
  rw [LaneSet.free_eq_nil full, holdings_concat, List.count_append, moves,
    List.count_singleton_self, ← List.drop_drop, ← exhausted]
  rfl

theorem Progress.fittedLane?_eq (progress : Progress reserved whole earlier occupied kept)
    (split : whole = earlier ++ placement :: rest) :
    fittedLane? reserved whole earlier.length placement =
      (keeps? kept placement <|> occupied.lowestFree) := by
  have next : (freeLanes reserved whole)[(holdings reserved earlier).count none]? =
      occupied.lowestFree := by
    rw [← List.head?_drop, ← progress.free]
    cases free : occupied.lowestFree with
    | none => rw [LaneSet.free_eq_nil free, List.head?_nil]
    | some lane => rw [LaneSet.free_eq_cons free, List.head?_cons]
  have before : whole.take earlier.length = earlier := by
    rw [split, List.take_left]
  rw [fittedLane?, before, next, progress.keeps?_eq]

theorem Progress.fit_eq_ok (progress : Progress reserved whole earlier occupied kept)
    (split : whole = earlier ++ placement :: rest) (group : Group)
    (found : (keeps? kept placement <|> occupied.lowestFree) = some lane) :
    fit group reserved whole earlier.length placement = .ok (placement.onLane lane) := by
  rw [fit, progress.fittedLane?_eq split, found]
  rfl

theorem Progress.fit_eq_error (progress : Progress reserved whole earlier occupied kept)
    (split : whole = earlier ++ placement :: rest) (group : Group)
    (exhausted : (keeps? kept placement <|> occupied.lowestFree) = none) :
    fit group reserved whole earlier.length placement =
      .error ⟨.noFreeLane group, placement.subject⟩ := by
  rw [fit, progress.fittedLane?_eq split, exhausted]
  rfl

end Steps

/-- The rest of an assignment, placement by placement. -/
theorem assign_eq_fit (group : Group) (progress : Progress reserved whole earlier occupied kept)
    (split : whole = earlier ++ rest) :
    let fits := rest.mapIdx fun position => fit group reserved whole (position + earlier.length)
    (assign group occupied kept rest).value = fits.filterMap Except.toOption ∧
      (assign group occupied kept rest).errors = Traced.failures fits := by
  induction rest generalizing earlier occupied kept with
  | nil =>
      exact ⟨rfl, rfl⟩
  | cons placement rest inductionHypothesis =>
      have splitNext : whole = (earlier ++ [placement]) ++ rest := by
        rw [split, List.append_assoc, List.singleton_append]
      have tail {occupiedNext keptNext : LaneSet}
          (next : Progress reserved whole (earlier ++ [placement]) occupiedNext keptNext) :=
        inductionHypothesis next splitNext
      have shifted (position : Nat) :
          position + (earlier ++ [placement]).length = position + 1 + earlier.length := by
        rw [List.length_append, List.length_singleton]
        omega
      simp only [shifted] at tail
      simp only [List.mapIdx_cons, Nat.zero_add]
      cases keeps : keeps? kept placement with
      | some lane =>
          have here := progress.fit_eq_ok split group (by rw [keeps]; rfl)
          obtain ⟨routes, errors⟩ := tail (progress.keep keeps)
          rw [value_assign_keep keeps, errors_assign_keep keeps, routes, errors, here]
          exact ⟨rfl, rfl⟩
      | none =>
          cases free : occupied.lowestFree with
          | some lane =>
              have here := progress.fit_eq_ok split group (by rw [keeps]; exact free)
              obtain ⟨routes, errors⟩ := tail (progress.move keeps free)
              rw [value_assign_move keeps free, errors_assign_move keeps free, routes, errors,
                here]
              exact ⟨rfl, rfl⟩
          | none =>
              have here := progress.fit_eq_error split group (by rw [keeps]; exact free)
              obtain ⟨routes, errors⟩ := tail (progress.drop keeps free)
              rw [value_assign_drop keeps free, errors_assign_drop keeps free, routes, errors,
                here]
              exact ⟨rfl, rfl⟩

theorem firstFit_settle (group : Group) (reserved : LaneSet) (placements : List Placement) :
    FirstFit group reserved placements (settle group reserved placements) := by
  obtain ⟨routes, errors⟩ := assign_eq_fit group (progress_settle reserved placements)
    (List.nil_append placements).symm
  exact ⟨routes, errors⟩

/-! ## Holders -/

/-- A placement that holds a lane stays on it. -/
theorem mem_settle_of_held (group : Group) (split : placements = earlier ++ placement :: rest)
    (held : held? reserved earlier placement = some lane) :
    placement.onLane lane ∈ (settle group reserved placements).value := by
  have before : placements.take earlier.length = earlier := by
    rw [split, List.take_left]
  have fits : fit group reserved placements earlier.length placement =
      .ok (placement.onLane lane) := by
    rw [fit, fittedLane?, before, held]
    rfl
  rw [(firstFit_settle group reserved placements).routes, List.mem_filterMap]
  refine ⟨.ok (placement.onLane lane), ?_, rfl⟩
  have inside : earlier.length < placements.length := by
    rw [split, List.length_append, List.length_cons]
    omega
  have here : placements[earlier.length] = placement := by
    simp [split]
  rw [List.mem_mapIdx]
  exact ⟨earlier.length, inside, by rw [here, fits]⟩

theorem exists_holder (asked : lane ∈ requested placements) (unreserved : lane ∉ reserved) :
    ∃ earlier placement rest, placements = earlier ++ placement :: rest ∧
      held? reserved earlier placement = some lane := by
  have holds := some_mem_holdings_iff.mpr ⟨unreserved, asked⟩
  obtain ⟨position, inside, held⟩ := List.mem_mapIdx.mp holds
  refine ⟨placements.take position, placements[position], placements.drop (position + 1), ?_, held⟩
  rw [List.getElem_cons_drop, List.take_append_drop]

end LaneAssignment

/-! ## No lane is wasted -/

namespace Compilation

variable {layout : Layout} {connections : List Connection}

/-- The pinned placements that no auxiliary signal hides. -/
def visiblePinned (layout : Layout) (connections : List Connection) : List Placement :=
  (Placement.dropShadowed (switches layout connections) (pinned layout connections)).value

/-- The flexible placements that no auxiliary signal hides. -/
def visiblePlaced (layout : Layout) (connections : List Connection) : List Placement :=
  (Placement.dropShadowed (switches layout connections) (placed layout connections)).value

def visibleCount (layout : Layout) (connections : List Connection) : Nat :=
  (visiblePinned layout connections).length + (visiblePlaced layout connections).length

/-- The errors for want of a lane, R105. -/
def wantCount (errors : List RoutingError) : Nat :=
  errors.countP fun error => error.code = ⟨.routing, 105⟩

/-- The routes of a circuit are those of its visible placements, pinned ones first,
each group first come, first served.  One is missing only when every lane is in use. -/
structure FillsLanes (layout : Layout) (connections : List Connection) (routing : Routing) :
    Prop where
  stages : ∃ pinnedRun flexibleRun : Traced (List Route),
    LaneAssignment.FirstFit .pinned ∅ (visiblePinned layout connections) pinnedRun ∧
    LaneAssignment.FirstFit .flexible (LaneSet.ofList (pinnedRun.value.map Route.lane))
      (visiblePlaced layout connections) flexibleRun ∧
    routing.routes = pinnedRun.value ++ flexibleRun.value
  length : routing.routes.length = min (visibleCount layout connections) 32
  rejected : wantCount routing.errors = visibleCount layout connections - 32
  exhausted : (∃ error ∈ routing.errors, error.code = ⟨.routing, 105⟩) →
    ∀ lane : Lane, ∃ route ∈ routing.routes, route.lane = lane

section Counts

theorem wantCount_append (first second : List RoutingError) :
    wantCount (first ++ second) = wantCount first + wantCount second :=
  List.countP_append

theorem wantCount_eq_zero {errors : List RoutingError}
    (others : ∀ error ∈ errors, error.code ≠ ⟨.routing, 105⟩) : wantCount errors = 0 := by
  rw [wantCount, List.countP_eq_zero]
  intro error member
  simpa using others error member

theorem wantCount_settle (group : Group) (kept : LaneSet) (placements : List Placement) :
    wantCount (LaneAssignment.settle group kept placements).errors =
      (LaneAssignment.settle group kept placements).errors.length := by
  rw [wantCount, List.countP_eq_length]
  intro error member
  simpa using LaneAssignment.code_of_settle member

theorem wantCount_routesOf (group : Group) (switches : AuxSwitches) (kept : LaneSet)
    (placements : List Placement) :
    (routesOf group switches kept placements).value.length +
        wantCount (routesOf group switches kept placements).errors =
      (Placement.dropShadowed switches placements).value.length := by
  have hidden : wantCount (Placement.dropShadowed switches placements).errors = 0 := by
    apply wantCount_eq_zero
    intro error failed
    rw [Placement.dropShadowed, Traced.errors_collectAll, Traced.mem_failures] at failed
    obtain ⟨placement, _, dropped⟩ := List.mem_map.mp failed
    rw [Placement.code_of_checkShadow dropped]
    decide
  rw [routesOf, Traced.value_bind, Traced.errors_bind, wantCount_append, hidden, Nat.zero_add,
    wantCount_settle, LaneAssignment.length_settle]

theorem wantCount_errors (layout : Layout) (connections : List Connection) :
    wantCount (errors layout connections) =
      wantCount (pinnedRoutes layout connections).errors +
        wantCount (flexibleRoutes layout connections).errors := by
  have resolving : wantCount (Resolved.ofConnections connections).errors = 0 :=
    wantCount_eq_zero fun _ failed =>
      ne_of_mem_of_not_mem (Resolved.code_of_ofConnections failed) (by decide)
  have pinning :
      wantCount (Traced.failures (Placement.outcomes layout (virtual connections))) = 0 :=
    wantCount_eq_zero fun _ failed =>
      ne_of_mem_of_not_mem (Placement.code_of_outcomes (Traced.mem_failures.mp failed)) (by decide)
  have placing :
      wantCount (Placement.placeAll layout (physical connections)).errors = 0 :=
    wantCount_eq_zero fun _ failed =>
      ne_of_mem_of_not_mem (Placement.code_of_placeAll failed) (by decide)
  simp only [errors, wantCount_append, resolving, pinning, placing, Nat.zero_add]

end Counts

theorem length_routes (layout : Layout) (connections : List Connection) :
    (routing layout connections).routes.length = min (visibleCount layout connections) 32 := by
  have pinnedLength : (pinnedRoutes layout connections).value.length =
      min (visiblePinned layout connections).length 32 := by
    have counted := LaneAssignment.length_value_settle .pinned ∅ (visiblePinned layout connections)
    rwa [LaneSet.members_empty, Finset.card_empty, Nat.sub_zero] at counted
  have flexibleLength : (flexibleRoutes layout connections).value.length =
      min (visiblePlaced layout connections).length
        (32 - (pinnedRoutes layout connections).value.length) := by
    rw [← card_reserved]
    exact LaneAssignment.length_value_settle .flexible (reserved layout connections)
      (visiblePlaced layout connections)
  rw [routing, List.length_append, flexibleLength, pinnedLength, visibleCount]
  omega

theorem length_routes_add_wantCount (layout : Layout) (connections : List Connection) :
    (routing layout connections).routes.length + wantCount (errors layout connections) =
      visibleCount layout connections := by
  have pinnedCount := wantCount_routesOf .pinned (switches layout connections) ∅
    (pinned layout connections)
  have flexibleCount := wantCount_routesOf .flexible (switches layout connections)
    (reserved layout connections) (placed layout connections)
  rw [← pinnedRoutes] at pinnedCount
  rw [← flexibleRoutes] at flexibleCount
  rw [wantCount_errors, routing, List.length_append, visibleCount, visiblePinned, visiblePlaced,
    ← pinnedCount, ← flexibleCount]
  omega

theorem exists_route_on_lane {routes : List Route} (distinct : (routes.map Route.lane).Nodup)
    (full : routes.length = 32) (lane : Lane) : ∃ route ∈ routes, route.lane = lane := by
  have everyLane : (routes.map Route.lane).toFinset = Finset.univ := by
    apply Finset.eq_univ_of_card
    rw [List.toFinset_card_of_nodup distinct, List.length_map, full, Fintype.card_fin]
  have inUse : lane ∈ routes.map Route.lane := by
    rw [← List.mem_toFinset, everyLane]
    exact Finset.mem_univ lane
  exact List.mem_map.mp inUse

theorem fillsLanes_routing (layout : Layout) (connections : List Connection) :
    FillsLanes layout connections (routing layout connections) := by
  have counted := length_routes layout connections
  have shared := length_routes_add_wantCount layout connections
  refine ⟨⟨LaneAssignment.settle .pinned ∅ (visiblePinned layout connections),
    LaneAssignment.settle .flexible (reserved layout connections)
      (visiblePlaced layout connections), LaneAssignment.firstFit_settle _ _ _,
    LaneAssignment.firstFit_settle _ _ _, rfl⟩, counted, ?_, ?_⟩
  · change wantCount (errors layout connections) = _
    omega
  · rintro ⟨error, failed, lacking⟩
    have someLack : 0 < wantCount (errors layout connections) := by
      rw [wantCount, List.countP_pos_iff]
      exact ⟨error, failed, by simpa using lacking⟩
    exact exists_route_on_lane (nodup_lanes layout connections) (by omega)

/-- Lanes are given first come, first served, by two passes to pinned placements and by
one pass to flexible ones, and a compiled circuit uses as many of them as it can. -/
theorem firstComeFirstServed :
    (∀ (group : Group) (reserved : LaneSet) (placements : List Placement),
      LaneAssignment.FirstFit group reserved placements
        (LaneAssignment.settle group reserved placements)) ∧
    (∀ placements : List Placement,
      LaneAssignment.FirstFit .pinned ∅ placements
        (LaneAssignment.settlePinned placements)) ∧
    (∀ (reserved : LaneSet) (placements : List Placement),
      LaneAssignment.FirstFit .flexible reserved placements
        (LaneAssignment.settleFlexible reserved placements)) ∧
    ∀ (layout : Layout) (connections : List Connection) (routing : Routing),
      (compile layout connections).value = .ok routing →
        FillsLanes layout connections routing := by
  refine ⟨LaneAssignment.firstFit_settle, ?_, ?_, ?_⟩
  · intro placements
    rw [LaneAssignment.settlePinned_eq]
    exact LaneAssignment.firstFit_settle .pinned ∅ placements
  · intro reserved placements
    rw [LaneAssignment.settleFlexible_eq]
    exact LaneAssignment.firstFit_settle .flexible reserved placements
  · intro layout connections routing compiled
    obtain ⟨_, rfl⟩ := compile_eq_ok_iff.mp compiled
    exact fillsLanes_routing layout connections

/-- A constant on lane 5 and 32 connections between integrators, each of which asks
for a lane of its own. -/
def crowdedCircuit : List Connection :=
  ([wired? (port? .constant 0 .source) (port? .potentiometer 5 .input) none,
    wired? (port? .potentiometer 5 .output) (port? .multiplier 0 .a) none] ++
    (List.range 32).map fun number =>
      wired? (port? .integrator (number / 4).toUInt32 .output)
        (port? .integrator (number % 8).toUInt32 .input) none).reduceOption

/-- The connection that asks for the lane of the constant is left without a lane. -/
theorem firstComeFirstServed_crowdedCircuit :
    (compile .standard crowdedCircuit).value = .ok (routing .standard crowdedCircuit) ∧
      FillsLanes .standard crowdedCircuit (routing .standard crowdedCircuit) ∧
      visibleCount .standard crowdedCircuit = 33 ∧
      (routing .standard crowdedCircuit).routes.map Route.lane =
        5 :: (Lane.all.filter fun lane => lane ≠ 5) ∧
      (routing .standard crowdedCircuit).errors.map RoutingError.code = [⟨.routing, 105⟩] := by
  have compiled : (compile .standard crowdedCircuit).value =
      .ok (routing .standard crowdedCircuit) :=
    value_compile_of_isOk (by decide +kernel)
  exact ⟨compiled, firstComeFirstServed.2.2.2 .standard crowdedCircuit _ compiled,
    by decide +kernel, by decide +kernel, by decide +kernel⟩

end Compilation

end Crossbar
