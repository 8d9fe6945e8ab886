import Crossbar.Proofs.Compile
import Crossbar.Proofs.Resolution

/-!
# The order of connections

If every potentiometer has at most one source, the order of the connections of a
circuit shows in the lanes of its routes and in nothing else.  The connections
resolve to the same, in another order, so the same auxiliary signals are switched
on and the same sources are hidden.  The placements are the same apart from the
lanes they ask for, and the number of them that get a lane depends on the number
of free lanes alone.
-/

namespace Crossbar

/-! ## Potentiometers with one source -/

/-- If at most one item passes a test, it is found in any order. -/
theorem find?_eq_of_perm {α : Type} {test : α → Bool} {first second : List α}
    (reordered : first.Perm second) (single : first.countP test ≤ 1) :
    first.find? test = second.find? test := by
  have passing : (first.filter test).Perm (second.filter test) := reordered.filter test
  rw [List.countP_eq_length_filter] at single
  have same : first.filter test = second.filter test := by
    cases found : first.filter test with
    | nil =>
        rw [found] at passing
        exact (List.nil_perm.mp passing).symm
    | cons item rest =>
        rw [found, List.length_cons] at single
        obtain rfl : rest = [] := List.eq_nil_of_length_eq_zero (by omega)
        rw [found] at passing
        exact List.singleton_perm.mp passing
  rw [← List.head?_filter, same, List.head?_filter]

namespace Resolved

/-- At most one link feeds a potentiometer. -/
def FedOnce (links : List Link) : Prop :=
  ∀ lane, links.countP (Link.feedsLane lane) ≤ 1

section Links

variable {links earlier rest first second : List Link} {link : Link}

theorem FedOnce.fate_eq (once : FedOnce links) (whole : links = earlier ++ link :: rest) :
    fate links earlier link = fate links [] link := by
  cases role : link.role with
  | direct => rw [fate_direct role, fate_direct role]
  | leaves lane coefficient => simp only [fate, role]
  | feeds lane coefficient =>
      have feeds : link.feedsLane lane = true := (feedsLane_of_role role).mpr rfl
      have single := once lane
      rw [whole, List.countP_append, List.countP_cons_of_pos feeds] at single
      have fresh : earlier.any (Link.feedsLane lane) = false := by
        have noneEarlier : earlier.countP (Link.feedsLane lane) = 0 := by omega
        rw [List.countP_eq_zero] at noneEarlier
        simpa using noneEarlier
      simp [fate, role, fresh]

theorem FedOnce.fates_eq (once : FedOnce links) (whole : links = earlier ++ rest) :
    fates links earlier rest = rest.map (fate links []) := by
  induction rest generalizing earlier with
  | nil =>
      rfl
  | cons link rest inductionHypothesis =>
      rw [fates, List.map_cons, once.fate_eq whole, inductionHypothesis]
      rw [whole, List.append_assoc, List.singleton_append]

theorem FedOnce.perm (once : FedOnce first) (reordered : first.Perm second) :
    FedOnce second := by
  intro lane
  rw [← reordered.countP_eq]
  exact once lane

theorem fate_eq_of_perm (reordered : first.Perm second) (once : FedOnce first) (link : Link) :
    fate first [] link = fate second [] link := by
  cases role : link.role with
  | direct => rw [fate_direct role, fate_direct role]
  | leaves lane coefficient => simp only [fate, role, find?_eq_of_perm reordered (once lane)]
  | feeds lane coefficient => simp only [fate, role, reordered.any_eq]

theorem fates_perm (reordered : first.Perm second) (once : FedOnce first) :
    (fates first [] first).Perm (fates second [] second) := by
  rw [once.fates_eq rfl, (once.perm reordered).fates_eq rfl,
    funext (fate_eq_of_perm reordered once)]
  exact reordered.map _

end Links

/-- The potentiometer that a connection ends at. -/
def potentiometerTarget? (connection : Connection) : Option UInt32 :=
  if connection.wire.target.kind = .potentiometer then some connection.wire.target.number
  else none

/-- Every potentiometer is the target of at most one connection. -/
def SingleSources (connections : List Connection) : Prop :=
  (connections.filterMap potentiometerTarget?).Nodup

instance (connections : List Connection) : Decidable (SingleSources connections) :=
  inferInstanceAs (Decidable (List.Nodup _))

section Circuits

variable {connections first second : List Connection}

theorem potentiometerTarget?_of_feedsLane {connection : Connection} {link : Link} {lane : Lane}
    (made : Link.ofConnection connection = .ok link) (feeds : link.feedsLane lane = true) :
    potentiometerTarget? connection = some lane.val.toUInt32 := by
  obtain ⟨sameWire, sound⟩ := Link.sound_of_ofConnection made
  obtain ⟨coefficient, role⟩ := feedsLane_iff.mp feeds
  have fits := sound.fits
  simp only [Link.Fits, role] at fits
  obtain ⟨_, kind, number⟩ := fits
  rw [sameWire] at kind number
  rw [potentiometerTarget?, if_pos kind, Option.some.injEq, ← UInt32.toNat_inj, number,
    Lane.toNat_toUInt32]

theorem fedOnce_links (single : SingleSources connections) : FedOnce (links connections) := by
  intro lane
  have listedOnce : (connections.filterMap potentiometerTarget?).count lane.val.toUInt32 ≤ 1 :=
    List.nodup_iff_count_le_one.mp single _
  rw [List.count, List.countP_filterMap] at listedOnce
  rw [links_eq_filterMap, List.countP_filterMap]
  refine (List.countP_mono_left ?_).trans listedOnce
  intro connection _ counted
  cases made : Link.ofConnection connection with
  | error error => simp [made, Except.toOption] at counted
  | ok link =>
      have feeds : link.feedsLane lane = true := by
        simpa [made, Except.toOption] using counted
      simp [potentiometerTarget?_of_feedsLane made feeds]

theorem links_perm (reordered : first.Perm second) : (links first).Perm (links second) := by
  rw [links_eq_filterMap, links_eq_filterMap]
  exact reordered.filterMap _

theorem value_ofConnections_perm (reordered : first.Perm second) (single : SingleSources first) :
    (ofConnections first).value.Perm (ofConnections second).value := by
  rw [value_ofConnections_eq_fates, value_ofConnections_eq_fates]
  exact (fates_perm (links_perm reordered) (fedOnce_links single)).filterMap _

theorem errors_ofConnections_perm (reordered : first.Perm second)
    (single : SingleSources first) :
    (ofConnections first).errors.Perm (ofConnections second).errors := by
  rw [errors_ofConnections_eq_fates, errors_ofConnections_eq_fates]
  refine List.Perm.append ?_ ?_
  · exact (reordered.map Link.ofConnection).filterMap _
  · exact (fates_perm (links_perm reordered) (fedOnce_links single)).filterMap _

end Circuits

end Resolved

/-! ## Placements apart from their lanes -/

namespace Placement

variable {layout : Layout} {switches : AuxSwitches}

/-- A placement that asks for no lane. -/
def unlaned (placement : Placement) : Placement := { placement with lane := none }

/-- What becomes of an item: its placement apart from the lane, or the code of its
error. -/
def outline : Except RoutingError Placement → Except Code Placement
  | .ok placement => .ok placement.unlaned
  | .error error => .error error.code

/-- The same placements in some order, apart from their lanes. -/
def Alike (first second : List Placement) : Prop :=
  (first.map unlaned).Perm (second.map unlaned)

/-- The same outcomes in some order, apart from lanes. -/
def AlikeOutcomes (first second : List (Except RoutingError Placement)) : Prop :=
  (first.map outline).Perm (second.map outline)

section Outcomes

variable {results firstResults secondResults : List (Except RoutingError Placement)}
  {first second : List Placement}

theorem map_unlaned_collectAll :
    (Traced.collectAll results).value.map unlaned =
      (results.map outline).filterMap Except.toOption := by
  induction results with
  | nil =>
      rfl
  | cons result rest inductionHypothesis =>
      cases result with
      | ok placement => exact congrArg (placement.unlaned :: ·) inductionHypothesis
      | error error => exact inductionHypothesis

theorem map_code_failures :
    (Traced.failures results).map RoutingError.code =
      (results.map outline).filterMap fun | .ok _ => none | .error code => some code := by
  induction results with
  | nil =>
      rfl
  | cons result rest inductionHypothesis =>
      cases result with
      | ok placement => exact inductionHypothesis
      | error error => exact congrArg (error.code :: ·) inductionHypothesis

theorem AlikeOutcomes.values (alike : AlikeOutcomes firstResults secondResults) :
    Alike (Traced.collectAll firstResults).value (Traced.collectAll secondResults).value := by
  rw [Alike, map_unlaned_collectAll, map_unlaned_collectAll]
  exact alike.filterMap _

theorem AlikeOutcomes.codes (alike : AlikeOutcomes firstResults secondResults) :
    ((Traced.failures firstResults).map RoutingError.code).Perm
      ((Traced.failures secondResults).map RoutingError.code) := by
  rw [map_code_failures, map_code_failures]
  exact alike.filterMap _

theorem Alike.length_eq (alike : Alike first second) : first.length = second.length := by
  have sameLength := List.Perm.length_eq alike
  rwa [List.length_map, List.length_map] at sameLength

theorem Alike.signals (alike : Alike first second) :
    (first.map Placement.signal).Perm (second.map Placement.signal) := by
  have bySignal (placements : List Placement) :
      placements.map Placement.signal = (placements.map unlaned).map Placement.signal := by
    rw [List.map_map]
    rfl
  rw [bySignal, bySignal second]
  exact List.Perm.map Placement.signal alike

/-- The position of a connection decides about its lane only. -/
theorem outline_ofPosition (layout : Layout) (resolved : Resolved) (position : Nat) :
    outline (ofPosition layout resolved position) = outline (ofPosition layout resolved 0) := by
  unfold ofPosition
  dsimp only
  cases layout.crossLaneOf resolved.wire.source with
  | none => rfl
  | some input => cases layout.crossLaneOf resolved.wire.target <;> rfl

theorem alikeOutcomes_placeAll {items others : List Resolved} (reordered : items.Perm others) :
    AlikeOutcomes (items.zipIdx.map fun entry => ofPosition layout entry.1 entry.2)
      (others.zipIdx.map fun entry => ofPosition layout entry.1 entry.2) := by
  have byItem (listed : List Resolved) :
      (listed.zipIdx.map fun entry => ofPosition layout entry.1 entry.2).map outline =
        listed.map fun resolved => outline (ofPosition layout resolved 0) := by
    rw [← List.zipIdx_map_fst 0 listed, List.map_map, List.map_map, List.zipIdx_map_fst]
    exact List.map_congr_left fun entry _ => outline_ofPosition layout entry.1 entry.2
  rw [AlikeOutcomes, byItem, byItem]
  exact reordered.map _

/-- The lane of a placement has no influence on what hides its source. -/
theorem outline_checkShadow (switches : AuxSwitches) (placement : Placement) :
    outline (checkShadow switches placement) =
      outline (checkShadow switches placement.unlaned) := by
  have sameShadow : shadow? switches placement.unlaned = shadow? switches placement := rfl
  rw [checkShadow, checkShadow, sameShadow]
  cases shadow? switches placement <;> rfl

theorem alikeOutcomes_checkShadow (switches : AuxSwitches) (alike : Alike first second) :
    AlikeOutcomes (first.map (checkShadow switches)) (second.map (checkShadow switches)) := by
  have byPlacement (placements : List Placement) :
      (placements.map (checkShadow switches)).map outline =
        (placements.map unlaned).map fun placement => outline (checkShadow switches placement) := by
    rw [List.map_map, List.map_map]
    exact List.map_congr_left fun placement _ => outline_checkShadow switches placement
  rw [AlikeOutcomes, byPlacement, byPlacement]
  exact List.Perm.map _ alike

end Outcomes

/-- The auxiliary signals depend on which placements there are, not on their order. -/
theorem switches_eq_of_perm {first second : List Placement} (reordered : first.Perm second) :
    Placement.switches first = Placement.switches second := by
  apply AuxSwitches.eq_of_hasInput
  · intro channel
    rw [hasInput_switches, hasInput_switches]
    simp only [reordered.mem_iff]
  · rw [reference_switches, reference_switches]
    simp only [reordered.mem_iff]

end Placement

/-! ## Routes apart from their lanes -/

namespace Compilation

variable {layout : Layout} {switches : AuxSwitches}

/-- The same number of routes and errors with the same codes, and the same signals
if every placement got a lane. -/
structure SameRoutes (first second : Traced (List Route)) : Prop where
  length : first.value.length = second.value.length
  codes : (first.errors.map RoutingError.code).Perm (second.errors.map RoutingError.code)
  signals : (∀ error ∈ first.errors, error.code ≠ ⟨.routing, 105⟩) →
    (first.value.map Route.signal).Perm (second.value.map Route.signal)

theorem errors_settle_eq_nil_of_codes {group : Group} {reserved : LaneSet}
    {placements : List Placement}
    (enough : ∀ error ∈ (LaneAssignment.settle group reserved placements).errors,
      error.code ≠ ⟨.routing, 105⟩) :
    (LaneAssignment.settle group reserved placements).errors = [] := by
  apply List.eq_nil_iff_forall_not_mem.mpr
  intro error failed
  exact enough error failed (LaneAssignment.code_of_settle failed)

theorem sameRoutes_settle (group : Group) {firstReserved secondReserved : LaneSet}
    {first second : List Placement} (alike : Placement.Alike first second)
    (sameRoom : firstReserved.members.card = secondReserved.members.card) :
    SameRoutes (LaneAssignment.settle group firstReserved first)
      (LaneAssignment.settle group secondReserved second) := by
  have sameCodes : (LaneAssignment.settle group firstReserved first).errors.map
      RoutingError.code =
      (LaneAssignment.settle group secondReserved second).errors.map RoutingError.code := by
    rw [LaneAssignment.map_code_settle, LaneAssignment.map_code_settle, alike.length_eq,
      sameRoom]
  refine ⟨?_, .of_eq sameCodes, ?_⟩
  · rw [LaneAssignment.length_value_settle, LaneAssignment.length_value_settle,
      alike.length_eq, sameRoom]
  · intro enough
    have noErrors := errors_settle_eq_nil_of_codes enough
    have noOtherErrors : (LaneAssignment.settle group secondReserved second).errors = [] := by
      rw [noErrors, List.map_nil] at sameCodes
      exact List.map_eq_nil_iff.mp sameCodes.symm
    rw [LaneAssignment.map_signal_settle noErrors, LaneAssignment.map_signal_settle noOtherErrors]
    exact alike.signals

theorem sameRoutes_routesOf {group : Group} {firstReserved secondReserved : LaneSet}
    {first second : List Placement} (alike : Placement.Alike first second)
    (sameRoom : firstReserved.members.card = secondReserved.members.card) :
    SameRoutes (routesOf group switches firstReserved first)
      (routesOf group switches secondReserved second) := by
  have shadowed := Placement.alikeOutcomes_checkShadow switches alike
  have settled := sameRoutes_settle group shadowed.values sameRoom
  have codes := shadowed.codes
  rw [← Traced.errors_collectAll, ← Traced.errors_collectAll] at codes
  refine ⟨settled.length, ?_, ?_⟩
  · rw [routesOf, routesOf, Traced.errors_bind, Traced.errors_bind, List.map_append,
      List.map_append]
    exact codes.append settled.codes
  · intro enough
    rw [routesOf, Traced.errors_bind] at enough
    exact settled.signals fun error failed => enough error (List.mem_append_right _ failed)

/-! ## Circuits in another order -/

section Circuits

variable (layout : Layout) {first second : List Connection} (reordered : first.Perm second)
  (single : Resolved.SingleSources first)

include reordered single

theorem virtual_perm : (virtual first).Perm (virtual second) :=
  (Resolved.value_ofConnections_perm reordered single).filter _

theorem physical_perm : (physical first).Perm (physical second) :=
  (Resolved.value_ofConnections_perm reordered single).filter _

theorem unstopped_iff :
    Placement.Unstopped layout (virtual first) ↔ Placement.Unstopped layout (virtual second) := by
  simp only [Placement.Unstopped, (virtual_perm reordered single).mem_iff]

theorem outcomes_perm :
    (Placement.outcomes layout (virtual first)).Perm
      (Placement.outcomes layout (virtual second)) :=
  (virtual_perm reordered single).filterMap _

theorem pinned_perm : (pinned layout first).Perm (pinned layout second) :=
  (outcomes_perm layout reordered single).filterMap _

theorem switches_eq_of_perm :
    Compilation.switches layout first = Compilation.switches layout second :=
  Placement.switches_eq_of_perm (pinned_perm layout reordered single)

theorem sameRoutes_pinnedRoutes :
    SameRoutes (pinnedRoutes layout first) (pinnedRoutes layout second) := by
  rw [pinnedRoutes, pinnedRoutes, switches_eq_of_perm layout reordered single]
  exact sameRoutes_routesOf ((pinned_perm layout reordered single).map _) rfl

theorem alikeOutcomes_physical :
    Placement.AlikeOutcomes
      ((physical first).zipIdx.map fun entry => Placement.ofPosition layout entry.1 entry.2)
      ((physical second).zipIdx.map fun entry => Placement.ofPosition layout entry.1 entry.2) :=
  Placement.alikeOutcomes_placeAll (physical_perm reordered single)

theorem sameRoutes_flexibleRoutes :
    SameRoutes (flexibleRoutes layout first) (flexibleRoutes layout second) := by
  have sameRoom : (reserved layout first).members.card = (reserved layout second).members.card := by
    rw [card_reserved, card_reserved, (sameRoutes_pinnedRoutes layout reordered single).length]
  rw [flexibleRoutes, flexibleRoutes, switches_eq_of_perm layout reordered single]
  exact sameRoutes_routesOf (alikeOutcomes_physical layout reordered single).values sameRoom

end Circuits

/-- Two routings that differ in lanes and in the order of routes and errors.  If no
lane is missing they have the same signals. -/
structure Interchangeable (first second : Routing) : Prop where
  switches : first.switches = second.switches
  length : first.routes.length = second.routes.length
  codes : ∀ code : Code, first.errors.countP (fun error => error.code = code) =
    second.errors.countP fun error => error.code = code
  signals : (∀ error ∈ first.errors, error.code ≠ ⟨.routing, 105⟩) →
    (first.routes.map Route.signal).Perm (second.routes.map Route.signal)

theorem map_code_errors_perm (layout : Layout) {first second : List Connection}
    (reordered : first.Perm second) (single : Resolved.SingleSources first) :
    ((errors layout first).map RoutingError.code).Perm
      ((errors layout second).map RoutingError.code) := by
  have resolving := (Resolved.errors_ofConnections_perm reordered single).map RoutingError.code
  have pinning : (Traced.failures (Placement.outcomes layout (virtual first))).Perm
      (Traced.failures (Placement.outcomes layout (virtual second))) :=
    (outcomes_perm layout reordered single).filterMap _
  have placing := (alikeOutcomes_physical layout reordered single).codes
  rw [← Traced.errors_collectAll, ← Traced.errors_collectAll] at placing
  simp only [errors, List.map_append]
  exact resolving.append ((pinning.map RoutingError.code).append
    ((sameRoutes_pinnedRoutes layout reordered single).codes.append
      (placing.append (sameRoutes_flexibleRoutes layout reordered single).codes)))

theorem interchangeable_routing (layout : Layout) {first second : List Connection}
    (reordered : first.Perm second) (single : Resolved.SingleSources first) :
    Interchangeable (routing layout first) (routing layout second) := by
  have pinnedRoutes := sameRoutes_pinnedRoutes layout reordered single
  have flexibleRoutes := sameRoutes_flexibleRoutes layout reordered single
  refine ⟨switches_eq_of_perm layout reordered single, ?_, ?_, ?_⟩
  · simp only [routing, List.length_append, pinnedRoutes.length, flexibleRoutes.length]
  · intro code
    have sameCount := (map_code_errors_perm layout reordered single).countP_eq
      (fun found => decide (found = code))
    rwa [List.countP_map, List.countP_map] at sameCount
  · intro enough
    simp only [routing, errors, List.mem_append] at enough
    simp only [routing, List.map_append]
    refine (pinnedRoutes.signals ?_).append (flexibleRoutes.signals ?_)
    · exact fun error failed => enough error (Or.inr (Or.inr (Or.inl failed)))
    · exact fun error failed => enough error (Or.inr (Or.inr (Or.inr (Or.inr failed))))

/-- Two compilations both fail, or their routings are interchangeable. -/
inductive SameUpToLanes :
    Except RoutingFault Routing → Except RoutingFault Routing → Prop
  | fault (first second : RoutingFault) : SameUpToLanes (.error first) (.error second)
  | routing {first second : Routing} (interchangeable : Interchangeable first second) :
      SameUpToLanes (.ok first) (.ok second)

/-- If every potentiometer has at most one source, the connections can be given in
any order. -/
theorem sameUpToLanes_of_perm (layout : Layout) {first second : List Connection}
    (reordered : first.Perm second) (single : Resolved.SingleSources first) :
    SameUpToLanes (compile layout first).value (compile layout second).value := by
  have sameStop := unstopped_iff layout reordered single
  by_cases unstopped : Placement.Unstopped layout (virtual first)
  · rw [value_compile unstopped, value_compile (sameStop.mp unstopped)]
    exact SameUpToLanes.routing (interchangeable_routing layout reordered single)
  · cases firstValue : (compile layout first).value with
    | ok found => exact absurd (compile_eq_ok_iff.mp firstValue).1 unstopped
    | error firstFault =>
        cases secondValue : (compile layout second).value with
        | ok found =>
            exact absurd (sameStop.mpr (compile_eq_ok_iff.mp secondValue).1) unstopped
        | error secondFault => exact SameUpToLanes.fault firstFault secondFault

/-- In reverse the tap comes first, and the other branch of the external input keeps
its lane. -/
theorem sameUpToLanes_fannedCircuit :
    Resolved.SingleSources fannedCircuit ∧
      SameUpToLanes (compile .standard fannedCircuit).value
        (compile .standard fannedCircuit.reverse).value ∧
      (compile .standard fannedCircuit).value.isOk = true ∧
      (routing .standard fannedCircuit.reverse).routes.map Route.lane = [0, 16, 1, 2] := by
  have single : Resolved.SingleSources fannedCircuit := by decide +kernel
  exact ⟨single,
    sameUpToLanes_of_perm .standard (List.reverse_perm fannedCircuit).symm single,
    by decide +kernel, by decide +kernel⟩

end Compilation

end Crossbar
