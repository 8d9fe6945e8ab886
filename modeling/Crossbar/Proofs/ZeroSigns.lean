import Crossbar.Proofs.Fault
import Crossbar.Proofs.MatrixRoundTrip

/-!
# The signs of zeros

Equal coefficients are the same but for the signs of zeros.  No step of the router
looks at such a sign: leaving it out before a step gives the same errors as leaving
it out after, and the same results.  So what the steps do with equal coefficients
follows from what they do with the same ones.
-/

namespace Crossbar

/-! ## Coefficients without the sign of a zero -/

namespace Coefficient

/-- A coefficient without the sign of a zero. -/
def unsigned (coefficient : Float) : Float :=
  if coefficient == 0.0 then 0.0 else coefficient

variable {coefficient first second : Float}

theorem unsigned_of_zero (zero : (coefficient == 0.0) = true) : unsigned coefficient = 0.0 :=
  if_pos zero

theorem unsigned_of_nonzero (nonzero : (coefficient == 0.0) = false) :
    unsigned coefficient = coefficient := by
  rw [unsigned, nonzero]
  rfl

@[simp]
theorem unsigned_zero : unsigned 0.0 = 0.0 :=
  unsigned_of_zero (by decide)

@[simp]
theorem unsigned_one : unsigned 1.0 = 1.0 :=
  unsigned_of_nonzero (by decide)

/-- What holds of both zeros alike is not changed by leaving out their sign. -/
theorem apply_unsigned {α : Type} (test : Float → α) (sameForZeros : test (-0.0) = test 0.0)
    (coefficient : Float) : test (unsigned coefficient) = test coefficient := by
  cases zero : coefficient == 0.0 with
  | true =>
      rw [unsigned_of_zero zero]
      rcases beq_zero_iff.mp zero with rfl | rfl
      · rfl
      · exact sameForZeros.symm
  | false => rw [unsigned_of_nonzero zero]

theorem unsigned_eq_of_beq (equal : (first == second) = true) :
    unsigned first = unsigned second := by
  have negative : unsigned (-0.0) = 0.0 := unsigned_of_zero (by decide)
  obtain ⟨_, _, same | ⟨rfl, rfl⟩ | ⟨rfl, rfl⟩⟩ := Float.beq_iff_ne_nan_and_eq.mp equal
  · rw [same]
  · exact unsigned_zero.trans negative.symm
  · exact negative.trans unsigned_zero.symm

/-- A number equals whatever is the same without the sign of a zero. -/
theorem beq_of_unsigned_eq (same : unsigned first = unsigned second)
    (number : (first == first) = true) : (first == second) = true := by
  cases zero : second == 0.0 with
  | true =>
      rw [unsigned_of_zero zero] at same
      have firstZero : (first == 0.0) = true := by
        rw [← apply_unsigned (· == 0.0) (by decide) first, same]
        decide
      rcases beq_zero_iff.mp firstZero with rfl | rfl <;>
        rcases beq_zero_iff.mp zero with rfl | rfl <;> decide
  | false =>
      have firstNonzero : (first == 0.0) = false := by
        rw [← zero, ← apply_unsigned (· == 0.0) (by decide) first, same,
          apply_unsigned (· == 0.0) (by decide) second]
      rw [unsigned_of_nonzero zero, unsigned_of_nonzero firstNonzero] at same
      rwa [← same]

theorem inRange_unsigned (coefficient : Float) :
    Link.inRange (unsigned coefficient) = Link.inRange coefficient :=
  apply_unsigned Link.inRange (by decide) coefficient

/-- Zeros are in range. -/
theorem unsigned_of_not_inRange (outside : Link.inRange coefficient = false) :
    unsigned coefficient = coefficient := by
  cases zero : coefficient == 0.0 with
  | true =>
      rw [← inRange_unsigned, unsigned_of_zero zero, Link.inRange_zero] at outside
      cases outside
  | false => exact unsigned_of_nonzero zero

theorem beq_self_of_inRange (ranged : Link.inRange coefficient = true) :
    (coefficient == coefficient) = true := by
  have number : coefficient ≠ Float.nan := by
    rintro rfl
    exact absurd ranged (by decide)
  exact Float.beq_iff_ne_nan_and_eq.mpr ⟨number, number, Or.inl rfl⟩

/-- The test that a sink applies to its coefficient. -/
theorem filter_weight_unsigned (weight : Option Float) :
    (weight.map unsigned).filter (fun c => c != 0.0 && c != 1.0) =
      weight.filter fun c => c != 0.0 && c != 1.0 := by
  cases weight with
  | none => rfl
  | some coefficient =>
      cases zero : coefficient == 0.0 with
      | true => rcases beq_zero_iff.mp zero with rfl | rfl <;> decide
      | false => rw [Option.map_some, unsigned_of_nonzero zero]

end Coefficient

/-! ## Steps that commute with leaving something out -/

namespace Traced

variable {α β γ : Type}

/-- A step on lists that reports the same without what is left out of its items, and
gives the same without what is left out of its results. -/
structure Commutes (before : α → α) (after : β → β) (step : List α → Traced (List β)) :
    Prop where
  value : ∀ items, (step (items.map before)).value = (step items).value.map after
  errors : ∀ items, (step (items.map before)).errors = (step items).errors

variable {before : α → α} {between : β → β} {after : γ → γ}

theorem Commutes.bind {first : List α → Traced (List β)} {second : List β → Traced (List γ)}
    (firstCommutes : Commutes before between first)
    (secondCommutes : Commutes between after second) :
    Commutes before after fun items => first items >>= second := by
  constructor <;> intro items
  · rw [value_bind, firstCommutes.value, secondCommutes.value, value_bind]
  · rw [errors_bind, firstCommutes.value, firstCommutes.errors, secondCommutes.errors,
      errors_bind]

/-- Collecting the results of a list of steps. -/
theorem Commutes.collectAll {results : List α → List (Except RoutingError β)}
    (commutes : ∀ items, results (items.map before) = (results items).map (Except.map between)) :
    Commutes before between fun items => Traced.collectAll (results items) := by
  constructor <;> intro items
  · rw [commutes, value_collectAll_map]
  · rw [commutes, errors_collectAll, failures_map_map, errors_collectAll]

/-- Items that are the same without what is left out give results that are. -/
theorem Commutes.value_eq {step : List α → Traced (List β)}
    (commutes : Commutes before between step) {items others : List α}
    (same : items.map before = others.map before) :
    (step items).value.map between = (step others).value.map between := by
  rw [← commutes.value, same, commutes.value]

theorem Commutes.errors_eq {step : List α → Traced (List β)}
    (commutes : Commutes before between step) {items others : List α}
    (same : items.map before = others.map before) :
    (step items).errors = (step others).errors := by
  rw [← commutes.errors, same, commutes.errors]

end Traced

/-! ## Links -/

namespace Link

/-- A link whose coefficient has no sign of a zero. -/
def unsigned (link : Link) : Link :=
  ⟨link.wire, match link.role with
    | .direct => .direct
    | .feeds lane coefficient => .feeds lane (coefficient.map Coefficient.unsigned)
    | .leaves lane coefficient => .leaves lane (coefficient.map Coefficient.unsigned)⟩

variable {link : Link} {lane : Lane} {coefficient : Option Float}

theorem role_unsigned_direct (role : link.role = .direct) : link.unsigned.role = .direct := by
  simp [unsigned, role]

theorem role_unsigned_feeds (role : link.role = .feeds lane coefficient) :
    link.unsigned.role = .feeds lane (coefficient.map Coefficient.unsigned) := by
  simp [unsigned, role]

theorem role_unsigned_leaves (role : link.role = .leaves lane coefficient) :
    link.unsigned.role = .leaves lane (coefficient.map Coefficient.unsigned) := by
  simp [unsigned, role]

theorem feedsLane_comp_unsigned (lane : Lane) : feedsLane lane ∘ unsigned = feedsLane lane := by
  funext link
  obtain ⟨wire, role⟩ := link
  cases role <;> rfl

theorem leavesLane_comp_unsigned (lane : Lane) :
    leavesLane lane ∘ unsigned = leavesLane lane := by
  funext link
  obtain ⟨wire, role⟩ := link
  cases role <;> rfl

theorem coefficient?_unsigned (link : Link) :
    link.unsigned.coefficient? = link.coefficient?.map Coefficient.unsigned := by
  obtain ⟨wire, role⟩ := link
  cases role <;> rfl

theorem find?_feedsLane_unsigned (links : List Link) (lane : Lane) :
    (links.map unsigned).find? (feedsLane lane) =
      (links.find? (feedsLane lane)).map unsigned := by
  rw [List.find?_map, feedsLane_comp_unsigned]

theorem any_leavesLane_unsigned (links : List Link) (lane : Lane) :
    (links.map unsigned).any (leavesLane lane) = links.any (leavesLane lane) := by
  rw [List.any_map, leavesLane_comp_unsigned]

end Link

/-! ## Resolved connections -/

namespace Resolved

def unsigned (resolved : Resolved) : Resolved :=
  { resolved with coefficient := resolved.coefficient.map Coefficient.unsigned }

theorem weight_unsigned (resolved : Resolved) :
    resolved.unsigned.weight = Coefficient.unsigned resolved.weight := by
  unfold weight unsigned
  cases resolved.coefficient with
  | none => exact Coefficient.unsigned_one.symm
  | some coefficient => rfl

theorem fault?_unsigned (resolved : Resolved) : resolved.unsigned.fault? = resolved.fault? := by
  unfold fault? unsigned
  rw [Coefficient.filter_weight_unsigned]

/-- Joining halves commutes with leaving out the signs of zeros. -/
theorem ofLinks_unsigned (links : List Link) (fed : LaneSet) (rest : List Link) :
    ofLinks (links.map Link.unsigned) fed (rest.map Link.unsigned) =
      (ofLinks links fed rest).map (Except.map unsigned) := by
  induction rest generalizing fed with
  | nil => rfl
  | cons link rest inductionHypothesis =>
      rw [List.map_cons]
      cases role : link.role with
      | direct =>
          rw [ofLinks_direct (Link.role_unsigned_direct role), ofLinks_direct role,
            inductionHypothesis]
          rfl
      | leaves lane coefficient =>
          have found? := Link.find?_feedsLane_unsigned links lane
          cases found : links.find? (Link.feedsLane lane) with
          | some feeding =>
              rw [found] at found?
              rw [ofLinks_joined (Link.role_unsigned_leaves role) found?,
                ofLinks_joined role found, inductionHypothesis, Link.coefficient?_unsigned]
              cases coefficient <;> rfl
          | none =>
              rw [found] at found?
              rw [ofLinks_unfed (Link.role_unsigned_leaves role) found?, ofLinks_unfed role found,
                inductionHypothesis]
              rfl
      | feeds lane coefficient =>
          have left? := Link.any_leavesLane_unsigned links lane
          by_cases wasted : lane ∈ fed ∨ links.any (Link.leavesLane lane) = false
          · rw [ofLinks_unused (Link.role_unsigned_feeds role) (left? ▸ wasted),
              ofLinks_unused role wasted, inductionHypothesis]
            rfl
          · obtain ⟨fresh, left⟩ := not_or.mp wasted
            rw [Bool.not_eq_false] at left
            rw [ofLinks_used (Link.role_unsigned_feeds role) fresh (left?.trans left),
              ofLinks_used role fresh left, inductionHypothesis]

end Resolved

/-! ## Placements -/

namespace Placement

def unsigned (placement : Placement) : Placement :=
  { placement with coefficient := Coefficient.unsigned placement.coefficient }

variable (layout : Layout)

theorem pinSink_unsigned (resolved : Resolved) :
    pinSink layout resolved.unsigned =
      (pinSink layout resolved).map (Except.map unsigned) := by
  have sameWeight := Coefficient.filter_weight_unsigned resolved.coefficient
  unfold pinSink
  dsimp only [Resolved.unsigned]
  rw [sameWeight]
  split
  · rfl
  · split
    · rfl
    · rfl
    · simp [Except.map, unsigned]

theorem pinExternalInput_unsigned (resolved : Resolved) :
    pinExternalInput layout resolved.unsigned =
      (pinExternalInput layout resolved).map unsigned := by
  have sameWeight := resolved.weight_unsigned
  unfold pinExternalInput
  rw [sameWeight]
  dsimp only [Resolved.unsigned]
  split
  · split <;> rfl
  · rfl

theorem pinConstant_unsigned (resolved : Resolved) :
    pinConstant layout resolved.unsigned = (pinConstant layout resolved).map unsigned := by
  have sameWeight := resolved.weight_unsigned
  unfold pinConstant
  rw [sameWeight]
  dsimp only [Resolved.unsigned]
  split <;> rfl

theorem pin_unsigned (resolved : Resolved) :
    pin layout resolved.unsigned = (pin layout resolved).map (Except.map unsigned) := by
  have sameWire : resolved.unsigned.wire = resolved.wire := rfl
  unfold pin
  rw [sameWire, pinSink_unsigned, pinExternalInput_unsigned, pinConstant_unsigned]
  split <;> rfl

theorem outcomes_unsigned (connections : List Resolved) :
    outcomes layout (connections.map Resolved.unsigned) =
      (outcomes layout connections).map (Except.map unsigned) := by
  rw [outcomes, List.filterMap_map, outcomes, List.map_filterMap]
  congr 1
  funext resolved
  rw [Function.comp_apply, pin_unsigned]
  cases pin layout resolved <;> rfl

theorem ofPosition_unsigned (resolved : Resolved) (position : Nat) :
    ofPosition layout resolved.unsigned position =
      (ofPosition layout resolved position).map unsigned := by
  have sameWeight := resolved.weight_unsigned
  unfold ofPosition
  rw [sameWeight]
  dsimp only [Resolved.unsigned]
  split <;> rfl

theorem commutes_placeAll : Traced.Commutes Resolved.unsigned unsigned (placeAll layout) := by
  refine Traced.Commutes.collectAll fun connections => ?_
  rw [List.zipIdx_map, List.map_map, List.map_map]
  refine List.map_congr_left fun entry _ => ?_
  exact ofPosition_unsigned layout entry.1 entry.2

theorem switches_unsigned (placements : List Placement) :
    switches (placements.map unsigned) = switches placements :=
  List.foldl_map

theorem checkShadow_unsigned (switches : AuxSwitches) (placement : Placement) :
    checkShadow switches placement.unsigned = (checkShadow switches placement).map unsigned := by
  have sameShadow : shadow? switches placement.unsigned = shadow? switches placement := rfl
  unfold checkShadow
  rw [sameShadow]
  split <;> rfl

theorem commutes_dropShadowed (switches : AuxSwitches) :
    Traced.Commutes unsigned unsigned (dropShadowed switches) := by
  refine Traced.Commutes.collectAll fun placements => ?_
  rw [List.map_map, List.map_map]
  exact List.map_congr_left fun placement _ => checkShadow_unsigned switches placement

end Placement

/-! ## Routes -/

namespace Route

def unsigned (route : Route) : Route :=
  { route with coefficient := Coefficient.unsigned route.coefficient }

theorem map_lane_unsigned (routes : List Route) :
    (routes.map unsigned).map lane = routes.map lane :=
  List.map_map

theorem beq_eq (first second : Route) :
    (first == second) = (first.lane == second.lane && (first.input == second.input &&
      (first.coefficient == second.coefficient && first.output == second.output))) :=
  rfl

theorem beq_of_unsigned_eq {first second : Route} (same : first.unsigned = second.unsigned)
    (number : (first.coefficient == first.coefficient) = true) : (first == second) = true := by
  have fields := same
  simp only [unsigned, Route.mk.injEq] at fields
  obtain ⟨lane, input, coefficient, output⟩ := fields
  simp [beq_eq, lane, input, output, Coefficient.beq_of_unsigned_eq coefficient number]

/-- Routes whose coefficients are numbers equal whatever is the same without the signs
of zeros. -/
theorem beq_of_map_unsigned_eq {first second : List Route}
    (same : first.map unsigned = second.map unsigned)
    (numbers : ∀ route ∈ first, (route.coefficient == route.coefficient) = true) :
    (first == second) = true := by
  induction first generalizing second with
  | nil =>
      rw [List.map_nil, eq_comm, List.map_eq_nil_iff] at same
      rw [same]
      rfl
  | cons route rest inductionHypothesis =>
      cases second with
      | nil => cases same
      | cons other others =>
          obtain ⟨sameHead, sameRest⟩ := List.cons.inj same
          have head := beq_of_unsigned_eq sameHead (numbers route (List.mem_cons_self ..))
          have tail := inductionHypothesis sameRest fun later member =>
            numbers later (List.mem_cons_of_mem route member)
          rw [List.cons_beq_cons, head, tail]
          rfl

end Route

namespace LaneAssignment

variable {group : Group}

theorem commutes_assign (occupied kept : LaneSet) :
    Traced.Commutes Placement.unsigned Route.unsigned (assign group occupied kept) := by
  suffices both : ∀ placements : List Placement,
      (assign group occupied kept (placements.map Placement.unsigned)).value =
          (assign group occupied kept placements).value.map Route.unsigned ∧
        (assign group occupied kept (placements.map Placement.unsigned)).errors =
          (assign group occupied kept placements).errors from
    ⟨fun placements => (both placements).1, fun placements => (both placements).2⟩
  intro placements
  induction placements generalizing occupied kept with
  | nil => exact ⟨rfl, rfl⟩
  | cons placement rest inductionHypothesis =>
      have sameLane : keeps? kept placement.unsigned = keeps? kept placement := rfl
      rw [List.map_cons]
      cases keeps : keeps? kept placement with
      | some lane =>
          obtain ⟨value, errors⟩ := inductionHypothesis occupied (kept.insert lane)
          rw [value_assign_keep (sameLane.trans keeps), errors_assign_keep (sameLane.trans keeps),
            value_assign_keep keeps, errors_assign_keep keeps, value, errors]
          exact ⟨rfl, rfl⟩
      | none =>
          have moves := sameLane.trans keeps
          cases free : occupied.lowestFree with
          | some lane =>
              obtain ⟨value, errors⟩ := inductionHypothesis (occupied.insert lane) kept
              rw [value_assign_move moves free, errors_assign_move moves free,
                value_assign_move keeps free, errors_assign_move keeps free, value, errors]
              exact ⟨rfl, rfl⟩
          | none =>
              obtain ⟨value, errors⟩ := inductionHypothesis occupied kept
              rw [value_assign_drop moves free, errors_assign_drop moves free,
                value_assign_drop keeps free, errors_assign_drop keeps free, value, errors]
              exact ⟨rfl, rfl⟩

theorem commutes_settle (reserved : LaneSet) :
    Traced.Commutes Placement.unsigned Route.unsigned (settle group reserved) := by
  have sameRequests (placements : List Placement) :
      requested (placements.map Placement.unsigned) = requested placements :=
    List.filterMap_map
  constructor <;> intro placements
  · rw [settle, sameRequests, (commutes_assign _ _).value, settle]
  · rw [settle, sameRequests, (commutes_assign _ _).errors, settle]

end LaneAssignment

theorem commutes_routesOf (group : Group) (switches : AuxSwitches) (reserved : LaneSet) :
    Traced.Commutes Placement.unsigned Route.unsigned (routesOf group switches reserved) :=
  (Placement.commutes_dropShadowed switches).bind (LaneAssignment.commutes_settle reserved)

end Crossbar
