import Crossbar.Proofs.LaneSet
import Crossbar.Proofs.Trace
import Crossbar.Routing.LaneAssignment
import Mathlib.Data.Finset.Card
import Mathlib.Data.List.Nodup

/-!
# Lanes after assignment

Pinned and flexible placements are settled alike.  One recursion over the placements,
with the lanes that may not be kept and those that may not be moved to, stands for the
passes over either group, and gives the same routes and events.

Assigning lanes only moves placements: every route is a placement on some lane,
in order, and with as many routes as placements unless one is rejected for want
of a lane.  The lanes are pairwise distinct and none of them is reserved.  As many
placements get a lane as there are lanes that are not reserved, and placements
that ask for distinct free lanes stay where they are.

The invariant of the recursion is that the occupied lanes contain the kept ones
and all lanes that are still asked for.
-/

namespace Crossbar

/-! ## Signals -/

/-- What a route does, apart from the lane it does it on. -/
def Route.signal (route : Route) : CrossLane × Float × Option CrossLane :=
  (route.input, route.coefficient, route.output)

/-- What a placement does, apart from the lane it asks for. -/
def Placement.signal (placement : Placement) : CrossLane × Float × Option CrossLane :=
  (placement.input, placement.coefficient, placement.output)

theorem Placement.signal_onLane (placement : Placement) (lane : Lane) :
    (placement.onLane lane).signal = placement.signal :=
  rfl

namespace LaneAssignment

/-! ## One recursion -/

/-- The lane a placement may keep: the one it asks for, unless that is kept by
another. -/
def keeps? (kept : LaneSet) (placement : Placement) : Option Lane :=
  placement.lane.filter fun lane => lane ∉ kept

/-- Assigns lanes one placement after another.  `occupied` holds the lanes that no
moved placement may take, and `kept` those that may not be kept any more. -/
def assign (group : Group) (occupied kept : LaneSet) :
    List Placement → Traced (List Route)
  | [] => .of []
  | placement :: rest =>
    match keeps? kept placement with
    | some lane => do
      let routes ← assign group occupied (kept.insert lane) rest
      return placement.onLane lane :: routes
    | none =>
      match occupied.lowestFree with
      | some lane => do
        Traced.emit (.reassigned group placement.lane lane placement.wire)
        let routes ← assign group (occupied.insert lane) kept rest
        return placement.onLane lane :: routes
      | none => do
        Traced.emit (.rejected ⟨.noFreeLane group, placement.subject⟩)
        assign group occupied kept rest

/-- Gives every placement a lane outside the reserved ones. -/
def settle (group : Group) (reserved : LaneSet) (placements : List Placement) :
    Traced (List Route) :=
  assign group ((requested placements).foldl LaneSet.insert reserved) reserved placements

variable {group : Group} {occupied kept reserved : LaneSet} {placement : Placement}
  {placements rest : List Placement} {lane : Lane}

/-! ## Steps -/

theorem keeps?_eq_some_iff :
    keeps? kept placement = some lane ↔ placement.lane = some lane ∧ lane ∉ kept := by
  simp [keeps?, Option.filter_eq_some_iff]

theorem keeps?_eq_none_iff :
    keeps? kept placement = none ↔ ∀ lane, placement.lane = some lane → lane ∈ kept := by
  simp [keeps?, Option.filter_eq_none_iff]

section Steps

theorem events_assign_keep (keeps : keeps? kept placement = some lane) :
    (assign group occupied kept (placement :: rest)).events =
      (assign group occupied (kept.insert lane) rest).events := by
  rw [assign, keeps]
  simp

theorem events_assign_move (moves : keeps? kept placement = none)
    (free : occupied.lowestFree = some lane) :
    (assign group occupied kept (placement :: rest)).events =
      .reassigned group placement.lane lane placement.wire ::
        (assign group (occupied.insert lane) kept rest).events := by
  rw [assign, moves]
  simp [free]

theorem events_assign_drop (moves : keeps? kept placement = none)
    (full : occupied.lowestFree = none) :
    (assign group occupied kept (placement :: rest)).events =
      .rejected ⟨.noFreeLane group, placement.subject⟩ ::
        (assign group occupied kept rest).events := by
  rw [assign, moves]
  simp [full]

theorem value_assign_keep (keeps : keeps? kept placement = some lane) :
    (assign group occupied kept (placement :: rest)).value =
      placement.onLane lane :: (assign group occupied (kept.insert lane) rest).value := by
  rw [assign, keeps]
  rfl

theorem errors_assign_keep (keeps : keeps? kept placement = some lane) :
    (assign group occupied kept (placement :: rest)).errors =
      (assign group occupied (kept.insert lane) rest).errors := by
  rw [Traced.errors, events_assign_keep keeps, Traced.errors]

theorem value_assign_move (moves : keeps? kept placement = none)
    (free : occupied.lowestFree = some lane) :
    (assign group occupied kept (placement :: rest)).value =
      placement.onLane lane :: (assign group (occupied.insert lane) kept rest).value := by
  rw [assign, moves]
  simp [free]

theorem errors_assign_move (moves : keeps? kept placement = none)
    (free : occupied.lowestFree = some lane) :
    (assign group occupied kept (placement :: rest)).errors =
      (assign group (occupied.insert lane) kept rest).errors := by
  rw [Traced.errors, events_assign_move moves free]
  rfl

theorem value_assign_drop (moves : keeps? kept placement = none)
    (full : occupied.lowestFree = none) :
    (assign group occupied kept (placement :: rest)).value =
      (assign group occupied kept rest).value := by
  rw [assign, moves]
  simp [full]

theorem errors_assign_drop (moves : keeps? kept placement = none)
    (full : occupied.lowestFree = none) :
    (assign group occupied kept (placement :: rest)).errors =
      ⟨.noFreeLane group, placement.subject⟩ :: (assign group occupied kept rest).errors := by
  rw [Traced.errors, events_assign_drop moves full]
  rfl

end Steps

/-! ## Routes are placements on lanes -/

theorem assign_origins (group : Group) (occupied kept : LaneSet) (placements : List Placement) :
    List.SublistForall₂ (fun route placement => route = placement.onLane route.lane)
      (assign group occupied kept placements).value placements := by
  induction placements generalizing occupied kept with
  | nil =>
      exact List.SublistForall₂.nil
  | cons placement rest inductionHypothesis =>
      cases keeps : keeps? kept placement with
      | some lane =>
          rw [value_assign_keep keeps]
          exact List.SublistForall₂.cons rfl (inductionHypothesis occupied (kept.insert lane))
      | none =>
          cases free : occupied.lowestFree with
          | some lane =>
              rw [value_assign_move keeps free]
              exact List.SublistForall₂.cons rfl
                (inductionHypothesis (occupied.insert lane) kept)
          | none =>
              rw [value_assign_drop keeps free]
              exact List.SublistForall₂.cons_right (inductionHypothesis occupied kept)

/-- Every placement becomes a route or an error. -/
theorem length_assign (group : Group) (occupied kept : LaneSet) (placements : List Placement) :
    (assign group occupied kept placements).value.length +
      (assign group occupied kept placements).errors.length = placements.length := by
  induction placements generalizing occupied kept with
  | nil =>
      rfl
  | cons placement rest inductionHypothesis =>
      cases keeps : keeps? kept placement with
      | some lane =>
          have tail := inductionHypothesis occupied (kept.insert lane)
          rw [value_assign_keep keeps, errors_assign_keep keeps, List.length_cons,
            List.length_cons]
          omega
      | none =>
          cases free : occupied.lowestFree with
          | some lane =>
              have tail := inductionHypothesis (occupied.insert lane) kept
              rw [value_assign_move keeps free, errors_assign_move keeps free,
                List.length_cons, List.length_cons]
              omega
          | none =>
              have tail := inductionHypothesis occupied kept
              rw [value_assign_drop keeps free, errors_assign_drop keeps free,
                List.length_cons, List.length_cons]
              omega

theorem code_of_assign {error : RoutingError}
    (failed : error ∈ (assign group occupied kept placements).errors) :
    error.code = ⟨.routing, 105⟩ := by
  induction placements generalizing occupied kept with
  | nil =>
      cases failed
  | cons placement rest inductionHypothesis =>
      cases keeps : keeps? kept placement with
      | some lane =>
          rw [errors_assign_keep keeps] at failed
          exact inductionHypothesis failed
      | none =>
          cases free : occupied.lowestFree with
          | some lane =>
              rw [errors_assign_move keeps free] at failed
              exact inductionHypothesis failed
          | none =>
              rw [errors_assign_drop keeps free] at failed
              rcases List.mem_cons.mp failed with here | later
              · rw [here]
                rfl
              · exact inductionHypothesis later

/-! ## Lanes are distinct -/

/-- The invariant of an assignment: lanes that are kept or still asked for are
occupied. -/
structure Covers (occupied kept : LaneSet) (placements : List Placement) : Prop where
  kept : ∀ lane, lane ∈ kept → lane ∈ occupied
  requested : ∀ lane, lane ∈ requested placements → lane ∈ occupied

theorem mem_requested_cons :
    lane ∈ requested (placement :: rest) ↔
      placement.lane = some lane ∨ lane ∈ requested rest := by
  simp [requested]

theorem Covers.keep (covers : Covers occupied kept (placement :: rest))
    (keeps : keeps? kept placement = some lane) : Covers occupied (kept.insert lane) rest := by
  have asked := (keeps?_eq_some_iff.mp keeps).1
  constructor
  · intro other member
    rcases LaneSet.mem_insert.mp member with rfl | old
    · exact covers.requested other (mem_requested_cons.mpr (Or.inl asked))
    · exact covers.kept other old
  · intro other member
    exact covers.requested other (mem_requested_cons.mpr (Or.inr member))

theorem Covers.move (covers : Covers occupied kept (placement :: rest)) (lane : Lane) :
    Covers (occupied.insert lane) kept rest := by
  constructor
  · intro other member
    exact LaneSet.mem_insert.mpr (Or.inr (covers.kept other member))
  · intro other member
    have occupiedBefore := covers.requested other (mem_requested_cons.mpr (Or.inr member))
    exact LaneSet.mem_insert.mpr (Or.inr occupiedBefore)

theorem Covers.drop (covers : Covers occupied kept (placement :: rest)) :
    Covers occupied kept rest :=
  ⟨covers.kept, fun other member =>
    covers.requested other (mem_requested_cons.mpr (Or.inr member))⟩

theorem covers_settle (reserved : LaneSet) (placements : List Placement) :
    Covers ((requested placements).foldl LaneSet.insert reserved) reserved placements :=
  ⟨fun _ member => LaneSet.mem_foldl_insert.mpr (Or.inr member),
    fun _ member => LaneSet.mem_foldl_insert.mpr (Or.inl member)⟩

/-- An assigned lane is not kept by anyone else, and an occupied lane is assigned
only to a placement that asks for it. -/
theorem lane_of_mem_assign (covers : Covers occupied kept placements) {route : Route}
    (member : route ∈ (assign group occupied kept placements).value) :
    route.lane ∉ kept ∧ (route.lane ∈ occupied → route.lane ∈ requested placements) := by
  induction placements generalizing occupied kept with
  | nil =>
      cases member
  | cons placement rest inductionHypothesis =>
      cases keeps : keeps? kept placement with
      | some lane =>
          obtain ⟨asked, fresh⟩ := keeps?_eq_some_iff.mp keeps
          rw [value_assign_keep keeps] at member
          rcases List.mem_cons.mp member with rfl | later
          · exact ⟨fresh, fun _ => mem_requested_cons.mpr (Or.inl asked)⟩
          · obtain ⟨notKept, onlyAsked⟩ := inductionHypothesis (covers.keep keeps) later
            refine ⟨fun inKept => notKept (LaneSet.mem_insert.mpr (Or.inr inKept)), ?_⟩
            exact fun inOccupied => mem_requested_cons.mpr (Or.inr (onlyAsked inOccupied))
      | none =>
          cases free : occupied.lowestFree with
          | some lane =>
              have fresh := LaneSet.lowestFree_not_mem free
              rw [value_assign_move keeps free] at member
              rcases List.mem_cons.mp member with rfl | later
              · exact ⟨fun inKept => fresh (covers.kept lane inKept),
                  fun inOccupied => absurd inOccupied fresh⟩
              · obtain ⟨notKept, onlyAsked⟩ := inductionHypothesis (covers.move lane) later
                refine ⟨notKept, fun inOccupied => mem_requested_cons.mpr (Or.inr ?_)⟩
                exact onlyAsked (LaneSet.mem_insert.mpr (Or.inr inOccupied))
          | none =>
              rw [value_assign_drop keeps free] at member
              obtain ⟨notKept, onlyAsked⟩ := inductionHypothesis covers.drop member
              exact ⟨notKept, fun inOccupied =>
                mem_requested_cons.mpr (Or.inr (onlyAsked inOccupied))⟩

theorem nodup_assign (covers : Covers occupied kept placements) :
    ((assign group occupied kept placements).value.map Route.lane).Nodup := by
  induction placements generalizing occupied kept with
  | nil =>
      exact List.nodup_nil
  | cons placement rest inductionHypothesis =>
      cases keeps : keeps? kept placement with
      | some lane =>
          have coversRest := covers.keep keeps
          rw [value_assign_keep keeps, List.map_cons, List.nodup_cons]
          refine ⟨?_, inductionHypothesis coversRest⟩
          intro repeated
          obtain ⟨route, member, sameLane⟩ := List.mem_map.mp repeated
          apply (lane_of_mem_assign coversRest member).1
          exact LaneSet.mem_insert.mpr (Or.inl sameLane)
      | none =>
          cases free : occupied.lowestFree with
          | some lane =>
              have coversRest := covers.move lane
              rw [value_assign_move keeps free, List.map_cons, List.nodup_cons]
              refine ⟨?_, inductionHypothesis coversRest⟩
              intro repeated
              obtain ⟨route, member, sameLane⟩ := List.mem_map.mp repeated
              change route.lane = lane at sameLane
              have asked : lane ∈ requested rest := by
                rw [← sameLane]
                apply (lane_of_mem_assign coversRest member).2
                exact LaneSet.mem_insert.mpr (Or.inl sameLane)
              apply LaneSet.lowestFree_not_mem free
              exact covers.requested lane (mem_requested_cons.mpr (Or.inr asked))
          | none =>
              rw [value_assign_drop keeps free]
              exact inductionHypothesis covers.drop

/-! ## As many routes as there are lanes -/

/-- The lanes that are asked for and not kept yet. -/
def wanted (kept : LaneSet) (placements : List Placement) : Finset Lane :=
  (requested placements).toFinset \ kept.members

theorem card_wanted_le (kept : LaneSet) (placements : List Placement) :
    (wanted kept placements).card ≤ placements.length := by
  calc (wanted kept placements).card
      ≤ (requested placements).toFinset.card := Finset.card_le_card Finset.sdiff_subset
    _ ≤ (requested placements).length := List.toFinset_card_le _
    _ ≤ placements.length := List.length_filterMap_le _ _

theorem card_wanted_keep (keeps : keeps? kept placement = some lane) :
    (wanted kept (placement :: rest)).card = (wanted (kept.insert lane) rest).card + 1 := by
  obtain ⟨asked, fresh⟩ := keeps?_eq_some_iff.mp keeps
  have inserted :
      wanted kept (placement :: rest) = insert lane (wanted (kept.insert lane) rest) := by
    ext other
    simp only [wanted, Finset.mem_sdiff, List.mem_toFinset, mem_requested_cons, asked,
      Option.some.injEq, LaneSet.mem_members, Finset.mem_insert, LaneSet.mem_insert]
    grind
  have absent : lane ∉ wanted (kept.insert lane) rest := by
    simp [wanted]
  rw [inserted, Finset.card_insert_of_notMem absent]

theorem wanted_move (moves : keeps? kept placement = none) :
    wanted kept (placement :: rest) = wanted kept rest := by
  ext other
  have headKept := keeps?_eq_none_iff.mp moves other
  simp only [wanted, Finset.mem_sdiff, List.mem_toFinset, mem_requested_cons,
    LaneSet.mem_members]
  tauto

/-- A lane is wanted by a placement or free, and every such lane is used as long as
there are placements. -/
theorem length_value_assign (group : Group) (occupied kept : LaneSet)
    (placements : List Placement) :
    (assign group occupied kept placements).value.length =
      min placements.length ((wanted kept placements).card + (32 - occupied.members.card)) := by
  induction placements generalizing occupied kept with
  | nil =>
      exact (Nat.zero_min _).symm
  | cons placement rest inductionHypothesis =>
      rw [List.length_cons]
      cases keeps : keeps? kept placement with
      | some lane =>
          rw [value_assign_keep keeps, List.length_cons, inductionHypothesis,
            card_wanted_keep keeps]
          omega
      | none =>
          rw [wanted_move keeps]
          cases free : occupied.lowestFree with
          | some lane =>
              have grown := LaneSet.card_members_insert (LaneSet.lowestFree_not_mem free)
              have bounded := LaneSet.card_members_le (occupied.insert lane)
              rw [value_assign_move keeps free, List.length_cons, inductionHypothesis]
              omega
          | none =>
              have everyLane := LaneSet.card_members_of_full free
              have bounded := card_wanted_le kept rest
              rw [value_assign_drop keeps free, inductionHypothesis]
              omega

/-! ## Placements that stay -/

/-- A route is a placement on the lane that the placement asks for. -/
def Stays (route : Route) (placement : Placement) : Prop :=
  placement.lane = some route.lane ∧ route = placement.onLane route.lane

theorem value_assign_of_stays {routes : List Route}
    (stay : List.Forall₂ Stays routes placements) (distinct : (routes.map Route.lane).Nodup)
    (fresh : ∀ route ∈ routes, route.lane ∉ kept) :
    (assign group occupied kept placements).value = routes := by
  induction stay generalizing kept with
  | nil =>
      rfl
  | @cons route placement routes rest stays _ inductionHypothesis =>
      have keeps : keeps? kept placement = some route.lane :=
        keeps?_eq_some_iff.mpr ⟨stays.1, fresh route (List.mem_cons_self ..)⟩
      rw [List.map_cons, List.nodup_cons] at distinct
      rw [value_assign_keep keeps, ← stays.2]
      refine congrArg (route :: ·) (inductionHypothesis distinct.2 ?_)
      intro other member inKept
      rcases LaneSet.mem_insert.mp inKept with sameLane | old
      · exact distinct.1 (sameLane ▸ List.mem_map_of_mem member)
      · exact fresh other (List.mem_cons_of_mem _ member) old

/-! ## Settling -/

theorem settle_origins (group : Group) (reserved : LaneSet) (placements : List Placement) :
    List.SublistForall₂ (fun route placement => route = placement.onLane route.lane)
      (settle group reserved placements).value placements :=
  assign_origins group _ reserved placements

theorem nodup_settle (group : Group) (reserved : LaneSet) (placements : List Placement) :
    ((settle group reserved placements).value.map Route.lane).Nodup :=
  nodup_assign (covers_settle reserved placements)

theorem lane_not_mem_of_mem_settle {route : Route}
    (member : route ∈ (settle group reserved placements).value) : route.lane ∉ reserved :=
  (lane_of_mem_assign (covers_settle reserved placements) member).1

/-- As many placements get a lane as there are lanes that are not reserved. -/
theorem length_value_settle (group : Group) (reserved : LaneSet) (placements : List Placement) :
    (settle group reserved placements).value.length =
      min placements.length (32 - reserved.members.card) := by
  have allOccupied : ((requested placements).foldl LaneSet.insert reserved).members =
      (requested placements).toFinset ∪ reserved.members := by
    ext other
    simp
  have counted : (wanted reserved placements).card + reserved.members.card =
      ((requested placements).foldl LaneSet.insert reserved).members.card := by
    rw [allOccupied, wanted, Finset.card_sdiff_add_card]
  have bounded := LaneSet.card_members_le ((requested placements).foldl LaneSet.insert reserved)
  rw [settle, length_value_assign]
  omega

theorem value_settle_of_stays {routes : List Route}
    (stay : List.Forall₂ Stays routes placements) (distinct : (routes.map Route.lane).Nodup)
    (fresh : ∀ route ∈ routes, route.lane ∉ reserved) :
    (settle group reserved placements).value = routes :=
  value_assign_of_stays stay distinct fresh

theorem length_settle (group : Group) (reserved : LaneSet) (placements : List Placement) :
    (settle group reserved placements).value.length +
      (settle group reserved placements).errors.length = placements.length :=
  length_assign group _ reserved placements

/-- As long as the reserved lanes and the placements are at most 32, every
placement gets a lane. -/
theorem errors_settle_eq_nil (room : reserved.members.card + placements.length ≤ 32) :
    (settle group reserved placements).errors = [] := by
  have total := length_settle group reserved placements
  rw [length_value_settle] at total
  apply List.eq_nil_of_length_eq_zero
  omega

/-- Without an error every placement becomes a route. -/
theorem aligned_settle (noErrors : (settle group reserved placements).errors = []) :
    List.Forall₂ (fun route placement => route = placement.onLane route.lane)
      (settle group reserved placements).value placements := by
  have total := length_settle group reserved placements
  rw [noErrors, List.length_nil, Nat.add_zero] at total
  exact forall₂_of_sublistForall₂ (settle_origins group reserved placements) total

theorem map_signal_of_aligned {routes : List Route}
    (aligned : List.Forall₂ (fun route placement => route = placement.onLane route.lane)
      routes placements) :
    routes.map Route.signal = placements.map Placement.signal := by
  induction aligned with
  | nil =>
      rfl
  | @cons route placement _ _ onLane _ inductionHypothesis =>
      have sameSignal : route.signal = placement.signal := by
        rw [onLane, Placement.signal_onLane]
      rw [List.map_cons, List.map_cons, inductionHypothesis, sameSignal]

/-- Without an error every signal is kept. -/
theorem map_signal_settle (noErrors : (settle group reserved placements).errors = []) :
    (settle group reserved placements).value.map Route.signal =
      placements.map Placement.signal :=
  map_signal_of_aligned (aligned_settle noErrors)

theorem code_of_settle {error : RoutingError}
    (failed : error ∈ (settle group reserved placements).errors) :
    error.code = ⟨.routing, 105⟩ :=
  code_of_assign failed

/-- An error for every placement beyond the lanes that are not reserved. -/
theorem map_code_settle (group : Group) (reserved : LaneSet) (placements : List Placement) :
    (settle group reserved placements).errors.map RoutingError.code =
      List.replicate (placements.length - (32 - reserved.members.card)) ⟨.routing, 105⟩ := by
  have total := length_settle group reserved placements
  rw [length_value_settle] at total
  rw [List.eq_replicate_iff]
  constructor
  · rw [List.length_map]
    omega
  · intro code member
    obtain ⟨error, failed, rfl⟩ := List.mem_map.mp member
    exact code_of_settle failed

end LaneAssignment

end Crossbar
