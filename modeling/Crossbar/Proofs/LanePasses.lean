import Crossbar.Proofs.LaneAssignment

/-!
# The passes of a lane assignment

Pinned placements are settled in two passes over their positions, and flexible ones in
one pass that keeps three sets of lanes.  Both give the routes and the events of the one
recursion over the placements.

The first pass over pinned placements ends with all lanes that are asked for, and the
second one comes past the placements that may not keep theirs.  What it has come past
is final, so its positions start where the placements before them end.  The pass over
flexible placements counts moved placements among those that keep a lane, which matters
to nobody, as a lane that is moved to is not asked for.
-/

namespace Crossbar.LaneAssignment

variable {group : Group} {reserved occupied kept held claimed taken : LaneSet}
  {placement : Placement} {placements done rest : List Placement} {lane : Lane}
  {positions : List Nat} {position : Nat}

/-! ## Single placements -/

theorem relocate_of_free (free : taken.lowestFree = some lane) :
    relocate group taken placement =
      ⟨{ placement with lane := some lane },
        [.reassigned group placement.lane lane placement.wire]⟩ := by
  rw [relocate, free]
  rfl

theorem relocate_of_full (full : taken.lowestFree = none) :
    relocate group taken placement =
      ⟨{ placement with lane := none },
        [.rejected ⟨.noFreeLane group, placement.subject⟩]⟩ := by
  rw [relocate, full]
  rfl

theorem route?_of_lane (asked : placement.lane = some lane) :
    placement.route? = some (placement.onLane lane) := by
  rw [Placement.route?, asked]
  rfl

/-! ## Claiming lanes -/

theorem claimLanes_keep (keeps : keeps? claimed placement = some lane)
    (entries : List (Placement × Nat)) :
    claimLanes claimed ((placement, position) :: entries) =
      claimLanes (claimed.insert lane) entries := by
  obtain ⟨asked, fresh⟩ := keeps?_eq_some_iff.mp keeps
  rw [claimLanes, asked, Option.map_some, LaneSet.claim_of_not_mem fresh]

theorem claimLanes_move (moves : keeps? claimed placement = none)
    (entries : List (Placement × Nat)) :
    claimLanes claimed ((placement, position) :: entries) =
      ((claimLanes claimed entries).1, position :: (claimLanes claimed entries).2) := by
  rw [claimLanes]
  cases asked : placement.lane with
  | none => rfl
  | some lane =>
      have member := keeps?_eq_none_iff.mp moves lane asked
      rw [Option.map_some, LaneSet.claim_of_mem member]

theorem foldl_requested_keep (keeps : keeps? claimed placement = some lane) :
    (requested (placement :: rest)).foldl LaneSet.insert claimed =
      (requested rest).foldl LaneSet.insert (claimed.insert lane) := by
  have asked := (keeps?_eq_some_iff.mp keeps).1
  rw [requested, List.filterMap_cons_some asked, List.foldl_cons, requested]

theorem foldl_requested_move (moves : keeps? claimed placement = none) :
    (requested (placement :: rest)).foldl LaneSet.insert claimed =
      (requested rest).foldl LaneSet.insert claimed := by
  cases asked : placement.lane with
  | none => rw [requested, List.filterMap_cons_none asked, requested]
  | some lane =>
      have member := keeps?_eq_none_iff.mp moves lane asked
      rw [requested, List.filterMap_cons_some asked, List.foldl_cons,
        LaneSet.insert_of_mem member, requested]

/-- In the end every lane that is asked for is claimed. -/
theorem claimLanes_fst (claimed : LaneSet) (placements : List Placement) (position : Nat) :
    (claimLanes claimed (placements.zipIdx position)).1 =
      (requested placements).foldl LaneSet.insert claimed := by
  induction placements generalizing claimed position with
  | nil =>
      rfl
  | cons placement rest inductionHypothesis =>
      rw [List.zipIdx_cons]
      cases keeps : keeps? claimed placement with
      | some lane =>
          rw [claimLanes_keep keeps, inductionHypothesis, foldl_requested_keep keeps]
      | none =>
          rw [claimLanes_move keeps, foldl_requested_move keeps]
          exact inductionHypothesis claimed (position + 1)

/-! ## Moving late placements -/

theorem moveLate_at (done rest : List Placement) (placement : Placement) :
    moveLate claimed (done ++ placement :: rest) (done.length :: positions) =
      (do
        let moved ← relocate .pinned claimed placement
        moveLate (moved.lane.elim claimed claimed.insert) ((done ++ [moved]) ++ rest)
          positions) := by
  have here : (done ++ placement :: rest)[done.length]? = some placement := by
    simp
  have replaced (moved : Placement) :
      (done ++ placement :: rest).set done.length moved = (done ++ [moved]) ++ rest := by
    simp
  rw [moveLate, here]
  simp only [replaced]

/-- The second pass over the placements that come after those it is done with. -/
theorem moveLate_eq_assign (done rest : List Placement) (occupied kept : LaneSet) :
    let settled := moveLate occupied (done ++ rest)
      (claimLanes kept (rest.zipIdx done.length)).2
    settled.value.filterMap Placement.route? =
        done.filterMap Placement.route? ++ (assign .pinned occupied kept rest).value ∧
      settled.events = (assign .pinned occupied kept rest).events := by
  induction rest generalizing done occupied kept with
  | nil =>
      simp [claimLanes, moveLate, assign, Traced.of]
  | cons placement rest inductionHypothesis =>
      have tail (last : Placement) (occupiedNext keptNext : LaneSet) :=
        inductionHypothesis (done ++ [last]) occupiedNext keptNext
      simp only [List.length_append, List.length_singleton, List.filterMap_append] at tail
      rw [List.zipIdx_cons]
      cases keeps : keeps? kept placement with
      | some lane =>
          have asked := (keeps?_eq_some_iff.mp keeps).1
          obtain ⟨routes, events⟩ := tail placement occupied (kept.insert lane)
          have inside : done ++ placement :: rest = done ++ [placement] ++ rest := by simp
          rw [claimLanes_keep keeps, value_assign_keep keeps, events_assign_keep keeps, inside]
          refine ⟨routes.trans ?_, events⟩
          simp [route?_of_lane asked]
      | none =>
          rw [claimLanes_move keeps, moveLate_at]
          cases free : occupied.lowestFree with
          | some lane =>
              obtain ⟨routes, events⟩ :=
                tail { placement with lane := some lane } (occupied.insert lane) kept
              rw [value_assign_move keeps free, events_assign_move keeps free,
                relocate_of_free free]
              refine ⟨routes.trans ?_, congrArg _ events⟩
              rw [List.append_assoc]
              rfl
          | none =>
              obtain ⟨routes, events⟩ := tail { placement with lane := none } occupied kept
              rw [value_assign_drop keeps free, events_assign_drop keeps free,
                relocate_of_full free]
              refine ⟨routes.trans ?_, congrArg _ events⟩
              rw [List.append_assoc]
              rfl

/-- Two passes over the pinned placements give what one recursion gives. -/
theorem settlePinned_eq (placements : List Placement) :
    settlePinned placements = settle .pinned ∅ placements := by
  obtain ⟨routes, events⟩ := moveLate_eq_assign [] placements
    ((requested placements).foldl LaneSet.insert ∅) ∅
  have claimed := claimLanes_fst ∅ placements 0
  apply Traced.eq_of_value_events
  · simp only [settlePinned, Traced.value_bind, Traced.value_pure, claimed]
    exact routes
  · simp only [settlePinned, Traced.events_bind, Traced.events_pure, List.append_nil, claimed]
    exact events

/-! ## Correcting flexible placements -/

theorem correct_keep (asked : placement.lane = some lane) (unreserved : lane ∉ reserved)
    (fresh : lane ∉ held) (rest : List Placement) :
    correct reserved occupied held (placement :: rest) = (do
      let later ← correct reserved occupied (held.insert lane) rest
      return placement :: later) := by
  rw [correct, asked, Option.filter_some_pos (by simpa using unreserved), Option.map_some,
    LaneSet.claim_of_not_mem fresh]

theorem correct_move
    (taken : ∀ lane, placement.lane = some lane → lane ∈ reserved ∨ lane ∈ held)
    (rest : List Placement) :
    correct reserved occupied held (placement :: rest) = (do
      let moved ← relocate .flexible occupied placement
      let later ← correct reserved (moved.lane.elim occupied occupied.insert)
        (moved.lane.elim held held.insert) rest
      return moved :: later) := by
  rw [correct]
  cases asked : placement.lane with
  | none => rfl
  | some lane =>
      by_cases isReserved : lane ∈ reserved
      · rw [Option.filter_some_neg (by simpa using isReserved)]
        rfl
      · have isHeld : lane ∈ held := (taken lane asked).resolve_left isReserved
        rw [Option.filter_some_pos (by simpa using isReserved), Option.map_some,
          LaneSet.claim_of_mem isHeld]

/-- The two sets of kept lanes agree on the lanes that are still asked for, and these are
occupied. -/
structure Agrees (reserved occupied kept held : LaneSet) (placements : List Placement) :
    Prop where
  kept : ∀ lane ∈ requested placements, lane ∈ kept ↔ lane ∈ reserved ∨ lane ∈ held
  requested : ∀ lane ∈ requested placements, lane ∈ occupied

theorem Agrees.keep (agrees : Agrees reserved occupied kept held (placement :: rest))
    (lane : Lane) : Agrees reserved occupied (kept.insert lane) (held.insert lane) rest := by
  constructor
  · intro other member
    have before := agrees.kept other (mem_requested_cons.mpr (Or.inr member))
    rw [LaneSet.mem_insert, LaneSet.mem_insert, before]
    tauto
  · intro other member
    exact agrees.requested other (mem_requested_cons.mpr (Or.inr member))

theorem Agrees.move (agrees : Agrees reserved occupied kept held (placement :: rest))
    (fresh : lane ∉ occupied) :
    Agrees reserved (occupied.insert lane) kept (held.insert lane) rest := by
  constructor
  · intro other member
    have asked : other ∈ LaneAssignment.requested (placement :: rest) :=
      mem_requested_cons.mpr (Or.inr member)
    have different : other ≠ lane :=
      ne_of_mem_of_not_mem (agrees.requested other asked) fresh
    rw [agrees.kept other asked, LaneSet.mem_insert]
    tauto
  · intro other member
    have occupiedBefore := agrees.requested other (mem_requested_cons.mpr (Or.inr member))
    exact LaneSet.mem_insert.mpr (Or.inr occupiedBefore)

theorem Agrees.drop (agrees : Agrees reserved occupied kept held (placement :: rest)) :
    Agrees reserved occupied kept held rest :=
  ⟨fun lane member => agrees.kept lane (mem_requested_cons.mpr (Or.inr member)),
    fun lane member => agrees.requested lane (mem_requested_cons.mpr (Or.inr member))⟩

theorem Agrees.not_mem_of_keeps
    (agrees : Agrees reserved occupied kept held (placement :: rest))
    (keeps : keeps? kept placement = some lane) : lane ∉ reserved ∧ lane ∉ held := by
  obtain ⟨asked, fresh⟩ := keeps?_eq_some_iff.mp keeps
  rwa [agrees.kept lane (mem_requested_cons.mpr (Or.inl asked)), not_or] at fresh

theorem Agrees.mem_of_moves
    (agrees : Agrees reserved occupied kept held (placement :: rest))
    (moves : keeps? kept placement = none) :
    ∀ lane, placement.lane = some lane → lane ∈ reserved ∨ lane ∈ held := by
  intro lane asked
  rw [← agrees.kept lane (mem_requested_cons.mpr (Or.inl asked))]
  exact keeps?_eq_none_iff.mp moves lane asked

theorem correct_eq_assign (agrees : Agrees reserved occupied kept held placements) :
    (correct reserved occupied held placements).value.filterMap Placement.route? =
        (assign .flexible occupied kept placements).value ∧
      (correct reserved occupied held placements).events =
        (assign .flexible occupied kept placements).events := by
  induction placements generalizing occupied kept held with
  | nil =>
      exact ⟨rfl, rfl⟩
  | cons placement rest inductionHypothesis =>
      cases keeps : keeps? kept placement with
      | some lane =>
          have asked := (keeps?_eq_some_iff.mp keeps).1
          obtain ⟨unreserved, fresh⟩ := agrees.not_mem_of_keeps keeps
          obtain ⟨routes, events⟩ := inductionHypothesis (agrees.keep lane)
          rw [correct_keep asked unreserved fresh, value_assign_keep keeps,
            events_assign_keep keeps]
          simp [route?_of_lane asked, routes, events]
      | none =>
          rw [correct_move (agrees.mem_of_moves keeps)]
          cases free : occupied.lowestFree with
          | some lane =>
              have fresh := LaneSet.lowestFree_not_mem free
              obtain ⟨routes, events⟩ := inductionHypothesis (agrees.move fresh)
              have settled : ({ placement with lane := some lane } : Placement).route? =
                  some (placement.onLane lane) := rfl
              rw [value_assign_move keeps free, events_assign_move keeps free,
                relocate_of_free free]
              simp [settled, routes, events]
          | none =>
              obtain ⟨routes, events⟩ := inductionHypothesis agrees.drop
              have dropped : ({ placement with lane := none } : Placement).route? = none := rfl
              rw [value_assign_drop keeps free, events_assign_drop keeps free,
                relocate_of_full free]
              simp [dropped, routes, events]

theorem agrees_settle (reserved : LaneSet) (placements : List Placement) :
    Agrees reserved ((requested placements).foldl LaneSet.insert reserved) reserved ∅
      placements :=
  ⟨fun _ _ => by simp, fun _ member => LaneSet.mem_foldl_insert.mpr (Or.inl member)⟩

/-- One pass over the flexible placements gives what one recursion gives. -/
theorem settleFlexible_eq (reserved : LaneSet) (placements : List Placement) :
    settleFlexible reserved placements = settle .flexible reserved placements := by
  obtain ⟨routes, events⟩ := correct_eq_assign (agrees_settle reserved placements)
  apply Traced.eq_of_value_events
  · simp only [settleFlexible, Traced.value_bind, Traced.value_pure]
    exact routes
  · simp only [settleFlexible, Traced.events_bind, Traced.events_pure, List.append_nil]
    exact events

end Crossbar.LaneAssignment
