import Crossbar.Matrix
import Crossbar.Proofs.Index
import Crossbar.Proofs.LaneSet
import Mathlib

/-!
# Routes through the matrix

A matrix laid out from routes holds, on every lane, the first route of the lane
if it is weighted.  For routes on distinct lanes, reading the matrix gives the
weighted routes sorted by lane.
-/

namespace Crossbar

/-- Whether a route has a coefficient other than zero. -/
def Route.isWeighted (route : Route) : Bool := route.coefficient != 0.0

/-- The weighted routes in ascending order of their lanes. -/
def Route.weightedByLane (routes : List Route) : List Route :=
  (routes.filter isWeighted).mergeSort fun first second => first.lane ≤ second.lane

namespace Matrix

variable {matrix : Matrix} {route : Route} {routes : List Route} {lane : Lane} {taken : LaneSet}

/-! ## One lane -/

/-- What the matrix lists for a lane: its input, its coefficient and its output. -/
def entry (matrix : Matrix) (lane : Lane) : Option CrossLane × Float × Option CrossLane :=
  (matrix.inputs.get lane, matrix.coefficients.get lane, matrix.outputs.get lane)

/-- The entry of a lane that nothing was laid out on. -/
def unused : Option CrossLane × Float × Option CrossLane := (none, 0.0, none)

/-- The entry that lays a route out on its lane. -/
def entryOf (route : Route) : Option CrossLane × Float × Option CrossLane :=
  (some route.input, route.coefficient, route.output)

theorem entry_empty (lane : Lane) : empty.entry lane = unused := by
  simp [entry, Vector.get_eq_getElem, empty, unused]

theorem entry_place_self (matrix : Matrix) (route : Route) :
    (matrix.place route).entry route.lane = entryOf route := by
  simp [entry, Vector.get_eq_getElem, place, entryOf]

theorem entry_place_of_ne (other : route.lane ≠ lane) :
    (matrix.place route).entry lane = matrix.entry lane := by
  have places : route.lane.val ≠ lane.val := fun same => other (Fin.ext same)
  simp [entry, Vector.get_eq_getElem, place, places]

/-- The route on a lane is read from the entry of the lane. -/
theorem route?_eq_of_entry {input : Option CrossLane} {coefficient : Float}
    {output : Option CrossLane} (listed : matrix.entry lane = (input, coefficient, output)) :
    matrix.route? lane =
      if coefficient == 0.0 then none
      else input.map fun input => ⟨lane, input, coefficient, output⟩ := by
  cases listed
  rfl

/-! ## All lanes -/

/-- On a lane that is not taken yet, the first route of the lane is laid out. -/
theorem entry_foldl_leaders (matrix : Matrix) (taken : LaneSet) (routes : List Route)
    (lane : Lane) :
    ((leaders taken routes).foldl place matrix).entry lane =
      if lane ∈ taken then matrix.entry lane
      else (routes.find? fun route => route.lane = lane).elim (matrix.entry lane) entryOf := by
  induction routes generalizing matrix taken with
  | nil =>
      simp [leaders]
  | cons route rest inductionHypothesis =>
      by_cases late : route.lane ∈ taken
      · rw [leaders, if_pos late, inductionHypothesis]
        by_cases here : lane ∈ taken
        · rw [if_pos here, if_pos here]
        · have other : route.lane ≠ lane := fun same => here (same ▸ late)
          rw [if_neg here, if_neg here, List.find?_cons_of_neg (by simpa using other)]
      · rw [leaders, if_neg late, List.foldl_cons, inductionHypothesis]
        by_cases same : route.lane = lane
        · subst same
          have nowTaken : route.lane ∈ taken.insert route.lane :=
            LaneSet.mem_insert.mpr (Or.inl rfl)
          rw [if_pos nowTaken, if_neg late, List.find?_cons_of_pos (by simp),
            entry_place_self, Option.elim_some]
        · have sameTaken : lane ∈ taken.insert route.lane ↔ lane ∈ taken := by
            rw [LaneSet.mem_insert, or_iff_right (Ne.symm same)]
          rw [entry_place_of_ne same, List.find?_cons_of_neg (by simpa using same)]
          simp only [sameTaken]

/-- A matrix laid out from routes lists the first route of every lane. -/
theorem entry_ofRoutes (routes : List Route) (lane : Lane) :
    (ofRoutes routes).entry lane =
      (routes.find? fun route => route.lane = lane).elim unused entryOf := by
  rw [ofRoutes, entry_foldl_leaders, if_neg LaneSet.not_mem_empty, entry_empty]

/-- A matrix laid out from routes holds the first route of every lane, if it is
weighted. -/
theorem route?_ofRoutes (routes : List Route) (lane : Lane) :
    (ofRoutes routes).route? lane =
      (routes.find? fun route => route.lane = lane).filter Route.isWeighted := by
  have listed := entry_ofRoutes routes lane
  cases first : routes.find? fun route => route.lane = lane with
  | none =>
      rw [first] at listed
      rw [route?_eq_of_entry listed]
      rfl
  | some route =>
      have onLane : route.lane = lane := by
        simpa using List.find?_some first
      rw [first] at listed
      rw [route?_eq_of_entry listed, ← onLane, Option.filter_some, Route.isWeighted, bne]
      cases route.coefficient == 0.0 <;> rfl

/-- A route read from a matrix is on the lane it was read from. -/
theorem lane_of_route? (found : matrix.route? lane = some route) : route.lane = lane := by
  unfold route? at found
  split at found
  · cases found
  · obtain ⟨input, _, rfl⟩ := Option.map_eq_some_iff.mp found
    rfl

/-- Routes are read in ascending order of their lanes. -/
theorem pairwise_routes (matrix : Matrix) :
    matrix.routes.Pairwise fun first second => first.lane < second.lane := by
  have ascending : Lane.all.Pairwise (· < ·) := List.pairwise_lt_finRange 32
  rw [routes, List.pairwise_filterMap]
  refine ascending.imp ?_
  intro first second before firstRoute firstFound secondRoute secondFound
  rw [lane_of_route? firstFound, lane_of_route? secondFound]
  exact before

theorem nodup_lanes_routes (matrix : Matrix) : (matrix.routes.map Route.lane).Nodup := by
  rw [List.nodup_iff_pairwise_ne, List.pairwise_map]
  exact (pairwise_routes matrix).imp fun before => before.ne

theorem mem_routes : route ∈ matrix.routes ↔ matrix.route? route.lane = some route := by
  rw [routes, List.mem_filterMap]
  constructor
  · rintro ⟨lane, _, found⟩
    rwa [lane_of_route? found]
  · intro found
    exact ⟨route.lane, List.mem_finRange _, found⟩

/-! ## Routes on distinct lanes -/

/-- The matrix holds exactly the weighted routes. -/
theorem mem_routes_ofRoutes (distinct : (routes.map Route.lane).Nodup) :
    route ∈ (ofRoutes routes).routes ↔ route ∈ routes ∧ route.isWeighted = true := by
  rw [mem_routes, route?_ofRoutes, Option.filter_eq_some_iff]
  refine and_congr_left fun _ => ?_
  constructor
  · exact List.mem_of_find?_eq_some
  · exact find?_of_nodup distinct

theorem routes_ofRoutes_perm (distinct : (routes.map Route.lane).Nodup) :
    (ofRoutes routes).routes.Perm (routes.filter Route.isWeighted) := by
  have readDistinct := (nodup_lanes_routes (ofRoutes routes)).of_map Route.lane
  have keptDistinct := (distinct.of_map Route.lane).filter Route.isWeighted
  rw [List.perm_ext_iff_of_nodup readDistinct keptDistinct]
  intro route
  rw [mem_routes_ofRoutes distinct, List.mem_filter]

end Matrix

/-! ## Sorting by lane -/

namespace Route

variable {first second : List Route}

theorem mem_weightedByLane {route : Route} {routes : List Route} :
    route ∈ weightedByLane routes ↔ route ∈ routes ∧ route.isWeighted = true := by
  rw [weightedByLane, List.mem_mergeSort, List.mem_filter]

theorem weightedByLane_perm (routes : List Route) :
    (weightedByLane routes).Perm (routes.filter isWeighted) :=
  List.mergeSort_perm _ _

theorem pairwise_weightedByLane (routes : List Route) :
    (weightedByLane routes).Pairwise fun first second => first.lane ≤ second.lane := by
  have sorted : (weightedByLane routes).Pairwise fun first second =>
      decide (first.lane ≤ second.lane) = true := by
    apply List.pairwise_mergeSort
    · intro first second third
      simpa using le_trans
    · intro first second
      simpa using le_total first.lane second.lane
  exact sorted.imp of_decide_eq_true

/-- Ascending routes on distinct lanes are determined by which routes they are. -/
theorem eq_of_perm_of_ascending (reordered : first.Perm second)
    (distinct : (second.map lane).Nodup)
    (firstAscending : first.Pairwise fun before after => before.lane ≤ after.lane)
    (secondAscending : second.Pairwise fun before after => before.lane ≤ after.lane) :
    first = second := by
  refine reordered.eq_of_pairwise ?_ firstAscending secondAscending
  intro left right leftMember rightMember below above
  have leftInSecond := reordered.mem_iff.mp leftMember
  exact List.inj_on_of_nodup_map distinct leftInSecond rightMember (le_antisymm below above)

/-- Sorting weighted routes on distinct lanes forgets how they were ordered. -/
theorem weightedByLane_eq_of_perm (reordered : first.Perm second)
    (distinct : (second.map lane).Nodup) : weightedByLane first = weightedByLane second := by
  have sameWeighted : (weightedByLane first).Perm (weightedByLane second) :=
    ((weightedByLane_perm first).trans (reordered.filter isWeighted)).trans
      (weightedByLane_perm second).symm
  have sortedDistinct : ((weightedByLane second).map lane).Nodup := by
    refine ((weightedByLane_perm second).map lane).nodup_iff.mpr ?_
    exact distinct.sublist (List.filter_sublist.map lane)
  exact eq_of_perm_of_ascending sameWeighted sortedDistinct (pairwise_weightedByLane first)
    (pairwise_weightedByLane second)

/-- Sorting again changes nothing. -/
theorem weightedByLane_idem {routes : List Route}
    (distinct : ((weightedByLane routes).map lane).Nodup) :
    weightedByLane (weightedByLane routes) = weightedByLane routes := by
  have allWeighted : (weightedByLane routes).filter isWeighted = weightedByLane routes := by
    rw [List.filter_eq_self]
    intro route member
    exact (mem_weightedByLane.mp member).2
  have reordered := weightedByLane_perm (weightedByLane routes)
  rw [allWeighted] at reordered
  exact eq_of_perm_of_ascending reordered distinct (pairwise_weightedByLane _)
    (pairwise_weightedByLane routes)

end Route

/-- Reading the matrix sorts the weighted routes by lane. -/
theorem Matrix.routes_ofRoutes {routes : List Route} (distinct : (routes.map Route.lane).Nodup) :
    (Matrix.ofRoutes routes).routes = Route.weightedByLane routes := by
  have reordered : (Matrix.ofRoutes routes).routes.Perm (Route.weightedByLane routes) :=
    (Matrix.routes_ofRoutes_perm distinct).trans (Route.weightedByLane_perm routes).symm
  have sortedDistinct : ((Route.weightedByLane routes).map Route.lane).Nodup :=
    (reordered.map Route.lane).nodup_iff.mp (Matrix.nodup_lanes_routes _)
  have ascending := (Matrix.pairwise_routes (Matrix.ofRoutes routes)).imp fun before =>
    le_of_lt before
  exact Route.eq_of_perm_of_ascending reordered sortedDistinct ascending
    (Route.pairwise_weightedByLane routes)

end Crossbar
