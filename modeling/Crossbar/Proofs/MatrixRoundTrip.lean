import Crossbar.Proofs.Matrix

/-!
# The matrix and its routes

Laying out the routes that were read from a matrix gives the matrix with its
unused lanes cleared.  Reading the matrix that routes were laid out on gives the
first route of every lane, unless its coefficient is zero; a zero is a zero of
either sign, and what is no number is no zero.
-/

namespace Crossbar

/-! ## Zero coefficients -/

/-- A coefficient equals zero when it is one of the two zeros. -/
theorem beq_zero_iff {coefficient : Float} :
    (coefficient == 0.0) = true ↔ coefficient = 0.0 ∨ coefficient = -0.0 := by
  have zeros : (0 : Float) = 0.0 ∧ (0.0 : Float) ≠ -0.0 ∧ (0.0 : Float) ≠ Float.nan ∧
      (-0.0 : Float) ≠ Float.nan := by
    simp only [← Float.toBits_inj, ne_eq]
    decide
  rw [Float.beq_iff_ne_nan_and_eq]
  obtain ⟨zero, signed, positive, negative⟩ := zeros
  rw [zero]
  constructor
  · rintro ⟨_, _, same | ⟨same, _⟩ | ⟨same, _⟩⟩
    · exact Or.inl same
    · exact Or.inl same
    · exact Or.inr same
  · rintro (rfl | rfl)
    · exact ⟨positive, positive, Or.inl rfl⟩
    · exact ⟨negative, positive, Or.inr (Or.inr ⟨rfl, rfl⟩)⟩

theorem Route.isWeighted_iff {route : Route} :
    route.isWeighted = true ↔ route.coefficient ≠ 0.0 ∧ route.coefficient ≠ -0.0 := by
  rw [isWeighted, bne, Bool.not_eq_true', ← Bool.not_eq_true, beq_zero_iff, not_or]

namespace Matrix

variable {matrix first second : Matrix} {lane : Lane}

/-! ## Entries -/

/-- A matrix is what it lists for its lanes. -/
theorem eq_of_entry (same : ∀ lane, first.entry lane = second.entry lane) : first = second := by
  obtain ⟨firstInputs, firstCoefficients, firstOutputs⟩ := first
  obtain ⟨secondInputs, secondCoefficients, secondOutputs⟩ := second
  simp only [entry, Vector.get_eq_getElem, Prod.mk.injEq] at same
  have inputs : firstInputs = secondInputs :=
    Vector.ext fun place inRange => (same ⟨place, inRange⟩).1
  have coefficients : firstCoefficients = secondCoefficients :=
    Vector.ext fun place inRange => (same ⟨place, inRange⟩).2.1
  have outputs : firstOutputs = secondOutputs :=
    Vector.ext fun place inRange => (same ⟨place, inRange⟩).2.2
  rw [inputs, coefficients, outputs]

theorem entry_masked (matrix : Matrix) (lane : Lane) :
    matrix.masked.entry lane = if matrix.carries lane then matrix.entry lane else unused := by
  simp only [entry, Vector.get_eq_getElem, masked, Fin.getElem_fin, Vector.getElem_ofFn, Fin.eta]
  split <;> rfl

/-- A lane that carries a route has the entry of the route, and no other lane has
a route. -/
theorem elim_route? (matrix : Matrix) (lane : Lane) :
    (matrix.route? lane).elim unused entryOf =
      if matrix.carries lane then matrix.entry lane else unused := by
  rw [route?, carries, bne]
  cases zero : matrix.coefficients[lane] == 0.0 with
  | true => rfl
  | false =>
      cases fed : matrix.inputs[lane] with
      | none => rfl
      | some input =>
          have listed : matrix.inputs.get lane = some input := fed
          rw [entry, listed]
          rfl

theorem find?_routes (matrix : Matrix) (lane : Lane) :
    matrix.routes.find? (fun route => route.lane = lane) = matrix.route? lane := by
  cases found : matrix.route? lane with
  | some route =>
      have onLane := lane_of_route? found
      have member : route ∈ matrix.routes := by
        rw [mem_routes, onLane]
        exact found
      rw [← onLane]
      exact find?_of_nodup (nodup_lanes_routes matrix) member
  | none =>
      rw [List.find?_eq_none]
      intro route member onLane
      have read := mem_routes.mp member
      rw [of_decide_eq_true onLane, found] at read
      cases read

/-! ## There and back -/

theorem ofRoutes_routes (matrix : Matrix) : ofRoutes matrix.routes = matrix.masked := by
  apply eq_of_entry
  intro lane
  rw [entry_ofRoutes, find?_routes, elim_route?, entry_masked]

theorem routes_ofRoutes_eq (routes : List Route) :
    (ofRoutes routes).routes = Lane.all.filterMap fun lane =>
      (routes.find? fun route => route.lane = lane).filter Route.isWeighted := by
  rw [Matrix.routes]
  exact List.filterMap_congr fun lane _ => route?_ofRoutes routes lane

/-- The matrix and its routes determine each other, up to unused lanes and routes
that come too late for their lane or have a zero coefficient. -/
theorem scatter_gather (matrix : Matrix) (routes : List Route) :
    (scatter (gather matrix).value).value = matrix.masked ∧
      (gather (scatter routes).value).value = (Lane.all.filterMap fun lane =>
        (routes.find? fun route => route.lane = lane).filter Route.isWeighted) ∧
      ((routes.map Route.lane).Nodup →
        (gather (scatter routes).value).value = Route.weightedByLane routes) ∧
      ∀ route : Route, route.isWeighted = true ↔
        route.coefficient ≠ 0.0 ∧ route.coefficient ≠ -0.0 :=
  ⟨ofRoutes_routes matrix, routes_ofRoutes_eq routes, Matrix.routes_ofRoutes,
    fun _ => Route.isWeighted_iff⟩

/-- A route whose coefficient is no number, one with a negative zero and a tap. -/
def crossedRoutes : List Route :=
  let onLane (lane input : Nat) (coefficient : Float) (output : Option Nat) : Option Route := do
    return ⟨← Lane.ofNat? lane, ← CrossLane.ofNat? input, coefficient,
      output.bind CrossLane.ofNat?⟩
  [onLane 5 8 (0.0 / 0.0) (some 2), onLane 0 9 (-0.0) (some 3),
    onLane 3 1 (-1.0) none].reduceOption

/-- Only the negative zero is lost, and the others come by lane. -/
theorem scatter_gather_crossedRoutes :
    (crossedRoutes.map Route.lane).Nodup ∧
      (gather (scatter crossedRoutes).value).value = Route.weightedByLane crossedRoutes ∧
      (gather (scatter crossedRoutes).value).value.map Route.lane = [3, 5] := by
  have distinct : (crossedRoutes.map Route.lane).Nodup := by decide
  exact ⟨distinct, (scatter_gather empty crossedRoutes).2.2.1 distinct, by decide +kernel⟩

end Matrix

end Crossbar
