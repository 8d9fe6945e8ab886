import Crossbar.Event
import Crossbar.LaneSet

/-!
# The switching matrix

The matrix lists for every lane the cross-lane that feeds it, its coefficient
and the cross-lane it feeds.  A lane with coefficient zero is unused.

Routes are laid out lane by lane.  Of several routes on one lane the first is
kept.  Reading the matrix back gives the routes of the used lanes in ascending
order.
-/

namespace Crossbar

/-- For every lane the cross-lane it feeds, or is fed by. -/
abbrev Switches := Vector (Option CrossLane) 32

structure Matrix where
  inputs : Switches
  coefficients : Vector Float 32
  outputs : Switches
  deriving BEq, Repr

namespace Matrix

/-- The matrix without any route. -/
def empty : Matrix :=
  ⟨Vector.replicate 32 none, Vector.replicate 32 0.0, Vector.replicate 32 none⟩

instance : Inhabited Matrix := ⟨empty⟩

/-- Whether no lane has a coefficient. -/
def isEmpty (matrix : Matrix) : Bool :=
  matrix.coefficients.all fun coefficient => coefficient == 0.0

/-- Whether a lane carries a route: it has a coefficient and an input. -/
def carries (matrix : Matrix) (lane : Lane) : Bool :=
  matrix.coefficients[lane] != 0.0 && matrix.inputs[lane].isSome

/-- The matrix with every lane cleared that carries no route. -/
def masked (matrix : Matrix) : Matrix where
  inputs := .ofFn fun lane : Lane => if matrix.carries lane then matrix.inputs[lane] else none
  coefficients := .ofFn fun lane : Lane =>
    if matrix.carries lane then matrix.coefficients[lane] else 0.0
  outputs := .ofFn fun lane : Lane =>
    if matrix.carries lane then matrix.outputs[lane] else none

/-! ## From routes -/

def place (matrix : Matrix) (route : Route) : Matrix where
  inputs := matrix.inputs.set route.lane.val (some route.input)
  coefficients := matrix.coefficients.set route.lane.val route.coefficient
  outputs := matrix.outputs.set route.lane.val route.output

/-- The first route of every lane that is not taken yet. -/
def leaders (taken : LaneSet) : List Route → List Route
  | [] => []
  | route :: rest =>
    if route.lane ∈ taken then leaders taken rest
    else route :: leaders (taken.insert route.lane) rest

/-- The routes that find their lane taken. -/
def latecomers (taken : LaneSet) : List Route → List Route
  | [] => []
  | route :: rest =>
    if route.lane ∈ taken then route :: latecomers taken rest
    else latecomers (taken.insert route.lane) rest

def ofRoutes (routes : List Route) : Matrix :=
  (leaders ∅ routes).foldl place empty

/-- Lays routes out and records those that come too late. -/
def scatter (routes : List Route) : Traced Matrix :=
  ⟨ofRoutes routes, (latecomers ∅ routes).map .laneOccupied⟩

/-! ## To routes -/

/-- The route on a lane, if the lane carries one. -/
def route? (matrix : Matrix) (lane : Lane) : Option Route :=
  if matrix.coefficients[lane] == 0.0 then none
  else matrix.inputs[lane].map fun input =>
    ⟨lane, input, matrix.coefficients[lane], matrix.outputs[lane]⟩

def routes (matrix : Matrix) : List Route :=
  Lane.all.filterMap matrix.route?

/-- The lanes with a coefficient and no input. -/
def unfed (matrix : Matrix) : List Lane :=
  Lane.all.filter fun lane =>
    matrix.coefficients[lane] != 0.0 && matrix.inputs[lane].isNone

/-- Reads the routes and records the lanes that cannot form one. -/
def gather (matrix : Matrix) : Traced (List Route) :=
  ⟨matrix.routes, matrix.unfed.map fun lane => .laneUnfed lane matrix.coefficients[lane]⟩

end Matrix

end Crossbar
