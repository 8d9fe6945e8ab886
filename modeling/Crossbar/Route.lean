import Crossbar.Decimal.Text
import Crossbar.Index

/-!
# Routes

A route is one lane in use.  The signal comes from the cross-lane `input`, is
weighted by the coefficient of the lane and leaves on the cross-lane `output`.
A route without an output only taps the lane for a converter channel or an
external output.
-/

namespace Crossbar

structure Route where
  lane : Lane
  input : CrossLane
  coefficient : Float
  output : Option CrossLane
  deriving BEq, Repr

def Route.text (route : Route) : String :=
  let weight := Decimal.Form.message.write route.coefficient
  let target := match route.output with
    | some output => toString output.val
    | none => "(tap)"
  s!"[lane {route.lane.val}: {route.input.val} -> {weight} -> {target}]"

end Crossbar
