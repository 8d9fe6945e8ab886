import Crossbar.Connection
import Crossbar.Index
import Crossbar.RoutingError

/-!
# Links

A connection that can be routed is a link.  It either joins two elements
directly, or it is one half of a way through a potentiometer: the half that
feeds the potentiometer or the half that leaves it.
-/

namespace Crossbar

/-- The part a connection plays. -/
inductive Role where
  | direct
  /-- The wire ends at the potentiometer of a lane. -/
  | feeds (lane : Lane) (coefficient : Option Float)
  /-- The wire starts at the potentiometer of a lane. -/
  | leaves (lane : Lane) (coefficient : Option Float)
  deriving BEq, Repr

structure Link where
  wire : Wire
  role : Role
  deriving BEq, Repr

namespace Link

def feedsLane (lane : Lane) (link : Link) : Bool :=
  match link.role with
  | .feeds fed _ => fed == lane
  | _ => false

def leavesLane (lane : Lane) (link : Link) : Bool :=
  match link.role with
  | .leaves left _ => left == lane
  | _ => false

/-- The coefficient set at the potentiometer. -/
def coefficient? (link : Link) : Option Float :=
  match link.role with
  | .direct => none
  | .feeds _ coefficient | .leaves _ coefficient => coefficient

/-- Whether a coefficient is in range; nothing that is not a number is. -/
def inRange (coefficient : Float) : Bool :=
  -maxCoefficient ≤ coefficient && coefficient ≤ maxCoefficient

/-- Checks the lane and the coefficient of a potentiometer. -/
def checkPotentiometer (wire : Wire) (potentiometer : Endpoint) :
    Except RoutingError (Lane × Option Float) :=
  let number := potentiometer.port.number
  let fail (cause : Cause) := Except.error ⟨cause, .route wire (some number)⟩
  match Lane.ofNat? number.toNat, potentiometer.coefficient? with
  | none, _ => fail (.potentiometerOutOfRange number)
  | some lane, none => .ok (lane, none)
  | some lane, some coefficient =>
    if inRange coefficient then .ok (lane, some coefficient)
    else fail (.coefficientOutOfRange coefficient)

/-- The link a connection makes, if it can be routed. -/
def ofConnection (connection : Connection) : Except RoutingError Link :=
  let wire := connection.wire
  match wire.shapeFault? with
  | some fault => .error ⟨.illegalConnection fault, .connection wire⟩
  | none =>
    if wire.source.kind = .potentiometer then do
      let (lane, coefficient) ← checkPotentiometer wire connection.source
      return ⟨wire, .leaves lane coefficient⟩
    else if wire.target.kind = .potentiometer then do
      let (lane, coefficient) ← checkPotentiometer wire connection.target
      return ⟨wire, .feeds lane coefficient⟩
    else return ⟨wire, .direct⟩

end Link

end Crossbar
