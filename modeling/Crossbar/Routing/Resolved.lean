import Crossbar.Event
import Crossbar.LaneSet
import Crossbar.Routing.Link

/-!
# Resolved connections

Potentiometers are taken out by joining the halves that meet at them.  Every
half that leaves a potentiometer takes its source from the first half that
feeds it, wherever in the circuit that one stands, so one source may fan out to
several targets.  The feeding half is used up by that.  A half that finds no
partner is unconnected, and so is a second half that feeds the same
potentiometer.
-/

namespace Crossbar

/-- A connection from a source to a target that are no potentiometers, with the
lane and the coefficient of the potentiometer it went through. -/
structure Resolved where
  wire : Wire
  coefficient : Option Float
  lane : Option Lane
  deriving BEq, Repr

namespace Resolved

/-- Whether either end is a virtual element. -/
def isVirtual (resolved : Resolved) : Bool :=
  resolved.wire.source.kind.isVirtual || resolved.wire.target.kind.isVirtual

/-- The coefficient to set, 1 unless a potentiometer gives one. -/
def weight (resolved : Resolved) : Float := resolved.coefficient.getD 1.0

def unconnected (link : Link) (lane : Lane) : RoutingError :=
  ⟨.unconnectedPotentiometer, .onLane link.wire (some lane)⟩

/-- Resolves links one after another.  `links` are all links of the circuit, and
`fed` the lanes whose potentiometer an earlier link feeds. -/
def ofLinks (links : List Link) (fed : LaneSet) :
    List Link → List (Except RoutingError Resolved)
  | [] => []
  | link :: rest =>
    match link.role with
    | .direct => .ok ⟨link.wire, none, none⟩ :: ofLinks links fed rest
    | .leaves lane coefficient =>
      let result := match links.find? (Link.feedsLane lane) with
        | some feeding =>
          .ok ⟨⟨feeding.wire.source, link.wire.target⟩,
            coefficient <|> feeding.coefficient?, some lane⟩
        | none => .error (unconnected link lane)
      result :: ofLinks links fed rest
    | .feeds lane _ =>
      let later := ofLinks links (fed.insert lane) rest
      if lane ∈ fed || !links.any (Link.leavesLane lane) then
        .error (unconnected link lane) :: later
      else later

/-- Resolves a circuit.  What cannot be routed on its own is recorded first, then
the halves without a partner. -/
def ofConnections (connections : List Connection) : Traced (List Resolved) := do
  let links ← Traced.collectAll (connections.map Link.ofConnection)
  Traced.collectAll (ofLinks links ∅ links)

end Resolved

end Crossbar
