import Crossbar.Route
import Crossbar.RoutingError

/-!
# Events

Work on a circuit leaves a trail of events, in the order in which things
happened: what was rejected, moved or dropped, and how much each step handled.
A result together with its trail is `Traced`.  The errors of a routing are the
rejections of its trail.
-/

namespace Crossbar

inductive Level where
  | trace
  | debug
  | warn
  deriving DecidableEq, Repr

def Level.name : Level → String
  | .trace => "TRACE"
  | .debug => "DEBUG"
  | .warn => "WARN"

inductive Event where
  | rejected (error : RoutingError)
  /-- A route was moved to another lane. -/
  | reassigned (group : Group) (previous : Option Lane) (lane : Lane) (wire : Wire)
  | resolved (connections pinned flexible : Nat)
  | pinnedSettled (lanes : Nat)
  | routingComplete (routes errors : Nat)
  /-- A route came too late for its lane. -/
  | laneOccupied (route : Route)
  /-- A lane has a coefficient and nothing to weigh. -/
  | laneUnfed (lane : Lane) (coefficient : Float)
  | claimDropped (conflict : Conflict)
  | payloadDecoded (lanes conflicts : Nat)
  /-- A route taps a lane that nothing listens to. -/
  | tapUnheard (route : Route)
  | expanded (routes connections constants : Nat)
  | loaded (shape : String) (routes errors : Nat)
  deriving BEq, Repr

namespace Event

def level : Event → Level
  | .rejected _ | .reassigned _ _ _ _ => .trace
  | .laneOccupied _ | .laneUnfed _ _ | .claimDropped _ | .tapUnheard _ => .warn
  | _ => .debug

def message : Event → String
  | .rejected error => error.message
  | .reassigned .pinned _ _ _ => "reassigned pinned lane"
  | .reassigned .flexible _ _ _ => "reassigned flexible lane"
  | .resolved _ _ _ => "resolved potentiometers"
  | .pinnedSettled _ => "pinned virtual routes"
  | .routingComplete _ _ => "routing complete"
  | .laneOccupied _ => "lane already occupied, dropping route"
  | .laneUnfed _ _ => "lane has a coefficient but no input cross-lane"
  | .claimDropped _ => "dropping double allocation"
  | .payloadDecoded _ _ => "decoded output-centric config"
  | .tapUnheard _ => "route without output cross-lane on a lane no sink listens to"
  | .expanded _ _ _ => "expanded routing"
  | .loaded _ _ _ => "loaded circuit"

/-- The lane a route asked for before it was moved. -/
def previousText : Option Lane → String
  | none => "None"
  | some lane => s!"Some(Lane({lane.val}))"

/-- The details of an event, by name. -/
def fields : Event → List (String × String)
  | .rejected error => [("code", error.code.text), ("subject", error.subject.text)]
  | .reassigned _ previous lane wire =>
    [("from", previousText previous), ("to", toString lane.val), ("connection", wire.text)]
  | .resolved connections pinned flexible =>
    [("connections", toString connections), ("pinned", toString pinned),
      ("flexible", toString flexible)]
  | .pinnedSettled lanes => [("lanes", toString lanes)]
  | .routingComplete routes errors =>
    [("routes", toString routes), ("errors", toString errors)]
  | .laneOccupied route => [("lane", toString route.lane.val), ("route", route.text)]
  | .laneUnfed lane coefficient =>
    [("lane", toString lane.val), ("cval", Decimal.Form.field.write coefficient)]
  | .claimDropped conflict => [("conflict", conflict.message)]
  | .payloadDecoded lanes conflicts =>
    [("lanes", toString lanes), ("conflicts", toString conflicts)]
  | .tapUnheard route => [("route", route.text)]
  | .expanded routes connections constants =>
    [("routes", toString routes), ("connections", toString connections),
      ("constants", toString constants)]
  | .loaded shape routes errors =>
    [("shape", shape), ("routes", toString routes), ("errors", toString errors)]

/-- The error of a rejection. -/
def rejection? : Event → Option RoutingError
  | .rejected error => some error
  | _ => none

end Event

/-- The routing errors of a trail, in order. -/
def rejections (events : List Event) : List RoutingError :=
  events.filterMap Event.rejection?

/-! ## Results with their trail -/

/-- A result together with the events of the work that produced it. -/
structure Traced (α : Type) where
  value : α
  events : List Event

namespace Traced

/-- A result without events. -/
def of {α : Type} (value : α) : Traced α := ⟨value, []⟩

def emit (event : Event) : Traced Unit := ⟨(), [event]⟩

def bind {α β : Type} (first : Traced α) (next : α → Traced β) : Traced β :=
  let second := next first.value
  ⟨second.value, first.events ++ second.events⟩

instance : Monad Traced where
  pure := of
  bind := bind

/-- The routing errors met on the way. -/
def errors {α : Type} (traced : Traced α) : List RoutingError := rejections traced.events

/-- Passes a success on and records a failure. -/
def collect {α : Type} : Except RoutingError α → Traced (Option α)
  | .ok value => of (some value)
  | .error error => ⟨none, [.rejected error]⟩

/-- Keeps the successes of a list in order and records its failures in order. -/
def collectAll {α : Type} (results : List (Except RoutingError α)) : Traced (List α) :=
  ⟨results.filterMap fun result => result.toOption,
    results.filterMap fun
      | .ok _ => none
      | .error error => some (.rejected error)⟩

end Traced

end Crossbar
