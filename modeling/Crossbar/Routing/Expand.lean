import Crossbar.Routing.Placement

/-!
# Expanding a routing

Every route becomes two connections through the potentiometer of its lane, which
carries the coefficient: from the source into the potentiometer and from there
to the target.  No potentiometer is shared, so a source with several targets
shows as several potentiometers.
-/

namespace Crossbar.Expansion

/-- The sink that listens to a lane: the first eight lanes belong to converter
channels and the next eight to external outputs. -/
def listener? (lane : Lane) : Option Port :=
  if lane.val < channelCount then some (.converter lane.val.toUInt32)
  else if lane.val < 2 * channelCount then
    some (.externalOutput (lane.val - channelCount).toUInt32)
  else none

/-- Where a route ends. -/
def target? (layout : Layout) (route : Route) : Option Port :=
  match route.output with
  | some output => some (layout.portAt output .sink)
  | none => listener? route.lane

/-- Where a route starts: at the external input or the constant that its
cross-lane carries, and else at the element wired to it.  Constants on the
reference are numbered in order. -/
def source (layout : Layout) (switches : AuxSwitches) (route : Route) (constants : Nat) : Port :=
  match switches.activeInput? route.input with
  | some channel => .externalInput channel.val.toUInt32
  | none =>
    if switches.carriesReference route.input then .constant constants.toUInt32
    else layout.portAt route.input .source

/-- Whether a route starts at a numbered constant. -/
def startsAtReference (switches : AuxSwitches) (route : Route) : Bool :=
  (switches.activeInput? route.input).isNone && switches.carriesReference route.input

/-- The two connections of a route. -/
def halves (route : Route) (source target : Port) : List Connection :=
  let lane := route.lane.val.toUInt32
  let state := some (State.potentiometer route.coefficient)
  [⟨.bare source, ⟨.potentiometer lane .sink, state⟩⟩,
    ⟨⟨.potentiometer lane .source, state⟩, .bare target⟩]

/-- Expands routes one after another; `constants` were numbered before. -/
def ofRoutes (layout : Layout) (switches : AuxSwitches) (constants : Nat) :
    List Route → Traced (List Connection)
  | [] => .of []
  | route :: rest =>
    match target? layout route with
    | none => do
      Traced.emit (.tapUnheard route)
      ofRoutes layout switches constants rest
    | some target => do
      let next := if startsAtReference switches route then constants + 1 else constants
      let later ← ofRoutes layout switches next rest
      return halves route (source layout switches route constants) target ++ later

/-- Whether a route is expanded. -/
def isHeard (layout : Layout) (route : Route) : Bool := (target? layout route).isSome

end Expansion

/-- Expands routes into the connections of a circuit. -/
def expand (layout : Layout) (switches : AuxSwitches) (routes : List Route) :
    Traced (List Connection) := do
  let connections ← Expansion.ofRoutes layout switches 0 routes
  let constants := routes.countP fun route =>
    Expansion.isHeard layout route && Expansion.startsAtReference switches route
  Traced.emit (.expanded routes.length connections.length constants)
  return connections

end Crossbar
