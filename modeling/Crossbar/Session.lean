import Crossbar.Encoding.CircuitFile
import Crossbar.Encoding.Settings
import Crossbar.Routing.Compile
import Crossbar.Routing.Load

/-!
# Sessions

A session edits one circuit: it draws and removes connections, routes them,
encodes the result for the device, and stores and loads it.  A step that fails
changes nothing but the collected diagnostics.
-/

namespace Crossbar

structure Session where
  graph : List Connection
  routing : Routing
  cluster : Cluster
  /-- The payload encoded last. -/
  payload : Option Payload
  /-- The text of the file stored last. -/
  saved : String
  hardware : Hardware
  sink : Sink

namespace Session

/-- What a step needs and does not find. -/
inductive Missing where
  | connection
  | payload
  deriving DecidableEq, Repr

/-- Why a step fails. -/
inductive Failure where
  | settings (error : SettingsError)
  | element (error : ElementError)
  | routing (fault : RoutingFault)
  | unreadable (fault : Json.Fault)
  | missing (what : Missing)

/-- The hardware of the standard settings. -/
def standardHardware : Hardware :=
  ⟨.standard, Vector.replicate 8 ⟨0.0, some defaultTimeScale⟩, Settings.standard.cluster⟩

def start : Session :=
  ⟨[], .empty, .empty, none, "", standardHardware, .empty⟩

/-- A step: its result and the session after it, or why it fails. -/
abbrev Step (α : Type) := Session → Traced (Except Failure (α × Session))

/-- The diagnostic of a failure.  Faults of notation have none. -/
def Failure.diagnostic? : Failure → Option Diagnostic
  | .settings .malformed => none
  | .settings error => some error.diagnostic
  | .element error => some error.diagnostic
  | .routing fault => some fault.diagnostic
  | .unreadable _ | .missing _ => none

/-- Records a failure in the sink. -/
def recordFailure (session : Session) (failure : Failure) : Session :=
  match failure.diagnostic? with
  | some diagnostic => { session with sink := session.sink.emit diagnostic }
  | none => session

/-- Takes a step.  Where it fails the session stays and the failure is recorded. -/
def take {α : Type} (session : Session) (step : Step α) :
    Traced (Except Failure α × Session) := do
  match ← step session with
  | .ok (result, after) => return (.ok result, after)
  | .error failure => return (.error failure, session.recordFailure failure)

/-! ## Steps -/

/-- Replaces the hardware by that of a settings text. -/
def configure (text : String) : Step Hardware := fun session =>
  let outcome := Settings.parse text >>= Settings.resolve
  match outcome with
  | .error error => return .error (.settings error)
  | .ok hardware => return .ok (hardware, { session with hardware })

/-- Adds a connection as it is drawn and returns how many there are. -/
def connect (connection : Connection) : Step Nat := fun session =>
  let graph := session.graph ++ [connection]
  return .ok (graph.length, { session with graph })

/-- Adds a connection of a shape that can be routed. -/
def connectChecked (connection : Connection) : Step Nat := fun session =>
  match Connection.checked connection.source connection.target with
  | .error error => return .error (.element error)
  | .ok connection => connect connection session

/-- Removes a connection and returns it. -/
def disconnect (index : Nat) : Step Connection := fun session =>
  match session.graph[index]? with
  | none => return .error (.missing .connection)
  | some connection =>
    return .ok (connection, { session with graph := session.graph.eraseIdx index })

/-- Removes all connections. -/
def clear : Step Nat := fun session => return .ok (0, { session with graph := [] })

/-- Routes the circuit. -/
def route : Step Routing := fun session => do
  match ← compile session.hardware.layout session.graph with
  | .error fault => return .error (.routing fault)
  | .ok routing => return .ok (routing, { session with routing })

/-- Emits the errors of the routing. -/
def report : Step Sink := fun session =>
  let sink := session.routing.report session.sink
  return .ok (sink, { session with sink })

def render (style : Diagnostic.Style) : Step String := fun session =>
  return .ok (session.sink.render style, session)

/-- Takes the pending diagnostics out. -/
def drain : Step (List Diagnostic) := fun session =>
  let (pending, sink) := session.sink.drain
  return .ok (pending, { session with sink })

/-- The integrator states of the circuit over those of the hardware. -/
def integrators (session : Session) : IntegratorBank :=
  IntegratorBank.collect session.graph session.hardware.integrators

/-- Turns the routing into a cluster configuration. -/
def toCluster : Step Cluster := fun session => do
  let cluster ← session.routing.toCluster session.integrators
  return .ok (cluster, { session with cluster })

/-- Turns the cluster configuration into a routing. -/
def toRouting : Step Routing := fun session => do
  let routing ← Routing.ofCluster session.cluster
  return .ok (routing, { session with routing })

/-- Encodes the cluster configuration for the device. -/
def encode (entity : Json) : Step Payload := fun session =>
  let payload := Payload.ofCluster session.hardware.layout entity session.cluster
  return .ok (payload, { session with payload := some payload })

/-- Decodes the payload encoded last. -/
def decode : Step Cluster := fun session => do
  match session.payload with
  | none => return .error (.missing .payload)
  | some payload =>
    match ← payload.blocks.toCluster with
    | .error error => return .error (.routing (.codec error))
    | .ok cluster => return .ok (cluster, { session with cluster })

/-- Stores a file and returns its text. -/
def save (file : CircuitFile) : Step String := fun session =>
  let saved := file.write
  return .ok (saved, { session with saved })

/-- Stores the request that sends the payload to a device. -/
def saveRequest (device : String) : Step String := fun session =>
  match session.payload with
  | none => return .error (.missing .payload)
  | some payload =>
    let request := ConfigRequest.addressed device session.hardware.cluster payload
    save (.ofRequest request) session

def saveCluster : Step String := fun session =>
  save (.ofCluster session.cluster) session

/-- Stores the routes, with signals and integrator states if asked for. -/
def saveRoutes (title description : Option String) (withSwitches withIntegrators : Bool) :
    Step String := fun session =>
  let table : RouteTable :=
    ⟨title, description, session.routing.routes,
      if withSwitches then some session.routing.switches else none,
      if withIntegrators then some session.integrators else none⟩
  save (.ofTable table) session

/-- Loads a circuit from a text, or from the file stored last. -/
def load (text : Option String) : Step LoadedCircuit := fun session => do
  match CircuitFile.parse (text.getD session.saved) with
  | .error fault => return .error (.unreadable fault)
  | .ok file =>
    match ← file.load session.hardware.layout with
    | .error fault => return .error (.routing fault)
    | .ok circuit =>
      let hardware := { session.hardware with integrators := circuit.integrators }
      let after := { session with
        routing := circuit.routing, hardware, graph := circuit.connections }
      return .ok (circuit, after)

/-- Replaces the circuit by the expansion of the routing. -/
def expandRouting : Step (List Connection) := fun session => do
  let graph ← expand session.hardware.layout session.routing.switches session.routing.routes
  return .ok (graph, { session with graph })

end Session

end Crossbar
