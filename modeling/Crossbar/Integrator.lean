import Crossbar.Connection

/-!
# Integrator states

An integrator starts from an initial value and runs at a time scale.  A time
scale that is not given is left to the block.
-/

namespace Crossbar

structure IntegratorState where
  initial : Float
  timeScale : Option UInt32
  deriving BEq, Repr

/-- The time scale integrators start with. -/
def defaultTimeScale : UInt32 := 1000

/-- The state after a reset. -/
def IntegratorState.reset : IntegratorState := ⟨0.0, some defaultTimeScale⟩

/-- The states of one integrator block. -/
abbrev IntegratorBank := Vector IntegratorState 8

namespace IntegratorBank

/-- The bank after a reset. -/
def reset : IntegratorBank := Vector.replicate 8 .reset

/-- Writes the state found at the end of a connection into the bank.  A time
scale that the state leaves open is that of the default. -/
def record (defaults bank : IntegratorBank) (endpoint : Endpoint) : IntegratorBank :=
  match endpoint.port.kind, endpoint.state with
  | .integrator, some (.integrator initial timeScale) =>
    let number := endpoint.port.number.toNat
    if onBank : number < 8 then
      bank.set number ⟨initial, timeScale <|> defaults[number].timeScale⟩
    else bank
  | _, _ => bank

/-- The ends of connections in order, the source of each before its target. -/
def endpoints (connections : List Connection) : List Endpoint :=
  connections.flatMap fun connection => [connection.source, connection.target]

/-- The states that a circuit sets, over defaults for those it does not. -/
def collect (connections : List Connection) (defaults : IntegratorBank) : IntegratorBank :=
  (endpoints connections).foldl (record defaults) defaults

end IntegratorBank

end Crossbar
