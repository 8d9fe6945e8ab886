import Crossbar.AuxSwitches
import Crossbar.Integrator
import Crossbar.Matrix

/-!
# The configuration of a cluster

Everything that is set on one cluster: the switching matrix, the states of the
integrators and the auxiliary signals.
-/

namespace Crossbar

structure Cluster where
  matrix : Matrix
  integrators : IntegratorBank
  switches : AuxSwitches
  deriving BEq, Repr

/-- No lane in use, the integrators reset and all signals off. -/
def Cluster.empty : Cluster := ⟨.empty, .reset, .off⟩

instance : Inhabited Cluster := ⟨.empty⟩

end Crossbar
