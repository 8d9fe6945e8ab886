import Crossbar.Encoding.Diagnostic
import Crossbar.Proofs.LaneSet
import Crossbar.Proofs.Layout
import Crossbar.Proofs.Link
import Crossbar.Proofs.Trace
import Crossbar.Session
import Crossbar.Proofs.Resolved
import Crossbar.Proofs.Placement
import Crossbar.Proofs.LaneAssignment
import Crossbar.Proofs.LanePasses
import Crossbar.Proofs.Stages
import Crossbar.Proofs.Compile
import Crossbar.Proofs.Expand
import Crossbar.Proofs.Reconstruction
import Crossbar.Proofs.Strand
import Crossbar.Proofs.StrandCompile
import Crossbar.Proofs.Recompile
import Crossbar.Proofs.Matrix
import Crossbar.Proofs.LaneGroup
import Crossbar.Proofs.Payload
import Crossbar.Proofs.Load
import Crossbar.Proofs.Pipeline
import Crossbar.Proofs.Fate
import Crossbar.Proofs.Resolution
import Crossbar.Proofs.Conservation
import Crossbar.Proofs.Omission
import Crossbar.Proofs.Reordering
import Crossbar.Proofs.MatrixRoundTrip
import Crossbar.Proofs.LaneGroupRoundTrip
import Crossbar.Proofs.Json.Numeral
import Crossbar.Proofs.Json.Quotation
import Crossbar.Proofs.Json.Writable
import Crossbar.Proofs.Json.Text
import Crossbar.Proofs.Json.Decode
import Crossbar.Proofs.Encoding.Cluster
import Crossbar.Proofs.Encoding.Payload
import Crossbar.Proofs.Encoding.CircuitFile
import Crossbar.Proofs.Pairing
import Crossbar.Proofs.FirstFit
import Crossbar.Proofs.Fault
import Crossbar.Proofs.SinkLanes
import Crossbar.Proofs.LaneClaims
import Crossbar.Proofs.LanePrecedence
import Crossbar.Proofs.Ambiguity
import Crossbar.Proofs.Injection
import Crossbar.Proofs.LoadedLanes
import Crossbar.Proofs.ExpandedRoutes
import Crossbar.Proofs.WeighedTaps
import Crossbar.Proofs.Representable
import Crossbar.Proofs.Identifier
import Crossbar.Proofs.Capacity
import Crossbar.Proofs.SinkHistory
import Crossbar.Proofs.CollectedStates
import Crossbar.Proofs.ZeroSigns
import Crossbar.Proofs.StateIndependence
import Crossbar.Proofs.Hardware
import Crossbar.Proofs.LaneHistory
