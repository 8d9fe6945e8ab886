import Crossbar.Encoding.CircuitFile
import Crossbar.Proofs.Encoding.Payload
import Crossbar.Proofs.Json.Text

/-!
# Circuit files read back

A circuit is stored without the name of its form.  The forms are told apart by
their members: only a table has routes, and of the other two only a cluster has
switches on its lanes.  So the form a circuit is stored in is the first that its
encoding can be read as, and the file is read back as it was.
-/

namespace Crossbar

variable {readable : Float → Prop} {room : Nat} {members : List (String × Json)}

/-! ## Tables -/

namespace RouteTable

/-- The doubles of a table. -/
def floats (table : RouteTable) : List Float :=
  table.routes.map Route.coefficient
    ++ (table.integrators.elim [] fun bank => bank.toList.map IntegratorState.initial)

theorem writable_encode_iff {table : RouteTable} :
    Json.Writable readable (room + 3) table.encode ↔ ∀ x ∈ table.floats, readable x := by
  cases integrators : table.integrators <;>
    simp [encode, floats, integrators, or_imp, forall_and]

theorem decode_encode (table : RouteTable) : RouteTable.decode table.encode = .ok table := by
  have routes := Json.decodeList_encode fun route (_ : route ∈ table.routes) =>
    Route.decode_encode route
  apply Json.decodeRecord_eq_ok 3 (writable_encode_iff.mpr fun _ _ => trivial)
  simp [routes]

/-- An object without routes is no table. -/
theorem decode_fails (writable : Json.Writable (fun _ => True) room (.object members))
    (noRoutes : Json.written "routes" members = []) :
    ∃ fault, RouteTable.decode (.object members) = .error fault := by
  apply Json.decodeRecord_eq_error room writable
  simp [noRoutes]

end RouteTable

/-- An object without switches on the lanes is no cluster. -/
theorem Cluster.decode_fails (writable : Json.Writable (fun _ => True) room (.object members))
    (noInputs : Json.written "u" members = []) :
    ∃ fault, Cluster.decode (.object members) = .error fault := by
  have noMatrix : ∃ fault, Matrix.decode (.object members) = .error fault := by
    unfold Matrix.decode
    apply Json.decodeRecord_eq_error room writable
    simp [noInputs]
  obtain ⟨fault, noMatrix⟩ := noMatrix
  refine ⟨fault, ?_⟩
  rw [Cluster.decode, if_pos writable.whole, noMatrix]
  rfl

/-! ## Files -/

namespace CircuitFile

/-- The doubles of a stored circuit: coefficients and initial values. -/
def floats : CircuitFile → List Float
  | .ofTable table => table.floats
  | .ofCluster cluster => cluster.floats
  | .ofRequest request => request.blocks.floats

theorem writable_encode {file : CircuitFile} (isReadable : ∀ x ∈ file.floats, readable x) :
    Json.Writable readable (room + 6) file.encode := by
  cases file with
  | ofTable table => exact RouteTable.writable_encode_iff.mpr isReadable
  | ofCluster cluster => exact Cluster.writable_encode_iff.mpr isReadable
  | ofRequest request => exact ConfigRequest.writable_encode_iff.mpr isReadable

/-- The form of a circuit is told from its encoding. -/
theorem decode_encode (file : CircuitFile) : CircuitFile.decode file.encode = .ok file := by
  have writable : Json.Writable (fun _ => True) 6 file.encode := writable_encode fun _ _ => trivial
  rw [decode, if_pos writable.whole]
  cases file with
  | ofTable table => rw [encode, RouteTable.decode_encode]
  | ofCluster cluster =>
      have noTable : ∃ fault, RouteTable.decode cluster.encode = .error fault :=
        RouteTable.decode_fails writable (by simp [Matrix.members])
      obtain ⟨fault, noTable⟩ := noTable
      rw [encode, noTable, Cluster.decode_encode]
  | ofRequest request =>
      have noTable : ∃ fault, RouteTable.decode request.encode = .error fault :=
        RouteTable.decode_fails writable (by simp)
      have noCluster : ∃ fault, Cluster.decode request.encode = .error fault :=
        Cluster.decode_fails writable (by simp)
      obtain ⟨first, noTable⟩ := noTable
      obtain ⟨second, noCluster⟩ := noCluster
      rw [encode, noTable, noCluster, ConfigRequest.decode_encode]

/-- A stored circuit is read back as it was: in the same form, with every member it
has and none that it has not.  The value it is encoded as is decoded to it whatever
its doubles are; the text it is written as is read to it if its doubles are finite
and finite doubles are read back from their notation. -/
theorem parse_write (file : CircuitFile) :
    CircuitFile.decode file.encode = .ok file ∧
      ((∀ x ∈ file.floats, x.isFinite = true) →
        (∀ x ∈ file.floats, x.isFinite = true → Json.ReadsBack x) →
        CircuitFile.parse file.write = .ok file) := by
  refine ⟨decode_encode file, fun finite readsBack => ?_⟩
  have writable : Json.Writable Json.ReadsBack (121 + 6) file.encode :=
    writable_encode fun x member => readsBack x member (finite x member)
  rw [parse, write, Json.decodeText_pretty CircuitFile.decode writable, decode_encode]

/-- A table with a quote, a line break and a letter beyond ASCII in its title, no
description, and routes with and without an output. -/
def titledTable : CircuitFile :=
  .ofTable ⟨some "R\u00f6ssler \"a = 0.2\"\n", none,
    [Route.ofNumbers? 3 5 (-0.25) (some 7), Route.ofNumbers? 0 15 10.0 none].filterMap id,
    some .off, some (.replicate 8 ⟨0.1, none⟩)⟩

/-- A request with a slot of which nothing is said and every shorthand for lanes. -/
def groupedRequest : CircuitFile :=
  .ofRequest ⟨["04-E9-E5", "0"],
    ⟨none, some [⟨-1.0, some 100⟩, ⟨0.5, none⟩], [some 3, none], some .off, [0.5, -20.0],
      [none, some (.single 31), some (.several [0, 1])]⟩⟩

/-- The assumption on doubles is met by the doubles that are read back. -/
theorem parse_write_stored :
    (∀ file ∈ [titledTable, .ofCluster .empty, groupedRequest], ∀ x ∈ file.floats,
      x.isFinite = true ∧ Json.ReadsBack x) ∧
    ∀ file ∈ [titledTable, .ofCluster .empty, groupedRequest],
      CircuitFile.parse file.write = .ok file := by
  have readsBack : ∀ file ∈ [titledTable, .ofCluster .empty, groupedRequest], ∀ x ∈ file.floats,
      x.isFinite = true ∧ Json.ReadsBack x := by
    decide +kernel
  exact ⟨readsBack, fun file member => (parse_write file).2
    (fun x isFloat => (readsBack file member x isFloat).1)
    fun x isFloat _ => (readsBack file member x isFloat).2⟩

end CircuitFile

end Crossbar
