import Crossbar.Diagnostic.Sink
import Mathlib.Algebra.Order.BigOperators.Group.Finset

/-!
# The history of a sink

A sink is used by calls one after another.  The history of a run has two ghosts
that the sink itself does not keep: the diagnostics that were emitted, and those
that the answers of drains gave away.  The invariant of a run relates both to the
sink.  What was given away and what is pending are together what was emitted, in
order, and the errors that were counted are those that were emitted, whether or not
they are still pending.  A counter of 64 bits, which wraps around, shows the same count
for fewer than 2 ^ 64 errors.

Calls that only read may be left out of a run.
-/

namespace Crossbar.Sink

/-! ## Calls -/

/-- A call on a sink. -/
inductive Call where
  | emit (diagnostic : Diagnostic)
  | drain
  /-- Copies the pending diagnostics. -/
  | list
  | count (code : Code)
  | render (style : Diagnostic.Style)
  deriving DecidableEq, Repr

/-- What a call answers. -/
inductive Answer where
  | done
  | listed (diagnostics : List Diagnostic)
  | counted (number : Nat)
  | rendered (text : String)
  deriving DecidableEq, Repr

/-- Makes a call: its answer and the sink after it. -/
def perform (sink : Sink) : Call → Answer × Sink
  | .emit diagnostic => (.done, sink.emit diagnostic)
  | .drain => (.listed sink.drain.1, sink.drain.2)
  | .list => (.listed sink.pending, sink)
  | .count code => (.counted (sink.count code), sink)
  | .render style => (.rendered (sink.render style), sink)

/-- Makes calls one after another: their answers and the sink after the last. -/
def run (sink : Sink) : List Call → List Answer × Sink
  | [] => ([], sink)
  | call :: rest =>
    let (answer, after) := sink.perform call
    let (later, final) := after.run rest
    (answer :: later, final)

/-- Whether a call only reads the sink. -/
def Call.isRead : Call → Bool
  | .emit _ | .drain => false
  | .list | .count _ | .render _ => true

/-! ## Ghosts of a run -/

/-- What a call emits. -/
def Call.emitted : Call → List Diagnostic
  | .emit diagnostic => [diagnostic]
  | _ => []

/-- What the answer to a call takes out of the sink. -/
def Call.taken : Call → Answer → List Diagnostic
  | .drain, .listed diagnostics => diagnostics
  | _, _ => []

def emitted (calls : List Call) : List Diagnostic := calls.flatMap Call.emitted

def taken (calls : List Call) (answers : List Answer) : List Diagnostic :=
  (List.zipWith Call.taken calls answers).flatten

/-- A sink accounts for what was emitted into it and taken out of it. -/
structure Accounts (emitted taken : List Diagnostic) (sink : Sink) : Prop where
  conserved : taken ++ sink.pending = emitted
  errorCount : sink.errorCount = emitted.countP fun diagnostic => diagnostic.severity = .error

section Runs

variable {sink : Sink} {call : Call} {rest : List Call}
  {emittedBefore takenBefore : List Diagnostic}

theorem run_cons : sink.run (call :: rest) =
    ((sink.perform call).1 :: ((sink.perform call).2.run rest).1,
      ((sink.perform call).2.run rest).2) :=
  rfl

theorem accounts_empty : Accounts [] [] empty :=
  ⟨rfl, rfl⟩

theorem errorCount_emit (sink : Sink) (diagnostic : Diagnostic) :
    (sink.emit diagnostic).errorCount =
      sink.errorCount + [diagnostic].countP fun emitted => emitted.severity = .error := by
  by_cases isError : diagnostic.severity = .error <;>
    simp [emit, Severity.isError, isError]

/-- What one call keeps. -/
theorem Accounts.perform (accounts : Accounts emittedBefore takenBefore sink) (call : Call) :
    Accounts (emittedBefore ++ call.emitted)
      (takenBefore ++ call.taken (sink.perform call).1) (sink.perform call).2 := by
  obtain ⟨conserved, errorCount⟩ := accounts
  cases call with
  | emit diagnostic =>
      constructor
      · simp [Call.emitted, Call.taken, Sink.perform, emit, ← conserved]
      · rw [List.countP_append, ← errorCount]
        exact errorCount_emit sink diagnostic
  | drain =>
      constructor
      · simpa [Call.emitted, Call.taken, Sink.perform, drain] using conserved
      · simpa [Call.emitted, Sink.perform, drain] using errorCount
  | list => simpa [Call.emitted, Call.taken, Sink.perform] using ⟨conserved, errorCount⟩
  | count code => simpa [Call.emitted, Call.taken, Sink.perform] using ⟨conserved, errorCount⟩
  | render style => simpa [Call.emitted, Call.taken, Sink.perform] using ⟨conserved, errorCount⟩

/-- What a run keeps. -/
theorem Accounts.run (accounts : Accounts emittedBefore takenBefore sink) (calls : List Call) :
    Accounts (emittedBefore ++ emitted calls) (takenBefore ++ taken calls (sink.run calls).1)
      (sink.run calls).2 := by
  induction calls generalizing sink emittedBefore takenBefore with
  | nil =>
      simpa [emitted, taken, Sink.run] using accounts
  | cons call rest inductionHypothesis =>
      have later := inductionHypothesis (accounts.perform call)
      rw [List.append_assoc, List.append_assoc] at later
      exact later

/-- Nothing is pending after a drain. -/
theorem pending_run_drain (sink : Sink) (calls : List Call) :
    (sink.run (calls ++ [.drain])).2.pending = [] := by
  induction calls generalizing sink with
  | nil =>
      rfl
  | cons call rest inductionHypothesis =>
      rw [List.cons_append, run_cons]
      exact inductionHypothesis (sink.perform call).2

/-- A drain at the end of a run completes what was taken out. -/
theorem taken_run_drain (calls : List Call) :
    taken (calls ++ [.drain]) (empty.run (calls ++ [.drain])).1 = emitted calls := by
  have conserved := (accounts_empty.run (calls ++ [.drain])).conserved
  have drainEmitsNothing : emitted (calls ++ [.drain]) = emitted calls := by
    simp [emitted, Call.emitted]
  rwa [pending_run_drain, drainEmitsNothing, List.append_nil] at conserved

/-! ## A counter of 64 bits -/

/-- What a call does to a counter of the errors, which wraps around. -/
def Call.tally (counter : UInt64) : Call → UInt64
  | .emit diagnostic => if diagnostic.severity = .error then counter + 1 else counter
  | _ => counter

/-- The counter after calls. -/
def tally (counter : UInt64) (calls : List Call) : UInt64 := calls.foldl Call.tally counter

theorem Call.toNat_tally (counter : UInt64) (call : Call) :
    (call.tally counter).toNat = (counter.toNat +
      call.emitted.countP fun diagnostic => diagnostic.severity = .error) % 2 ^ 64 := by
  cases call with
  | emit diagnostic =>
      by_cases isError : diagnostic.severity = .error
      · simp [Call.tally, Call.emitted, isError]
      · simp [Call.tally, Call.emitted, isError]
  | _ => exact (Nat.mod_eq_of_lt counter.toNat_lt).symm

theorem toNat_tally (counter : UInt64) (calls : List Call) :
    (tally counter calls).toNat = (counter.toNat +
      (emitted calls).countP fun diagnostic => diagnostic.severity = .error) % 2 ^ 64 := by
  induction calls generalizing counter with
  | nil =>
      exact (Nat.mod_eq_of_lt counter.toNat_lt).symm
  | cons call rest inductionHypothesis =>
      have counted : emitted (call :: rest) = call.emitted ++ emitted rest := rfl
      rw [counted, List.countP_append, ← Nat.add_assoc, tally, List.foldl_cons, ← tally,
        inductionHypothesis, Call.toNat_tally, Nat.mod_add_mod]

/-! ## Calls that only read -/

theorem perform_of_isRead (isRead : call.isRead = true) : (sink.perform call).2 = sink := by
  cases call with
  | emit diagnostic => cases isRead
  | drain => cases isRead
  | _ => rfl

/-- A run ends in the same sink without the calls that only read. -/
theorem run_filter (sink : Sink) (calls : List Call) :
    (sink.run (calls.filter fun call => !call.isRead)).2 = (sink.run calls).2 := by
  induction calls generalizing sink with
  | nil =>
      rfl
  | cons call rest inductionHypothesis =>
      cases isRead : call.isRead with
      | true =>
          rw [List.filter_cons_of_neg (by simp [isRead]), inductionHypothesis, run_cons,
            perform_of_isRead isRead]
      | false =>
          rw [List.filter_cons_of_pos (by simp [isRead]), run_cons, run_cons,
            inductionHypothesis]

end Runs

/-! ## Counts by code -/

/-- Counted code by code, every pending diagnostic is counted once. -/
theorem sum_count (sink : Sink) (codes : Finset Code)
    (complete : ∀ diagnostic ∈ sink.pending, diagnostic.code ∈ codes) :
    ∑ code ∈ codes, sink.count code = sink.pending.length := by
  have byCode (code : Code) :
      sink.count code = (sink.pending.map Diagnostic.code : Multiset Code).count code := by
    rw [Multiset.coe_count, List.count, List.countP_map]
    rfl
  have listed : ∀ code ∈ (sink.pending.map Diagnostic.code : Multiset Code), code ∈ codes := by
    intro code member
    obtain ⟨diagnostic, pending, rfl⟩ := List.mem_map.mp (Multiset.mem_coe.mp member)
    exact complete diagnostic pending
  simp only [byCode]
  rw [Multiset.sum_count_eq_card listed, Multiset.coe_card, List.length_map]

/-- The account of a run on a fresh sink. -/
structure AccountsFor (calls : List Call) (answers : List Answer) (sink : Sink) : Prop where
  conserved : taken calls answers ++ sink.pending = emitted calls
  drained : taken (calls ++ [.drain]) (empty.run (calls ++ [.drain])).1 = emitted calls
  errorCount : sink.errorCount =
    (emitted calls).countP fun diagnostic => diagnostic.severity = .error
  bounded : sink.errorCount < 2 ^ 64 → (tally 0 calls).toNat = sink.errorCount
  hasErrors_iff : sink.hasErrors = true ↔
    0 < (emitted calls).countP fun diagnostic => diagnostic.severity = .error
  counts : ∀ codes : Finset Code, (∀ diagnostic ∈ sink.pending, diagnostic.code ∈ codes) →
    ∑ code ∈ codes, sink.count code = sink.pending.length
  reads : ∀ call : Call, call.isRead = true → (sink.perform call).2 = sink
  unread : (empty.run (calls.filter fun call => !call.isRead)).2 = sink

/-- Whatever is called, nothing that was emitted is lost or given away twice, and every
error is counted. -/
theorem accountsFor_run (calls : List Call) :
    AccountsFor calls (empty.run calls).1 (empty.run calls).2 := by
  have accounts := accounts_empty.run calls
  rw [List.nil_append, List.nil_append] at accounts
  refine ⟨accounts.conserved, taken_run_drain calls, accounts.errorCount, ?_, ?_, sum_count _,
    ?_, run_filter empty calls⟩
  · intro few
    have counted := toNat_tally 0 calls
    rw [← accounts.errorCount, UInt64.toNat_zero, Nat.zero_add, Nat.mod_eq_of_lt few] at counted
    exact counted
  · rw [hasErrors, decide_eq_true_iff, accounts.errorCount]
  · exact fun call isRead => perform_of_isRead isRead

/-- An error is still counted after it was drained. -/
example (diagnostic : Diagnostic) :
    (empty.run [.emit { diagnostic with severity := .error }, .drain, .list]).2 = ⟨[], 1⟩ :=
  rfl

end Crossbar.Sink
