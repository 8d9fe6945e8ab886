import Crossbar.Proofs.Compile

/-!
# What stops a routing

A routing is stopped by a resolved connection that ends at a converter channel or an
external output and has a coefficient other than 0 and 1, and by nothing else.  The
first such connection names the fault, whether or not the channel exists and the source
is wired.

Setting the switch of an external input checks its number once more.  A connection
that has been placed passes this check, so pinning with and without it is the same.
-/

namespace Crossbar

/-! ## Weighted sinks -/

namespace Resolved

/-- A connection ends at a sink through a coefficient other than 0 and 1. -/
def WeighsSink (resolved : Resolved) (coefficient : Float) : Prop :=
  (resolved.wire.target.kind = .converter ∨ resolved.wire.target.kind = .externalOutput) ∧
    resolved.coefficient = some coefficient ∧ coefficient != 0.0 ∧ coefficient != 1.0

/-- The first connection of a list that weighs a sink. -/
inductive FirstWeighs (connections : List Resolved) : RoutingFault → Prop
  | intro {before after : List Resolved} {weighted : Resolved} {coefficient : Float}
      (whole : connections = before ++ weighted :: after)
      (unweighted : ∀ earlier ∈ before, ∀ other, ¬earlier.WeighsSink other)
      (weighs : weighted.WeighsSink coefficient) :
      FirstWeighs connections (.sinkCoefficient weighted.wire.target coefficient)

/-- The fault of a connection that weighs a sink. -/
def fault? (resolved : Resolved) : Option RoutingFault :=
  if resolved.wire.target.kind.isSink then
    (resolved.coefficient.filter fun c => c != 0.0 && c != 1.0).map
      (.sinkCoefficient resolved.wire.target)
  else none

variable {resolved : Resolved} {connections : List Resolved} {fault : RoutingFault}

theorem fault?_eq_some_iff :
    resolved.fault? = some fault ↔ ∃ coefficient, resolved.WeighsSink coefficient ∧
      fault = .sinkCoefficient resolved.wire.target coefficient := by
  rw [fault?, Option.ite_none_right_eq_some, Placement.isSink_iff, Option.map_eq_some_iff]
  constructor
  · rintro ⟨sink, coefficient, weight, rfl⟩
    obtain ⟨set, unusual⟩ := Option.filter_eq_some_iff.mp weight
    exact ⟨coefficient, ⟨sink, set, (Bool.and_eq_true _ _).mp unusual⟩, rfl⟩
  · rintro ⟨coefficient, ⟨sink, set, unusual⟩, rfl⟩
    refine ⟨sink, coefficient, ?_, rfl⟩
    exact Option.filter_eq_some_iff.mpr ⟨set, (Bool.and_eq_true _ _).mpr unusual⟩

theorem fault?_eq_none_iff :
    resolved.fault? = none ↔ ∀ coefficient, ¬resolved.WeighsSink coefficient := by
  rw [Option.eq_none_iff_forall_ne_some]
  constructor
  · intro noFault coefficient weighs
    exact noFault _ (fault?_eq_some_iff.mpr ⟨coefficient, weighs, rfl⟩)
  · intro unweighted fault found
    obtain ⟨coefficient, weighs, _⟩ := fault?_eq_some_iff.mp found
    exact unweighted coefficient weighs

theorem findSome?_fault?_eq_some_iff :
    connections.findSome? fault? = some fault ↔ FirstWeighs connections fault := by
  rw [List.findSome?_eq_some_iff]
  constructor
  · rintro ⟨before, weighted, after, whole, found, noneBefore⟩
    obtain ⟨coefficient, weighs, rfl⟩ := fault?_eq_some_iff.mp found
    refine FirstWeighs.intro whole ?_ weighs
    exact fun earlier member => fault?_eq_none_iff.mp (noneBefore earlier member)
  · rintro ⟨whole, unweighted, weighs⟩
    refine ⟨_, _, _, whole, fault?_eq_some_iff.mpr ⟨_, weighs, rfl⟩, ?_⟩
    exact fun earlier member => fault?_eq_none_iff.mpr (unweighted earlier member)

theorem isVirtual_of_fault? (found : resolved.fault? = some fault) :
    resolved.isVirtual = true := by
  obtain ⟨_, ⟨sink, _⟩, _⟩ := fault?_eq_some_iff.mp found
  rcases sink with kind | kind <;> simp [isVirtual, kind, Kind.isVirtual]

/-- Connections between two blocks weigh no sink. -/
theorem findSome?_fault?_filter (connections : List Resolved) :
    (connections.filter Resolved.isVirtual).findSome? fault? = connections.findSome? fault? := by
  induction connections with
  | nil =>
      rfl
  | cons resolved rest inductionHypothesis =>
      by_cases isVirtual : resolved.isVirtual = true
      · rw [List.filter_cons_of_pos isVirtual, List.findSome?_cons, List.findSome?_cons,
          inductionHypothesis]
      · have noFault : resolved.fault? = none :=
          Option.eq_none_iff_forall_ne_some.mpr fun _ found =>
            isVirtual (isVirtual_of_fault? found)
        rw [List.filter_cons_of_neg isVirtual, List.findSome?_cons, noFault, inductionHypothesis]

end Resolved

/-! ## Faults of pinning -/

namespace Placement

variable {layout : Layout} {resolved : Resolved} {connections : List Resolved}
  {fault : RoutingFault} {placement : Placement}

/-- A sink is weighted before anything else about it is looked at. -/
theorem pin_eq_error_iff : pin layout resolved = .error fault ↔ resolved.fault? = some fault := by
  by_cases listener : resolved.wire.target.kind.isSink = true
  · rw [pin_of_isSink listener, Resolved.fault?, if_pos listener, pinSink]
    cases resolved.coefficient.filter fun c => c != 0.0 && c != 1.0 with
    | some coefficient => simp
    | none =>
        dsimp only
        split <;> simp
  · rw [Resolved.fault?, if_neg listener]
    unfold pin
    split <;> simp_all [Kind.isSink, Kind.outputs]

theorem value_pinAll_eq_error_iff :
    (pinAll layout connections).value = .error fault ↔
      connections.findSome? Resolved.fault? = some fault := by
  induction connections with
  | nil =>
      simp [pinAll]
  | cons resolved rest inductionHypothesis =>
      rw [List.findSome?_cons]
      cases pinned : pin layout resolved with
      | error found =>
          rw [pin_eq_error_iff.mp pinned, pinAll, pinned]
          simp
      | ok outcome =>
          have noFault : resolved.fault? = none := by
            rw [Option.eq_none_iff_forall_ne_some]
            intro fault found
            rw [pin_eq_error_iff.mpr found] at pinned
            cases pinned
          rw [noFault, value_pinAll_cons pinned, ← inductionHypothesis]
          cases (pinAll layout rest).value <;> simp [Except.map]

/-! ## Switches that are checked -/

/-- Switches the auxiliary signal of a placement on, if its channel exists. -/
def enableChecked (switches : AuxSwitches) (placement : Placement) :
    Except CodecError AuxSwitches :=
  match placement.wire.source.kind with
  | .externalInput => switches.setInput? placement.wire.source.number.toNat true
  | .constant => .ok (switches.setReference true)
  | _ => .ok switches

/-- Pins connections one after another, each with its switch, up to the first fault. -/
def pinAllChecked (layout : Layout) (switches : AuxSwitches) :
    List Resolved → Except RoutingFault (List Placement × AuxSwitches)
  | [] => .ok ([], switches)
  | resolved :: rest => do
    match ← pin layout resolved with
    | .error _ => pinAllChecked layout switches rest
    | .ok placement =>
      let switched ← (enableChecked switches placement).mapError RoutingFault.codec
      let (placements, final) ← pinAllChecked layout switched rest
      return (placement :: placements, final)

theorem pinAllChecked_of_fault {switches : AuxSwitches} {rest : List Resolved}
    (stopped : pin layout resolved = .error fault) :
    pinAllChecked layout switches (resolved :: rest) = .error fault := by
  rw [pinAllChecked, stopped]
  rfl

theorem pinAllChecked_of_error {switches : AuxSwitches} {rest : List Resolved}
    {error : RoutingError} (rejected : pin layout resolved = .ok (.error error)) :
    pinAllChecked layout switches (resolved :: rest) = pinAllChecked layout switches rest := by
  rw [pinAllChecked, rejected]
  rfl

theorem pinAllChecked_of_placement {switches switched : AuxSwitches} {rest : List Resolved}
    (pinned : pin layout resolved = .ok (.ok placement))
    (enabled : enableChecked switches placement = .ok switched) :
    pinAllChecked layout switches (resolved :: rest) =
      (pinAllChecked layout switched rest).map fun found => (placement :: found.1, found.2) := by
  rw [pinAllChecked, pinned]
  simp only [bind, Except.bind, enabled, Except.mapError]
  cases pinAllChecked layout switched rest <;> rfl

/-- The switch of a connection that has been placed exists. -/
theorem enableChecked_eq (placed : Placed layout resolved placement) (switches : AuxSwitches) :
    enableChecked switches placement = .ok (enable switches placement) := by
  cases placed with
  | sink _ _ _ source =>
      rcases Layout.kind_of_crossLaneOf source with kind | kind <;>
        simp [enableChecked, enable, kind]
  | @externalInput channel output kind number target =>
      have onChannel : AuxSwitches.channelOf? (AuxSwitches.channelCrossLane channel) =
          some channel := AuxSwitches.channelOf?_eq_some_iff.mpr rfl
      simp [enableChecked, enable, kind, number, onChannel, AuxSwitches.setInput?]
  | constant kind target =>
      simp [enableChecked, enable, kind]
  | flexible source target =>
      rcases Layout.kind_of_crossLaneOf source with kind | kind <;>
        simp [enableChecked, enable, kind]

/-- The check of the switches never fails. -/
theorem pinAllChecked_eq (switches : AuxSwitches)
    (sound : ∀ resolved ∈ connections, resolved.Sound ∧ resolved.isVirtual = true) :
    pinAllChecked layout switches connections =
      (pinAll layout connections).value.map fun placements =>
        (placements, placements.foldl enable switches) := by
  induction connections generalizing switches with
  | nil =>
      rfl
  | cons resolved rest inductionHypothesis =>
      have tail (switched : AuxSwitches) := inductionHypothesis switched
        fun other member => sound other (List.mem_cons_of_mem _ member)
      obtain ⟨headSound, isVirtual⟩ := sound resolved (List.mem_cons_self ..)
      cases pinned : pin layout resolved with
      | error fault =>
          rw [pinAllChecked_of_fault pinned, pinAll, pinned]
          rfl
      | ok outcome =>
          rw [value_pinAll_cons pinned]
          cases outcome with
          | error error =>
              rw [pinAllChecked_of_error pinned, tail]
              cases (pinAll layout rest).value <;> rfl
          | ok placement =>
              have placed := placed_of_pin headSound isVirtual pinned
              rw [pinAllChecked_of_placement pinned (enableChecked_eq placed switches), tail]
              cases (pinAll layout rest).value <;> rfl

end Placement

/-! ## Faults of a compilation -/

namespace Compilation

/-- A compilation fails exactly if a resolved connection weighs a sink, with the fault
of the first one, and the switches it sets all exist. -/
structure FaultsExactly (layout : Layout) (connections : List Connection) : Prop where
  fails : (∃ fault, (compile layout connections).value = .error fault) ↔
    ∃ resolved ∈ (Resolved.ofConnections connections).value,
      ∃ coefficient, resolved.WeighsSink coefficient
  fault : ∀ fault, (compile layout connections).value = .error fault ↔
    Resolved.FirstWeighs (Resolved.ofConnections connections).value fault
  switches : Placement.pinAllChecked layout .off (virtual connections) =
    (Placement.pinAll layout (virtual connections)).value.map fun placements =>
      (placements, Placement.switches placements)

section Faults

variable {layout : Layout} {connections : List Connection} {fault : RoutingFault}

theorem value_compile_eq_error_iff :
    (compile layout connections).value = .error fault ↔
      (Resolved.ofConnections connections).value.findSome? Resolved.fault? = some fault := by
  have pinning : (Placement.pinAll layout (virtual connections)).value = .error fault ↔
      (Resolved.ofConnections connections).value.findSome? Resolved.fault? = some fault := by
    rw [Placement.value_pinAll_eq_error_iff, virtual, Resolved.findSome?_fault?_filter]
  rw [← pinning, value_compile_eq_map]
  cases (Placement.pinAll layout (virtual connections)).value <;> simp [Except.map]

theorem exists_fault_iff :
    (∃ fault, (compile layout connections).value = .error fault) ↔
      ∃ resolved ∈ (Resolved.ofConnections connections).value,
        ∃ coefficient, resolved.WeighsSink coefficient := by
  constructor
  · rintro ⟨fault, failed⟩
    obtain ⟨resolved, member, found⟩ :=
      List.exists_of_findSome?_eq_some (value_compile_eq_error_iff.mp failed)
    obtain ⟨coefficient, weighs, _⟩ := Resolved.fault?_eq_some_iff.mp found
    exact ⟨resolved, member, coefficient, weighs⟩
  · rintro ⟨resolved, member, coefficient, weighs⟩
    cases first : (Resolved.ofConnections connections).value.findSome? Resolved.fault? with
    | some fault => exact ⟨fault, value_compile_eq_error_iff.mpr first⟩
    | none =>
        have noFault := List.findSome?_eq_none_iff.mp first resolved member
        exact absurd weighs (Resolved.fault?_eq_none_iff.mp noFault coefficient)

end Faults

/-- Only weighted sinks stop a compilation. -/
theorem faultsExactly (layout : Layout) (connections : List Connection) :
    FaultsExactly layout connections := by
  refine ⟨exists_fault_iff, ?_, ?_⟩
  · intro fault
    rw [value_compile_eq_error_iff, Resolved.findSome?_fault?_eq_some_iff]
  · apply Placement.pinAllChecked_eq
    intro resolved member
    exact ⟨sound_of_mem_virtual member, (List.mem_filter.mp member).2⟩

/-- A converter channel that does not exist is a fault once it is weighted. -/
example :
    let weighted (coefficient : Option Float) :=
      [wired? (port? .integrator 0 .output) (port? .potentiometer 0 .input) coefficient,
        wired? (port? .potentiometer 0 .output) (port? .converter 9 .sink) none].reduceOption
    (compile .standard (weighted (some 0.5))).value.isOk = false ∧
      (compile .standard (weighted (some 1.0))).value.isOk = true := by
  decide +kernel

end Compilation

end Crossbar
