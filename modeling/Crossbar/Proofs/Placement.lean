import Crossbar.Proofs.Layout
import Crossbar.Proofs.Resolved
import Crossbar.Routing.Placement
import Mathlib.Data.Fintype.Basic

/-!
# What a placement reads and writes

A resolved connection is placed in one of four ways, by its sink, by its external
input, as a constant, or between two blocks.  Each way fixes the cross-lanes and
the coefficient; only the lane may change afterwards.

The auxiliary signals are exactly those that some pinned placement injects.  A
placement is hidden when its source is a port of a block and an auxiliary signal
has taken over the cross-lane of that port.
-/

namespace Crossbar

/-! ## Auxiliary signals on cross-lanes -/

namespace AuxSwitches

/-- The cross-lane of an external input. -/
def channelCrossLane (channel : Channel) : CrossLane := ⟨8 + channel.val, by omega⟩

/-- The lane of an external input. -/
def channelLane (channel : Channel) : Lane := ⟨16 + channel.val, by omega⟩

/-- An auxiliary signal has taken over a cross-lane. -/
def Overrides (switches : AuxSwitches) (crossLane : CrossLane) : Prop :=
  (∃ channel : Channel, crossLane.val = 8 + channel.val ∧
    switches.hasInput channel.val = true) ∨
  (crossLane.val = 7 ∧ switches.reference = true)

instance (switches : AuxSwitches) (crossLane : CrossLane) :
    Decidable (switches.Overrides crossLane) :=
  inferInstanceAs (Decidable (_ ∨ _))

variable {switches : AuxSwitches} {crossLane : CrossLane} {channel : Channel}

theorem channelOf?_eq_some_iff :
    channelOf? crossLane = some channel ↔ crossLane.val = 8 + channel.val := by
  unfold channelOf?
  split
  next upper =>
    rw [Option.some.injEq, Fin.ext_iff]
    dsimp only
    omega
  next lower =>
    simp only [reduceCtorEq, false_iff]
    omega

theorem activeInput?_eq_some_iff :
    switches.activeInput? crossLane = some channel ↔
      crossLane.val = 8 + channel.val ∧ switches.hasInput channel.val = true := by
  rw [activeInput?, Option.filter_eq_some_iff, channelOf?_eq_some_iff]
  simp [hasInput]

theorem hasInput_setInput {found : Channel} {number : Nat} :
    (switches.setInput found true).hasInput number = true ↔
      found.val = number ∨ switches.hasInput number = true := by
  unfold hasInput setInput
  by_cases same : found.val = number
  · subst same
    simp
  · simp [same, Vector.getElem?_set_ne]

/-- Auxiliary signals are equal when the same of them are on. -/
theorem eq_of_hasInput {first second : AuxSwitches}
    (sameInputs : ∀ channel : Channel,
      first.hasInput channel.val = true ↔ second.hasInput channel.val = true)
    (sameReference : first.reference = true ↔ second.reference = true) : first = second := by
  obtain ⟨firstInputs, firstReference⟩ := first
  obtain ⟨secondInputs, secondReference⟩ := second
  have inputs : firstInputs = secondInputs := by
    apply Vector.ext
    intro number inRange
    have same := sameInputs ⟨number, inRange⟩
    simp only [hasInput, Vector.getElem?_eq_getElem inRange, Option.getD_some] at same
    exact Bool.eq_iff_iff.mpr same
  have reference : firstReference = secondReference := Bool.eq_iff_iff.mpr sameReference
  rw [inputs, reference]

theorem hasInput_off (number : Nat) : off.hasInput number = false := by
  by_cases inRange : number < 8 <;> simp [off, hasInput, inRange]

theorem carriesReference_iff :
    switches.carriesReference crossLane = true ↔
      switches.reference = true ∧ crossLane.val = 7 := by
  rw [carriesReference, Bool.and_eq_true, beq_iff_eq, Fin.ext_iff]
  rfl

/-- A cross-lane carries its own signal when no channel and no reference is on it. -/
theorem not_overrides_iff :
    ¬switches.Overrides crossLane ↔
      switches.activeInput? crossLane = none ∧
        switches.carriesReference crossLane = false := by
  rw [Overrides, not_or, Option.eq_none_iff_forall_ne_some, ← Bool.not_eq_true,
    carriesReference_iff, and_comm (a := crossLane.val = 7)]
  refine and_congr_left fun _ => ?_
  simp [activeInput?_eq_some_iff]

theorem activeInput?_eq_none_of_lower (lower : crossLane.val < 8) :
    switches.activeInput? crossLane = none := by
  rw [Option.eq_none_iff_forall_ne_some]
  intro channel active
  have := (activeInput?_eq_some_iff.mp active).1
  omega

end AuxSwitches

namespace Placement

variable {layout : Layout} {resolved : Resolved} {placement : Placement}

/-! ## The four ways of placing -/

/-- The placements of a resolved connection. -/
inductive Placed (layout : Layout) (resolved : Resolved) : Placement → Prop
  | sink {lane : Lane} {input : CrossLane}
      (listener : resolved.wire.target.kind.isSink = true)
      (unweighted : ∀ coefficient, resolved.coefficient = some coefficient →
        (coefficient != 0.0 && coefficient != 1.0) = false)
      (reserved : resolved.wire.target.kind.reservedLane resolved.wire.target.number.toNat =
        some lane)
      (source : layout.crossLaneOf resolved.wire.source = some input) :
      Placed layout resolved ⟨some lane, input, 0.0, none, resolved.wire⟩
  | externalInput {channel : Channel} {output : CrossLane}
      (kind : resolved.wire.source.kind = .externalInput)
      (number : resolved.wire.source.number.toNat = channel.val)
      (target : layout.crossLaneOf resolved.wire.target = some output) :
      Placed layout resolved ⟨some (AuxSwitches.channelLane channel),
        AuxSwitches.channelCrossLane channel, resolved.coefficient.getD 1.0, some output,
        resolved.wire⟩
  | constant {output : CrossLane}
      (kind : resolved.wire.source.kind = .constant)
      (target : layout.crossLaneOf resolved.wire.target = some output) :
      Placed layout resolved
        ⟨resolved.lane, referenceCrossLane, resolved.coefficient.getD 1.0, some output,
          resolved.wire⟩
  | flexible {lane : Option Lane} {input output : CrossLane}
      (source : layout.crossLaneOf resolved.wire.source = some input)
      (target : layout.crossLaneOf resolved.wire.target = some output) :
      Placed layout resolved
        ⟨lane, input, resolved.coefficient.getD 1.0, some output, resolved.wire⟩

theorem isSink_iff {kind : Kind} :
    kind.isSink = true ↔ kind = .converter ∨ kind = .externalOutput := by
  cases kind <;> decide

theorem isSink_of_crossLaneOf {port : Port} {crossLane : CrossLane}
    (wired : layout.crossLaneOf port = some crossLane) : port.kind.isSink = false := by
  rcases Layout.kind_of_crossLaneOf wired with kind | kind <;> rw [kind] <;> rfl

theorem pinSink_eq_ok_iff :
    pinSink layout resolved = .ok (.ok placement) ↔
      ∃ lane input,
        (∀ coefficient, resolved.coefficient = some coefficient →
          (coefficient != 0.0 && coefficient != 1.0) = false) ∧
        resolved.wire.target.kind.reservedLane resolved.wire.target.number.toNat = some lane ∧
        layout.crossLaneOf resolved.wire.source = some input ∧
        placement = ⟨some lane, input, 0.0, none, resolved.wire⟩ := by
  have unweighted :
      resolved.coefficient.filter (fun c => c != 0.0 && c != 1.0) = none ↔
        ∀ coefficient, resolved.coefficient = some coefficient →
          (coefficient != 0.0 && coefficient != 1.0) = false := by
    simp only [Option.filter_eq_none_iff, Bool.not_eq_true]
  rw [← unweighted]
  unfold pinSink
  dsimp only
  cases resolved.coefficient.filter fun c => c != 0.0 && c != 1.0 with
  | some coefficient =>
      simp
  | none =>
      cases resolved.wire.target.kind.reservedLane resolved.wire.target.number.toNat with
      | none =>
          simp
      | some lane =>
          cases layout.crossLaneOf resolved.wire.source with
          | none => simp
          | some input => simp [eq_comm]

/-- The lane and the cross-lane of an external input that has a channel. -/
theorem injection_of_channel {channel : Channel} {number : Nat}
    (sameNumber : number = channel.val) :
    Kind.injectionLane .externalInput number = some (AuxSwitches.channelLane channel) ∧
      Kind.injectionCrossLane .externalInput number =
        some (AuxSwitches.channelCrossLane channel) := by
  subst sameNumber
  revert channel
  decide

theorem injectionLane_eq_none {number : Nat} (beyond : 8 ≤ number) :
    Kind.injectionLane .externalInput number = none := by
  have notBelow : ¬number < channelCount := by
    simpa [channelCount] using beyond
  simp [Kind.injectionLane, notBelow]

theorem pinExternalInput_eq_ok_iff (kind : resolved.wire.source.kind = .externalInput) :
    pinExternalInput layout resolved = .ok placement ↔
      ∃ (channel : Channel) (output : CrossLane),
        resolved.wire.source.number.toNat = channel.val ∧
        layout.crossLaneOf resolved.wire.target = some output ∧
        placement = ⟨some (AuxSwitches.channelLane channel),
          AuxSwitches.channelCrossLane channel, resolved.coefficient.getD 1.0, some output,
          resolved.wire⟩ := by
  unfold pinExternalInput
  dsimp only
  rw [kind]
  by_cases onChannel : resolved.wire.source.number.toNat < 8
  · have sameNumber : resolved.wire.source.number.toNat = (⟨_, onChannel⟩ : Channel).val := rfl
    have channels := injection_of_channel sameNumber
    rw [channels.1, channels.2]
    cases layout.crossLaneOf resolved.wire.target with
    | none =>
        simp
    | some output =>
        simp only [Except.ok.injEq, Option.some.injEq]
        constructor
        · rintro rfl
          exact ⟨⟨_, onChannel⟩, output, rfl, rfl, rfl⟩
        · rintro ⟨channel, _, number, rfl, rfl⟩
          have sameChannel : channel = ⟨_, onChannel⟩ := Fin.ext number.symm
          rw [sameChannel]
          rfl
  · rw [injectionLane_eq_none (by omega)]
    simp only [reduceCtorEq, false_iff]
    rintro ⟨channel, output, number, _⟩
    exact onChannel (number ▸ channel.isLt)

theorem pinConstant_eq_ok_iff :
    pinConstant layout resolved = .ok placement ↔
      ∃ output, layout.crossLaneOf resolved.wire.target = some output ∧
        placement =
          ⟨resolved.lane, referenceCrossLane, resolved.coefficient.getD 1.0, some output,
            resolved.wire⟩ := by
  unfold pinConstant
  dsimp only
  cases layout.crossLaneOf resolved.wire.target with
  | none => simp
  | some output => simp [Resolved.weight, eq_comm]

theorem ofPosition_eq_ok_iff {position : Nat} :
    ofPosition layout resolved position = .ok placement ↔
      ∃ input output, layout.crossLaneOf resolved.wire.source = some input ∧
        layout.crossLaneOf resolved.wire.target = some output ∧
        placement = ⟨resolved.lane <|> Lane.ofNat? position, input, resolved.coefficient.getD 1.0,
          some output, resolved.wire⟩ := by
  unfold ofPosition
  dsimp only
  cases layout.crossLaneOf resolved.wire.source with
  | none =>
      simp
  | some input =>
      cases layout.crossLaneOf resolved.wire.target with
      | none => simp
      | some output => simp [Resolved.weight, eq_comm]

theorem placed_of_ofPosition {position : Nat}
    (placed : ofPosition layout resolved position = .ok placement) :
    Placed layout resolved placement := by
  obtain ⟨input, output, source, target, rfl⟩ := ofPosition_eq_ok_iff.mp placed
  exact Placed.flexible source target

theorem pin_of_isSink (listener : resolved.wire.target.kind.isSink = true) :
    pin layout resolved = pinSink layout resolved := by
  rcases isSink_iff.mp listener with kind | kind <;> simp [pin, kind]

theorem pin_of_externalInput (source : resolved.wire.source.kind = .externalInput)
    (noListener : resolved.wire.target.kind.isSink = false) :
    pin layout resolved = .ok (pinExternalInput layout resolved) := by
  cases target : resolved.wire.target.kind <;> simp_all [pin, Kind.isSink, Kind.outputs]

theorem pin_of_constant (source : resolved.wire.source.kind = .constant)
    (noListener : resolved.wire.target.kind.isSink = false) :
    pin layout resolved = .ok (pinConstant layout resolved) := by
  cases target : resolved.wire.target.kind <;> simp_all [pin, Kind.isSink, Kind.outputs]

/-- A sound connection with a virtual element ends at a sink or starts at an
external input or a constant. -/
theorem virtual_cases (sound : resolved.Sound) (isVirtual : resolved.isVirtual = true) :
    resolved.wire.target.kind.isSink = true ∨
      (resolved.wire.source.kind = .externalInput ∧
        resolved.wire.target.kind.isSink = false) ∨
      (resolved.wire.source.kind = .constant ∧
        resolved.wire.target.kind.isSink = false) := by
  obtain ⟨notFromSink, notIntoSource, _, _, sourceKind, targetKind, _⟩ := sound
  unfold Resolved.isVirtual at isVirtual
  cases source : resolved.wire.source.kind <;> cases target : resolved.wire.target.kind <;>
    simp_all [Kind.isSink, Kind.isSource, Kind.outputs, Kind.inputs, Kind.isVirtual]

theorem placed_of_pin (sound : resolved.Sound) (isVirtual : resolved.isVirtual = true)
    (pinned : pin layout resolved = .ok (.ok placement)) :
    Placed layout resolved placement := by
  rcases virtual_cases sound isVirtual with
    listener | ⟨source, noListener⟩ | ⟨source, noListener⟩
  · rw [pin_of_isSink listener] at pinned
    obtain ⟨lane, input, unweighted, reserved, wired, rfl⟩ := pinSink_eq_ok_iff.mp pinned
    exact Placed.sink listener unweighted reserved wired
  · rw [pin_of_externalInput source noListener, Except.ok.injEq] at pinned
    obtain ⟨channel, output, number, target, rfl⟩ :=
      (pinExternalInput_eq_ok_iff source).mp pinned
    exact Placed.externalInput source number target
  · rw [pin_of_constant source noListener, Except.ok.injEq] at pinned
    obtain ⟨output, target, rfl⟩ := pinConstant_eq_ok_iff.mp pinned
    exact Placed.constant source target

theorem pin_of_placed (isVirtual : resolved.isVirtual = true)
    (placed : Placed layout resolved placement) :
    pin layout resolved = .ok (.ok placement) := by
  cases placed with
  | sink listener unweighted reserved source =>
      rw [pin_of_isSink listener]
      exact pinSink_eq_ok_iff.mpr ⟨_, _, unweighted, reserved, source, rfl⟩
  | externalInput kind number target =>
      rw [pin_of_externalInput kind (isSink_of_crossLaneOf target), Except.ok.injEq]
      exact (pinExternalInput_eq_ok_iff kind).mpr ⟨_, _, number, target, rfl⟩
  | constant kind target =>
      rw [pin_of_constant kind (isSink_of_crossLaneOf target), Except.ok.injEq]
      exact pinConstant_eq_ok_iff.mpr ⟨_, target, rfl⟩
  | flexible source target =>
      simp [Resolved.isVirtual, Layout.isVirtual_of_crossLaneOf source,
        Layout.isVirtual_of_crossLaneOf target] at isVirtual

/-- Between two blocks, a lane that is given wins over the position. -/
theorem ofPosition_of_placed {lane : Lane} (physical : resolved.isVirtual = false)
    (given : resolved.lane = some lane) (kept : placement.lane = some lane)
    (placed : Placed layout resolved placement) (position : Nat) :
    ofPosition layout resolved position = .ok placement := by
  rw [Resolved.isVirtual, Bool.or_eq_false_iff] at physical
  obtain ⟨physicalSource, physicalTarget⟩ := physical
  cases placed with
  | sink listener =>
      rcases isSink_iff.mp listener with kind | kind <;> rw [kind] at physicalTarget <;>
        cases physicalTarget
  | externalInput kind =>
      rw [kind] at physicalSource
      cases physicalSource
  | constant kind =>
      rw [kind] at physicalSource
      cases physicalSource
  | @flexible placementLane input output source target =>
      refine ofPosition_eq_ok_iff.mpr ⟨input, output, source, target, ?_⟩
      change placementLane = some lane at kept
      rw [given, kept]
      rfl

/-! ## What a placement keeps of its connection -/

/-- A port feeds a cross-lane: as an external input, as a constant on the
reference, or as the port of a block wired to it. -/
inductive Feeds (layout : Layout) (source : Port) (input : CrossLane) : Prop
  | channel (channel : Channel) (kind : source.kind = .externalInput)
      (number : source.number.toNat = channel.val) (place : input.val = 8 + channel.val)
  | reference (kind : source.kind = .constant) (place : input.val = 7)
  | block (wired : layout.crossLaneOf source = some input)

theorem Feeds.of_externalInput {source : Port} {input : CrossLane}
    (feeds : Feeds layout source input) (kind : source.kind = .externalInput) :
    ∃ channel : Channel, source.number.toNat = channel.val ∧ input.val = 8 + channel.val := by
  cases feeds with
  | channel channel _ number place =>
      exact ⟨channel, number, place⟩
  | reference constant =>
      rw [constant] at kind
      cases kind
  | block wired =>
      exact absurd kind (Layout.kind_ne_of_crossLaneOf wired rfl)

theorem Feeds.place_of_constant {source : Port} {input : CrossLane}
    (feeds : Feeds layout source input) (kind : source.kind = .constant) : input.val = 7 := by
  cases feeds with
  | channel _ external =>
      rw [external] at kind
      cases kind
  | reference _ place => exact place
  | block wired =>
      exact absurd kind (Layout.kind_ne_of_crossLaneOf wired rfl)

namespace Placed

theorem wire_eq (placed : Placed layout resolved placement) :
    placement.wire = resolved.wire := by
  cases placed <;> rfl

theorem feeds (placed : Placed layout resolved placement) :
    Feeds layout placement.wire.source placement.input := by
  cases placed with
  | sink _ _ _ source => exact Feeds.block source
  | externalInput kind number _ => exact Feeds.channel _ kind number rfl
  | constant kind _ => exact Feeds.reference kind rfl
  | flexible source _ => exact Feeds.block source

theorem inRange (placed : Placed layout resolved placement) (sound : resolved.Sound) :
    Link.inRange placement.coefficient = true := by
  cases placed with
  | sink => exact Link.inRange_zero
  | _ => exact sound.inRange_weight

theorem output_eq_none_iff (placed : Placed layout resolved placement) :
    placement.output = none ↔ resolved.wire.target.kind.isSink = true := by
  cases placed with
  | sink listener => simp [listener]
  | externalInput _ _ target => simp [isSink_of_crossLaneOf target]
  | constant _ target => simp [isSink_of_crossLaneOf target]
  | flexible _ target => simp [isSink_of_crossLaneOf target]

theorem coefficient_of_tap (placed : Placed layout resolved placement)
    (tap : placement.output = none) : placement.coefficient = 0.0 := by
  cases placed with
  | sink => rfl
  | _ => cases tap

theorem crossLaneOf_target (placed : Placed layout resolved placement) {output : CrossLane}
    (heard : placement.output = some output) :
    layout.crossLaneOf resolved.wire.target = some output := by
  cases placed with
  | sink => cases heard
  | externalInput _ _ target => rwa [← heard]
  | constant _ target => rwa [← heard]
  | flexible _ target => rwa [← heard]

end Placed

/-! ## The auxiliary signals of placements -/

section Switches

variable {switches : AuxSwitches} {placements : List Placement} {channel : Channel}

/-- A placement switches a channel on. -/
def Injects (placement : Placement) (channel : Channel) : Prop :=
  placement.wire.source.kind = .externalInput ∧ placement.input.val = 8 + channel.val

theorem hasInput_enable :
    (enable switches placement).hasInput channel.val = true ↔
      placement.Injects channel ∨ switches.hasInput channel.val = true := by
  unfold enable Injects
  rw [← AuxSwitches.channelOf?_eq_some_iff]
  cases source : placement.wire.source.kind with
  | externalInput =>
      cases onChannel : AuxSwitches.channelOf? placement.input with
      | none =>
          simp
      | some found =>
          dsimp only
          rw [AuxSwitches.hasInput_setInput, ← Fin.ext_iff]
          simp
  | constant => simp [AuxSwitches.setReference, AuxSwitches.hasInput]
  | _ => simp

theorem reference_enable :
    (enable switches placement).reference = true ↔
      placement.wire.source.kind = .constant ∨ switches.reference = true := by
  unfold enable
  cases source : placement.wire.source.kind with
  | externalInput =>
      cases AuxSwitches.channelOf? placement.input <;> simp [AuxSwitches.setInput]
  | constant => simp [AuxSwitches.setReference]
  | _ => simp

theorem hasInput_foldl_enable :
    (placements.foldl enable switches).hasInput channel.val = true ↔
      (∃ placement ∈ placements, placement.Injects channel) ∨
        switches.hasInput channel.val = true := by
  induction placements generalizing switches with
  | nil =>
      simp
  | cons placement rest inductionHypothesis =>
      rw [List.foldl_cons, inductionHypothesis, hasInput_enable]
      simp only [List.mem_cons, exists_eq_or_imp]
      rw [or_left_comm, or_assoc]

theorem reference_foldl_enable :
    (placements.foldl enable switches).reference = true ↔
      (∃ placement ∈ placements, placement.wire.source.kind = .constant) ∨
        switches.reference = true := by
  induction placements generalizing switches with
  | nil =>
      simp
  | cons placement rest inductionHypothesis =>
      rw [List.foldl_cons, inductionHypothesis, reference_enable]
      simp only [List.mem_cons, exists_eq_or_imp]
      rw [or_left_comm, or_assoc]

/-- A channel is on exactly when some placement injects it. -/
theorem hasInput_switches :
    (Placement.switches placements).hasInput channel.val = true ↔
      ∃ placement ∈ placements, placement.Injects channel := by
  rw [Placement.switches, hasInput_foldl_enable]
  simp [AuxSwitches.hasInput_off]

/-- The reference is on exactly when some placement starts at a constant. -/
theorem reference_switches :
    (Placement.switches placements).reference = true ↔
      ∃ placement ∈ placements, placement.wire.source.kind = .constant := by
  rw [Placement.switches, reference_foldl_enable]
  simp [AuxSwitches.off]

end Switches

/-! ## Hidden sources -/

section Hidden

variable {switches : AuxSwitches}

/-- The source is a port of a block and an auxiliary signal has taken over its
cross-lane. -/
def Hidden (layout : Layout) (switches : AuxSwitches) (placement : Placement) : Prop :=
  ∃ crossLane, layout.crossLaneOf placement.wire.source = some crossLane ∧
    switches.Overrides crossLane

instance (layout : Layout) (switches : AuxSwitches) (placement : Placement) :
    Decidable (placement.Hidden layout switches) :=
  inferInstanceAs (Decidable (∃ _, _))

theorem hidden_iff_of_wired {crossLane : CrossLane}
    (wired : layout.crossLaneOf placement.wire.source = some crossLane) :
    placement.Hidden layout switches ↔ switches.Overrides crossLane := by
  simp [Hidden, wired]

theorem not_hidden_of_isVirtual (isVirtual : placement.wire.source.kind.isVirtual = true) :
    ¬placement.Hidden layout switches := by
  rintro ⟨crossLane, wired, _⟩
  rw [Layout.isVirtual_of_crossLaneOf wired] at isVirtual
  cases isVirtual

/-- Shadows fall on hidden sources and on no others. -/
theorem shadow?_eq_none_iff
    (feeds : Feeds layout placement.wire.source placement.input) :
    shadow? switches placement = none ↔ ¬placement.Hidden layout switches := by
  cases feeds with
  | channel channel kind number place =>
      have isVirtual : placement.wire.source.kind.isVirtual = true := by
        rw [kind]
        rfl
      have noReference : switches.carriesReference placement.input = false := by
        rw [← Bool.not_eq_true, AuxSwitches.carriesReference_iff]
        omega
      have ownChannel : ∀ found, switches.activeInput? placement.input = some found →
          found = channel := by
        intro found active
        have foundPlace := (AuxSwitches.activeInput?_eq_some_iff.mp active).1
        exact Fin.ext (by omega)
      refine iff_of_true ?_ (not_hidden_of_isVirtual isVirtual)
      cases active : switches.activeInput? placement.input with
      | none =>
          simp [shadow?, active, noReference]
      | some found =>
          simp [shadow?, active, noReference, kind, number, ownChannel found active]
  | reference kind place =>
      have isVirtual : placement.wire.source.kind.isVirtual = true := by
        rw [kind]
        rfl
      have noChannel : switches.activeInput? placement.input = none :=
        AuxSwitches.activeInput?_eq_none_of_lower (by omega)
      refine iff_of_true ?_ (not_hidden_of_isVirtual isVirtual)
      simp [shadow?, noChannel, kind]
  | block wired =>
      have noInput : placement.wire.source.kind ≠ .externalInput :=
        Layout.kind_ne_of_crossLaneOf wired rfl
      have noConstant : placement.wire.source.kind ≠ .constant :=
        Layout.kind_ne_of_crossLaneOf wired rfl
      rw [hidden_iff_of_wired wired, AuxSwitches.not_overrides_iff]
      cases active : switches.activeInput? placement.input with
      | none =>
          cases carries : switches.carriesReference placement.input <;>
            simp [shadow?, active, carries, noConstant]
      | some found =>
          simp [shadow?, active, noInput]

end Hidden

end Placement

end Crossbar
