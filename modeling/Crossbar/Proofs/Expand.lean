import Crossbar.Proofs.Compile
import Crossbar.Routing.Expand

/-!
# Where expanded routes start and end

An expanded route starts at the port whose signal its cross-lane carries, up to
the number of a constant, and it ends at the port wired to its output.  A tap ends
at the listener of its lane, and only the first sixteen lanes have one.
-/

namespace Crossbar

/-! ## Ports of virtual elements -/

namespace Port

/-- Two ports are the same, except that constants may have different numbers. -/
def SameUpToConstant (first second : Port) : Prop :=
  first = second ∨ (first.kind = .constant ∧ second.kind = .constant)

theorem eq_externalInput {port : Port} {channel : Channel} (kind : port.kind = .externalInput)
    (number : port.number.toNat = channel.val) :
    port = .externalInput channel.val.toUInt32 := by
  obtain ⟨⟨portKind, portNumber⟩, terminal, listed⟩ := port
  change portKind = .externalInput at kind
  change portNumber.toNat = channel.val at number
  subst kind
  have onlyTerminal : terminal = .source := by
    simpa [Kind.terminals, Kind.inputs, Kind.outputs] using listed
  subst onlyTerminal
  have sameNumber : portNumber = channel.val.toUInt32 := by
    rw [← number]
    simp
  subst sameNumber
  rfl

end Port

/-- A sink listens to a lane: the first eight lanes belong to converter channels and
the next eight to external outputs. -/
inductive Port.ListensTo (port : Port) (lane : Lane) : Prop
  | converter (kind : port.kind = .converter) (channel : port.number.toNat < 8)
      (place : lane.val = port.number.toNat)
  | externalOutput (kind : port.kind = .externalOutput) (channel : port.number.toNat < 8)
      (place : lane.val = 8 + port.number.toNat)

theorem Port.listensTo_of_reservedLane {port : Port} {lane : Lane}
    (reserved : port.kind.reservedLane port.number.toNat = some lane) : port.ListensTo lane := by
  cases kind : port.kind with
  | converter =>
      rw [kind] at reserved
      obtain ⟨channel, place⟩ := Option.ite_none_right_eq_some.mp reserved
      exact Port.ListensTo.converter kind channel (Lane.ofNat?_eq_some_iff.mp place).symm
  | externalOutput =>
      rw [kind] at reserved
      obtain ⟨channel, place⟩ := Option.ite_none_right_eq_some.mp reserved
      exact Port.ListensTo.externalOutput kind channel (Lane.ofNat?_eq_some_iff.mp place).symm
  | _ => simp [kind, Kind.reservedLane] at reserved

theorem Port.ListensTo.element_eq {first second : Port} {lane : Lane}
    (listens : first.ListensTo lane) (alsoListens : second.ListensTo lane) :
    first.element = second.element := by
  have same (kinds : first.kind = second.kind)
      (numbers : first.number.toNat = second.number.toNat) : first.element = second.element := by
    cases firstElement : first.element
    cases secondElement : second.element
    simp_all [Port.kind, Port.number, UInt32.toNat_inj]
  cases listens with
  | converter kind channel place =>
      cases alsoListens with
      | converter alsoKind _ alsoPlace => exact same (kind.trans alsoKind.symm) (by omega)
      | externalOutput _ _ alsoPlace => omega
  | externalOutput kind channel place =>
      cases alsoListens with
      | converter _ alsoChannel alsoPlace => omega
      | externalOutput alsoKind _ alsoPlace => exact same (kind.trans alsoKind.symm) (by omega)

theorem Port.ListensTo.lt {port : Port} {lane : Lane} (listens : port.ListensTo lane) :
    lane.val < 16 := by
  cases listens <;> omega

/-- A lane has one listener at most. -/
theorem Port.ListensTo.eq {first second : Port} {lane : Lane} (listens : first.ListensTo lane)
    (alsoListens : second.ListensTo lane) : first = second := by
  have sameElement := listens.element_eq alsoListens
  have terminals {port : Port} (listens : port.ListensTo lane) :
      port.element.kind.terminals = [.sink] := by
    cases listens with
    | converter kind => exact congrArg Kind.terminals kind
    | externalOutput kind => exact congrArg Kind.terminals kind
  have onlyTerminal := terminals listens
  obtain ⟨element, firstTerminal, firstListed⟩ := first
  obtain ⟨_, secondTerminal, secondListed⟩ := second
  change element = _ at sameElement
  subst sameElement
  change element.kind.terminals = [.sink] at onlyTerminal
  rw [onlyTerminal, List.mem_singleton] at firstListed secondListed
  subst firstListed secondListed
  rfl

namespace Expansion

variable {layout : Layout} {switches : AuxSwitches} {route : Route} {routes rest : List Route}
  {constants : Nat} {target : Port}

/-! ## Targets -/

theorem isSome_listener? (lane : Lane) : (listener? lane).isSome = true ↔ lane.val < 16 := by
  revert lane
  decide

/-- The routes that are skipped are the taps on the upper lanes. -/
theorem target?_eq_none_iff :
    target? layout route = none ↔ route.output = none ∧ 16 ≤ route.lane.val := by
  unfold target?
  cases output : route.output with
  | some crossLane =>
      simp
  | none =>
      rw [← Option.not_isSome_iff_eq_none, isSome_listener?]
      simp

theorem target?_of_output {output : CrossLane} (leaves : route.output = some output) :
    target? layout route = some (layout.portAt output .sink) := by
  rw [target?, leaves]

theorem target?_of_tap (tap : route.output = none) :
    target? layout route = listener? route.lane := by
  rw [target?, tap]

/-- Whoever listens to a lane is a sink that has the lane reserved. -/
theorem listener_reserves {lane : Lane} (listens : listener? lane = some target) :
    target.kind.isSink = true ∧ target.direction = .sink ∧
      target.kind.reservedLane target.number.toNat = some lane := by
  have everyLane : ∀ lane, ∀ listener ∈ listener? lane, listener.kind.isSink = true ∧
      listener.direction = .sink ∧
      listener.kind.reservedLane listener.number.toNat = some lane := by
    decide
  exact everyLane lane target listens

/-- Signals enter through targets, which are no sources and no potentiometers. -/
theorem target_shape (ends : target? layout route = some target) :
    target.kind.isSource = false ∧ target.direction = .sink ∧
      target.kind ≠ .potentiometer := by
  cases output : route.output with
  | some crossLane =>
      rw [target?_of_output output, Option.some.injEq] at ends
      rw [← ends]
      have enters := Layout.direction_portAt layout crossLane .sink
      rcases Layout.kind_portAt_sink layout crossLane with kind | kind <;> rw [kind] <;>
        exact ⟨rfl, enters, by decide⟩
  | none =>
      rw [target?_of_tap output] at ends
      obtain ⟨isSink, enters, _⟩ := listener_reserves ends
      rcases Placement.isSink_iff.mp isSink with kind | kind <;> rw [kind] <;>
        exact ⟨rfl, enters, by decide⟩

/-! ## Sources -/

/-- Signals leave through sources, which are no sinks and no potentiometers. -/
theorem source_shape (layout : Layout) (switches : AuxSwitches) (route : Route)
    (constants : Nat) :
    (source layout switches route constants).kind.isSink = false ∧
      (source layout switches route constants).direction = .source ∧
      (source layout switches route constants).kind ≠ .potentiometer := by
  unfold source
  split
  · exact ⟨rfl, rfl, nofun⟩
  · split
    · exact ⟨rfl, rfl, nofun⟩
    · have leaves := Layout.direction_portAt layout route.input .source
      rcases Layout.kind_portAt_source layout route.input with kind | kind | kind <;>
        rw [kind] <;> exact ⟨rfl, leaves, by decide⟩

/-- The numbers of constants do not change the kind of a source. -/
theorem kind_source (first second : Nat) :
    (source layout switches route first).kind = (source layout switches route second).kind := by
  unfold source
  split
  · rfl
  · split <;> rfl

theorem source_of_activeInput {channel : Channel}
    (active : switches.activeInput? route.input = some channel) :
    source layout switches route constants = .externalInput channel.val.toUInt32 := by
  rw [source, active]

theorem source_of_reference (noChannel : switches.activeInput? route.input = none)
    (carries : switches.carriesReference route.input = true) :
    source layout switches route constants = .constant constants.toUInt32 := by
  rw [source, noChannel]
  simp [carries]

theorem source_of_own (own : ¬switches.Overrides route.input) :
    source layout switches route constants = layout.portAt route.input .source := by
  obtain ⟨noChannel, noReference⟩ := AuxSwitches.not_overrides_iff.mp own
  rw [source, noChannel]
  simp [noReference]

/-- An expanded route starts at the port whose signal it reads. -/
theorem source_of_carries {port : Port}
    (carries : Compilation.Carries layout switches port route.input)
    (leavesOutput : port.direction = .source) :
    (source layout switches route constants).SameUpToConstant port := by
  cases carries with
  | channel channel kind number place on =>
      have active := AuxSwitches.activeInput?_eq_some_iff.mpr ⟨place, on⟩
      rw [source_of_activeInput active, ← Port.eq_externalInput kind number]
      exact Or.inl rfl
  | reference kind place on =>
      have noChannel : switches.activeInput? route.input = none :=
        AuxSwitches.activeInput?_eq_none_of_lower (by omega)
      have reference := AuxSwitches.carriesReference_iff.mpr ⟨on, place⟩
      rw [source_of_reference noChannel reference]
      exact Or.inr ⟨rfl, kind⟩
  | block wired own =>
      rw [source_of_own own, ← leavesOutput, Layout.portAt_of_crossLaneOf wired]
      exact Or.inl rfl

/-! ## Expanding a list -/

theorem value_expand (layout : Layout) (switches : AuxSwitches) (routes : List Route) :
    (expand layout switches routes).value = (ofRoutes layout switches 0 routes).value :=
  rfl

/-- The number of the next constant. -/
def nextConstant (switches : AuxSwitches) (constants : Nat) (route : Route) : Nat :=
  if startsAtReference switches route then constants + 1 else constants

theorem value_ofRoutes_unheard (unheard : target? layout route = none) :
    (ofRoutes layout switches constants (route :: rest)).value =
      (ofRoutes layout switches constants rest).value := by
  rw [ofRoutes, unheard]
  simp

theorem value_ofRoutes_heard (heard : target? layout route = some target) :
    (ofRoutes layout switches constants (route :: rest)).value =
      halves route (source layout switches route constants) target ++
        (ofRoutes layout switches (nextConstant switches constants route) rest).value := by
  rw [ofRoutes, heard]
  simp [nextConstant]

end Expansion

end Crossbar
