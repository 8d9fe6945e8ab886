import Crossbar.Proofs.Recompile
import Mathlib.Data.List.Range

/-!
# What an expansion consists of

A tap on an upper lane is heard by nobody, and expanding routes skips and reports
exactly those taps.  Every other route stays, in order, as two connections through the
potentiometer of its lane, and all connections can be made.  Constants are numbered
in the order of the routes that read the reference; a skipped route takes no number.
-/

namespace Crossbar

/-- A tap on a lane that no sink listens to. -/
def Route.IsUnheard (route : Route) : Prop := route.output = none ∧ 16 ≤ route.lane.val

instance : DecidablePred Route.IsUnheard :=
  fun route => inferInstanceAs (Decidable (route.output = none ∧ 16 ≤ route.lane.val))

namespace Expansion

variable {layout : Layout} {switches : AuxSwitches} {route : Route} {routes rest : List Route}
  {constants : Nat} {source target sink : Port} {strand : Strand}

/-- A strand starts at the signal on its cross-lane and ends where its route does.  The
numbers of constants on the reference are left open. -/
structure Leads (layout : Layout) (switches : AuxSwitches) (strand : Strand) : Prop where
  channel : ∀ channel : Channel, strand.route.input.val = 8 + channel.val →
    switches.hasInput channel.val = true →
      strand.wire.source = .externalInput channel.val.toUInt32
  own : ¬switches.Overrides strand.route.input →
    strand.wire.source = layout.portAt strand.route.input .source
  output : ∀ output, strand.route.output = some output →
    strand.wire.target = layout.portAt output .sink
  /-- A tap ends at the one sink that has its lane reserved. -/
  tap : strand.route.output = none → ∀ sink : Port,
    sink.kind.reservedLane sink.number.toNat = some strand.lane ↔ sink = strand.wire.target

/-- An expansion consists of strands, of which some start at numbered constants. -/
structure Expands (layout : Layout) (switches : AuxSwitches) (routes : List Route)
    (strands : List Strand) (constants : Nat) (expansion : Traced (List Connection)) :
    Prop where
  kept : strands.map Strand.route = routes.filter fun route => ¬route.IsUnheard
  halves : expansion.value = strands.flatMap fun strand =>
    let lane := strand.lane.val.toUInt32
    let state := some (State.potentiometer strand.route.coefficient)
    [⟨⟨strand.wire.source, none⟩, ⟨.potentiometer lane .sink, state⟩⟩,
      ⟨⟨.potentiometer lane .source, state⟩, ⟨strand.wire.target, none⟩⟩]
  leads : ∀ strand ∈ strands, Leads layout switches strand
  numbered : (strands.filter fun strand => switches.carriesReference strand.route.input).map
      (fun strand => strand.wire.source) =
    (List.range constants).map fun number => .constant number.toUInt32
  connectable : ∀ connection ∈ expansion.value,
    Connection.checked connection.source connection.target = .ok connection
  reported : expansion.events =
    (routes.filter fun route => route.IsUnheard).map .tapUnheard ++
      [.expanded routes.length expansion.value.length constants]

/-! ## Routes that are heard -/

theorem isHeard_eq (layout : Layout) (route : Route) :
    isHeard layout route = decide ¬route.IsUnheard := by
  have unheard : target? layout route = none ↔ route.IsUnheard := target?_eq_none_iff
  by_cases isUnheard : route.IsUnheard
  · simp [isHeard, unheard.mpr isUnheard, isUnheard]
  · simpa [isHeard, isUnheard, Option.isSome_iff_ne_none] using mt unheard.mp isUnheard

theorem events_ofRoutes (layout : Layout) (switches : AuxSwitches) (constants : Nat)
    (routes : List Route) :
    (ofRoutes layout switches constants routes).events =
      (routes.filter fun route => route.IsUnheard).map .tapUnheard := by
  induction routes generalizing constants with
  | nil =>
      rfl
  | cons route rest inductionHypothesis =>
      have heardIff := isHeard_eq layout route
      rw [ofRoutes]
      cases ends : target? layout route with
      | none =>
          have isUnheard : route.IsUnheard := target?_eq_none_iff.mp ends
          rw [List.filter_cons_of_pos (by simpa using isUnheard), List.map_cons,
            ← inductionHypothesis constants]
          rfl
      | some target =>
          have isHeard : ¬route.IsUnheard := by
            simpa [Expansion.isHeard, ends] using heardIff
          rw [List.filter_cons_of_neg (by simpa using isHeard),
            ← inductionHypothesis (nextConstant switches constants route)]
          exact List.append_nil _

/-! ## Numbers of constants -/

/-- No external input is on the cross-lane of the reference. -/
theorem startsAtReference_eq (switches : AuxSwitches) (route : Route) :
    startsAtReference switches route = switches.carriesReference route.input := by
  unfold startsAtReference
  cases carries : switches.carriesReference route.input with
  | false =>
      rw [Bool.and_false]
  | true =>
      have place := (AuxSwitches.carriesReference_iff.mp carries).2
      rw [AuxSwitches.activeInput?_eq_none_of_lower (by omega)]
      rfl

theorem source_of_carriesReference (carries : switches.carriesReference route.input = true) :
    Expansion.source layout switches route constants = .constant constants.toUInt32 := by
  have place := (AuxSwitches.carriesReference_iff.mp carries).2
  exact source_of_reference (AuxSwitches.activeInput?_eq_none_of_lower (by omega)) carries

/-- Constants are numbered in order, starting from the number of those before. -/
theorem numbered_strands (layout : Layout) (switches : AuxSwitches) (constants : Nat)
    (routes : List Route) :
    ((strands layout switches constants routes).filter fun strand =>
        switches.carriesReference strand.route.input).map (fun strand => strand.wire.source) =
      (List.range' constants (routes.countP fun route =>
        isHeard layout route && startsAtReference switches route)).map
          fun number => .constant number.toUInt32 := by
  induction routes generalizing constants with
  | nil =>
      rfl
  | cons route rest inductionHypothesis =>
      cases ends : target? layout route with
      | none =>
          rw [strands_unheard ends, inductionHypothesis,
            List.countP_cons_of_neg (by simp [isHeard, ends])]
      | some target =>
          have heard : isHeard layout route = true := by simp [isHeard, ends]
          rw [strands_heard ends, List.filter_cons]
          by_cases carries : switches.carriesReference route.input = true
          · have starts : startsAtReference switches route = true := by
              rw [startsAtReference_eq, carries]
            rw [if_pos carries, List.map_cons, inductionHypothesis,
              List.countP_cons_of_pos (by simp [heard, starts]), List.range'_succ, List.map_cons,
              source_of_carriesReference carries, nextConstant, if_pos starts]
          · have passes : ¬startsAtReference switches route = true := by
              rwa [startsAtReference_eq]
            rw [if_neg carries, inductionHypothesis,
              List.countP_cons_of_neg (by simp [passes]), nextConstant, if_neg passes]

/-! ## Ends of strands -/

theorem leads_of_mem (member : strand ∈ strands layout switches constants routes) :
    Leads layout switches strand := by
  obtain ⟨_, ends, number, starts⟩ := mem_strands member
  refine ⟨?_, ?_, ?_, ?_⟩
  · intro channel place on
    rw [starts]
    exact source_of_activeInput (AuxSwitches.activeInput?_eq_some_iff.mpr ⟨place, on⟩)
  · intro own
    rw [starts]
    exact source_of_own own
  · intro output leaves
    rw [target?_of_output leaves] at ends
    exact (Option.some.inj ends).symm
  · intro tap sink
    rw [target?_of_tap tap] at ends
    have reserved := (listener_reserves ends).2.2
    constructor
    · intro sinkReserves
      exact (Port.listensTo_of_reservedLane sinkReserves).eq
        (Port.listensTo_of_reservedLane reserved)
    · rintro rfl
      exact reserved

/-! ## Connections -/

theorem wellShaped_of_mem_halves (member : strand ∈ strands layout switches constants routes)
    {connection : Connection} (isHalf : connection ∈ strand.halves) :
    connection.wire.WellShaped := by
  obtain ⟨_, ends, number, starts⟩ := mem_strands member
  obtain ⟨notFromSink, leaves, sourceKind⟩ :=
    source_shape layout switches strand.route number
  obtain ⟨notIntoSource, enters, targetKind⟩ := target_shape ends
  rw [← starts] at notFromSink leaves sourceKind
  rw [Strand.halves, Expansion.halves, List.mem_pair] at isHalf
  rcases isHalf with rfl | rfl
  · refine ⟨notFromSink, rfl, leaves, rfl, ?_⟩
    rintro ⟨_, _, same⟩
    exact sourceKind (same.mpr rfl)
  · refine ⟨rfl, notIntoSource, rfl, enters, ?_⟩
    rintro ⟨_, _, same⟩
    exact targetKind (same.mp rfl)

theorem checked_of_wellShaped {connection : Connection} (shape : connection.wire.WellShaped) :
    Connection.checked connection.source connection.target = .ok connection := by
  have noFault : Wire.shapeFault? ⟨connection.source.port, connection.target.port⟩ = none :=
    Wire.shapeFault?_eq_none_iff.mpr shape
  rw [Connection.checked, noFault]

/-! ## The theorem -/

/-- Expanding routes keeps all but the taps that nobody hears. -/
theorem exists_expands (layout : Layout) (switches : AuxSwitches) (routes : List Route) :
    ∃ strands constants,
      Expands layout switches routes strands constants (expand layout switches routes) := by
  have halves : (expand layout switches routes).value =
      (strands layout switches 0 routes).flatMap Strand.halves :=
    value_ofRoutes layout switches 0 routes
  have kept : (strands layout switches 0 routes).map Strand.route =
      routes.filter fun route => ¬route.IsUnheard := by
    rw [map_route_strands]
    exact List.filter_congr fun route _ => isHeard_eq layout route
  have numbered := numbered_strands layout switches 0 routes
  rw [← List.range_eq_range'] at numbered
  refine ⟨_, _, kept, halves, fun _ member => leads_of_mem member, numbered, ?_, ?_⟩
  · intro connection member
    rw [halves, List.mem_flatMap] at member
    obtain ⟨strand, isStrand, isHalf⟩ := member
    exact checked_of_wellShaped (wellShaped_of_mem_halves isStrand isHalf)
  · rw [← events_ofRoutes layout switches 0]
    rfl

/-- The first route reads the reference on a lane that nobody hears, so the constant of the
second has the number zero. -/
example :
    ((expand .standard (AuxSwitches.off.setReference true)
      [⟨20, 7, 0.5, none⟩, ⟨3, 7, 0.5, some 8⟩]).value.map fun connection =>
        connection.source.port) =
      [.constant 0, .potentiometer 3 .source] := by
  decide +kernel

end Expansion

end Crossbar
