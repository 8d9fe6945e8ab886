import Crossbar.Proofs.StrandCompile

/-!
# Compiling what was expanded

Expanding routes and compiling the result keeps the routes.  This holds for
routes of any origin on distinct lanes with coefficients in range, as long as
each of them reads a signal and ends somewhere: at an output, or as an unweighted
tap on a lane with a listener that reads a port of a block.
-/

namespace Crossbar

namespace Expansion

variable {layout : Layout} {switches : AuxSwitches} {route : Route} {routes rest : List Route}
  {constants : Nat} {target : Port} {strand : Strand}

/-! ## The strands of routes -/

/-- The strands of the routes that are expanded. -/
def strands (layout : Layout) (switches : AuxSwitches) (constants : Nat) :
    List Route → List Strand
  | [] => []
  | route :: rest =>
    match target? layout route with
    | none => strands layout switches constants rest
    | some target =>
      ⟨route, source layout switches route constants, target⟩ ::
        strands layout switches (nextConstant switches constants route) rest

theorem strands_unheard (unheard : target? layout route = none) :
    strands layout switches constants (route :: rest) =
      strands layout switches constants rest := by
  rw [strands, unheard]

theorem strands_heard (heard : target? layout route = some target) :
    strands layout switches constants (route :: rest) =
      ⟨route, source layout switches route constants, target⟩ ::
        strands layout switches (nextConstant switches constants route) rest := by
  rw [strands, heard]

theorem value_ofRoutes (layout : Layout) (switches : AuxSwitches) (constants : Nat)
    (routes : List Route) :
    (ofRoutes layout switches constants routes).value =
      (strands layout switches constants routes).flatMap Strand.halves := by
  induction routes generalizing constants with
  | nil =>
      rfl
  | cons route rest inductionHypothesis =>
      cases expanded : target? layout route with
      | none =>
          rw [value_ofRoutes_unheard expanded, strands_unheard expanded,
            inductionHypothesis constants]
      | some target =>
          rw [value_ofRoutes_heard expanded, strands_heard expanded, List.flatMap_cons,
            inductionHypothesis]
          rfl

/-- A strand leads from the source of its route to the target. -/
theorem mem_strands (member : strand ∈ strands layout switches constants routes) :
    strand.route ∈ routes ∧ target? layout strand.route = some strand.wire.target ∧
      ∃ number, strand.wire.source = source layout switches strand.route number := by
  induction routes generalizing constants with
  | nil =>
      cases member
  | cons route rest inductionHypothesis =>
      cases expanded : target? layout route with
      | none =>
          rw [strands_unheard expanded] at member
          obtain ⟨inRest, ends, starts⟩ := inductionHypothesis member
          exact ⟨List.mem_cons_of_mem _ inRest, ends, starts⟩
      | some target =>
          rw [strands_heard expanded] at member
          rcases List.mem_cons.mp member with rfl | later
          · exact ⟨List.mem_cons_self .., expanded, constants, rfl⟩
          · obtain ⟨inRest, ends, starts⟩ := inductionHypothesis later
            exact ⟨List.mem_cons_of_mem _ inRest, ends, starts⟩

/-- The routes that are heard have a strand each. -/
theorem map_route_strands (layout : Layout) (switches : AuxSwitches) (constants : Nat)
    (routes : List Route) :
    (strands layout switches constants routes).map Strand.route =
      routes.filter (isHeard layout) := by
  induction routes generalizing constants with
  | nil =>
      rfl
  | cons route rest inductionHypothesis =>
      cases expanded : target? layout route with
      | none =>
          rw [strands_unheard expanded, List.filter_cons_of_neg (by simp [isHeard, expanded]),
            inductionHypothesis]
      | some target =>
          rw [strands_heard expanded, List.filter_cons_of_pos (by simp [isHeard, expanded]),
            List.map_cons, inductionHypothesis]

theorem map_route_strands_of_heard (heard : ∀ route ∈ routes, target? layout route ≠ none) :
    (strands layout switches constants routes).map Strand.route = routes := by
  rw [map_route_strands, List.filter_eq_self]
  exact fun route member => Option.isSome_iff_ne_none.mpr (heard route member)

/-! ## Routes that survive -/

/-- A route reads a signal and ends somewhere. -/
structure Recompilable (layout : Layout) (switches : AuxSwitches) (route : Route) : Prop where
  ranged : -20.0 ≤ route.coefficient ∧ route.coefficient ≤ 20.0
  /-- The cross-lane has an enabled auxiliary signal or belongs to a block. -/
  fed : switches.Overrides route.input ∨
    (layout.portAt route.input .source).kind = .multiplier ∨
    (layout.portAt route.input .source).kind = .integrator
  /-- There is an output, or else an unweighted tap of a block where a sink listens. -/
  heard : route.output ≠ none ∨
    (route.coefficient = 0.0 ∧ route.lane.val < 16 ∧
      ((source layout switches route 0).kind = .multiplier ∨
        (source layout switches route 0).kind = .integrator))

instance (layout : Layout) (switches : AuxSwitches) (route : Route) :
    Decidable (Recompilable layout switches route) :=
  decidable_of_iff
    ((-20.0 ≤ route.coefficient ∧ route.coefficient ≤ 20.0) ∧
      (switches.Overrides route.input ∨
        (layout.portAt route.input .source).kind = .multiplier ∨
        (layout.portAt route.input .source).kind = .integrator) ∧
      (route.output ≠ none ∨ (route.coefficient = 0.0 ∧ route.lane.val < 16 ∧
        ((source layout switches route 0).kind = .multiplier ∨
          (source layout switches route 0).kind = .integrator))))
    ⟨fun ⟨ranged, fed, heard⟩ => ⟨ranged, fed, heard⟩,
      fun ⟨ranged, fed, heard⟩ => ⟨ranged, fed, heard⟩⟩

theorem Recompilable.target?_ne_none (recompilable : Recompilable layout switches route) :
    target? layout route ≠ none := by
  rw [Ne, target?_eq_none_iff, not_and_or, not_le]
  rcases recompilable.heard with leaves | ⟨_, listened, _⟩
  · exact Or.inl leaves
  · exact Or.inr listened

/-- The source of a route that reads a signal is the port whose signal it is. -/
theorem carries_source (fed : switches.Overrides route.input ∨
      (layout.portAt route.input .source).kind = .multiplier ∨
      (layout.portAt route.input .source).kind = .integrator) :
    Compilation.Carries layout switches (source layout switches route constants)
      route.input := by
  by_cases overridden : switches.Overrides route.input
  · rcases overridden with ⟨channel, place, on⟩ | ⟨place, on⟩
    · rw [source_of_activeInput (AuxSwitches.activeInput?_eq_some_iff.mpr ⟨place, on⟩)]
      refine Compilation.Carries.channel channel rfl ?_ place on
      exact toNat_toUInt32_of_lt (by omega)
    · have noChannel : switches.activeInput? route.input = none :=
        AuxSwitches.activeInput?_eq_none_of_lower (by omega)
      rw [source_of_reference noChannel (AuxSwitches.carriesReference_iff.mpr ⟨on, place⟩)]
      exact Compilation.Carries.reference rfl place on
  · have block := fed.resolve_left overridden
    rw [source_of_own overridden]
    refine Compilation.Carries.block (Layout.crossLaneOf_portAt_source ?_) overridden
    rcases block with kind | kind <;> simp [kind]

/-! ## The ends of strands -/

/-- Strands of routes with a coefficient in range are sound. -/
theorem sound_resolved (ranged : Link.inRange route.coefficient = true)
    (ends : target? layout route = some target) :
    (Strand.resolved ⟨route, source layout switches route constants, target⟩).Sound := by
  obtain ⟨notFromSink, leaves, sourceKind⟩ := source_shape layout switches route constants
  obtain ⟨notIntoSource, enters, targetKind⟩ := target_shape ends
  refine ⟨notFromSink, notIntoSource, leaves, enters, sourceKind, targetKind, ?_⟩
  intro coefficient chosen
  cases chosen
  exact ranged

/-- Routes that survive make fitting strands. -/
theorem fits_of_recompilable (recompilable : Recompilable layout switches route)
    (ends : target? layout route = some target) :
    Strand.Fits layout switches ⟨route, source layout switches route constants, target⟩ := by
  have reads : Compilation.Carries layout switches
      (source layout switches route constants) route.input := carries_source recompilable.fed
  have ranged := Link.inRange_of_bounds recompilable.ranged.1 recompilable.ranged.2
  refine ⟨sound_resolved ranged ends, ?_, reads⟩
  cases output : route.output with
  | some crossLane =>
      refine Strand.placed_of_output reads output ?_
      rw [target?_of_output output, Option.some.injEq] at ends
      rw [← ends]
      exact Layout.crossLaneOf_portAt_sink layout crossLane
  | none =>
      obtain ⟨unweighted, _, block⟩ := recompilable.heard.resolve_left (not_not.mpr output)
      rw [target?_of_tap output] at ends
      obtain ⟨isSink, _, reserved⟩ := listener_reserves ends
      rw [kind_source 0 constants] at block
      exact Strand.placed_of_tap (reads.wired_of_block block) output unweighted isSink reserved

theorem fits_of_mem_strands (recompilable : ∀ route ∈ routes, Recompilable layout switches route)
    (member : strand ∈ strands layout switches constants routes) :
    strand.Fits layout switches := by
  obtain ⟨inRoutes, ends, number, starts⟩ := mem_strands member
  obtain ⟨route, wire⟩ := strand
  obtain ⟨wireSource, wireTarget⟩ := wire
  change wireSource = source layout switches route number at starts
  rw [starts]
  exact fits_of_recompilable (recompilable route inRoutes) ends

/-! ## Compiling again -/

/-- What compiling the expansion of routes gives. -/
structure Recompiled (layout : Layout) (switches : AuxSwitches) (routes : List Route)
    (routing : Routing) : Prop where
  noErrors : routing.errors = []
  signals : (routing.routes.map Route.signal).Perm (routes.map Route.signal)
  /-- The channels that are on are the enabled ones that some route reads. -/
  inputs : ∀ channel : Channel, routing.switches.hasInput channel.val = true ↔
    switches.hasInput channel.val = true ∧ ∃ route ∈ routes, route.input.val = 8 + channel.val
  reference : routing.switches.reference = true ↔
    switches.reference = true ∧ ∃ route ∈ routes, route.input.val = 7
  /-- Lanes stay when every route that reads a channel is on the lane of the channel. -/
  lanes : (∀ route ∈ routes, ∀ channel : Channel, route.input.val = 8 + channel.val →
      switches.hasInput channel.val = true → route.lane.val = 16 + channel.val) →
    routing.routes.Perm routes

theorem kind_source_of_input {channel : Channel} (place : route.input.val = 8 + channel.val)
    (on : switches.hasInput channel.val = true) :
    (source layout switches route constants).kind = .externalInput := by
  rw [source_of_activeInput (AuxSwitches.activeInput?_eq_some_iff.mpr ⟨place, on⟩)]
  rfl

theorem kind_source_of_reference (place : route.input.val = 7)
    (on : switches.reference = true) :
    (source layout switches route constants).kind = .constant := by
  rw [source_of_reference (AuxSwitches.activeInput?_eq_none_of_lower (by omega))
    (AuxSwitches.carriesReference_iff.mpr ⟨on, place⟩)]
  rfl

/-- Every route has its strand. -/
theorem exists_strand (recompilable : ∀ route ∈ routes, Recompilable layout switches route)
    (member : route ∈ routes) :
    ∃ strand ∈ strands layout switches constants routes, strand.route = route ∧
      ∃ number, strand.wire.source = source layout switches route number := by
  have allRoutes : (strands layout switches constants routes).map Strand.route = routes :=
    map_route_strands_of_heard fun other otherMember =>
      (recompilable other otherMember).target?_ne_none
  rw [← allRoutes] at member
  obtain ⟨strand, strandMember, rfl⟩ := List.mem_map.mp member
  obtain ⟨_, _, starts⟩ := mem_strands strandMember
  exact ⟨strand, strandMember, rfl, starts⟩

/-- A strand asks for the lane it came from if the channels are on their lanes. -/
theorem askedLane_of_ownLanes
    (recompilable : ∀ route ∈ routes, Recompilable layout switches route)
    (ownLanes : ∀ route ∈ routes, ∀ channel : Channel, route.input.val = 8 + channel.val →
      switches.hasInput channel.val = true → route.lane.val = 16 + channel.val)
    (member : strand ∈ strands layout switches constants routes) :
    strand.askedLane = some strand.lane := by
  have reads := (fits_of_mem_strands recompilable member).reads
  by_cases kind : strand.wire.source.kind = .externalInput
  · obtain ⟨channel, place, on⟩ := reads.of_externalInput kind
    have onLane := ownLanes strand.route (mem_strands member).1 channel place on
    rw [Strand.askedLane_of_channel kind place]
    exact congrArg some (Fin.ext onLane.symm)
  · exact Strand.askedLane_of_kind_ne kind

theorem recompiled_routing (distinct : (routes.map Route.lane).Nodup)
    (recompilable : ∀ route ∈ routes, Recompilable layout switches route) :
    (compile layout (expand layout switches routes).value).value =
        .ok (Compilation.routing layout (expand layout switches routes).value) ∧
      Recompiled layout switches routes
        (Compilation.routing layout (expand layout switches routes).value) := by
  have allRoutes : (strands layout switches 0 routes).map Strand.route = routes :=
    map_route_strands_of_heard fun route member => (recompilable route member).target?_ne_none
  have fits : ∀ strand ∈ strands layout switches 0 routes, strand.Fits layout switches :=
    fun strand member => fits_of_mem_strands recompilable member
  have strandsDistinct : ((strands layout switches 0 routes).map Strand.lane).Nodup := by
    rw [← allRoutes, List.map_map] at distinct
    exact distinct
  rw [value_expand, value_ofRoutes]
  refine ⟨Compilation.value_compile (Strand.unstopped_halves fits strandsDistinct),
    Strand.errors_halves fits strandsDistinct, ?_, ?_, ?_, ?_⟩
  · have signals := Strand.signals_halves fits strandsDistinct
    rwa [allRoutes] at signals
  · intro channel
    refine (Strand.hasInput_switches_halves fits strandsDistinct).trans ?_
    constructor
    · rintro ⟨strand, member, kind, place⟩
      have on := (fits strand member).reads.on_of_externalInput kind place
      exact ⟨on, strand.route, (mem_strands member).1, place⟩
    · rintro ⟨on, route, member, place⟩
      obtain ⟨strand, strandMember, rfl, number, starts⟩ :=
        exists_strand recompilable member
      refine ⟨strand, strandMember, ?_, place⟩
      rw [starts]
      exact kind_source_of_input place on
  · refine (Strand.reference_switches_halves fits strandsDistinct).trans ?_
    constructor
    · rintro ⟨strand, member, kind⟩
      obtain ⟨place, on⟩ := (fits strand member).reads.on_of_constant kind
      exact ⟨on, strand.route, (mem_strands member).1, place⟩
    · rintro ⟨on, route, member, place⟩
      obtain ⟨strand, strandMember, rfl, number, starts⟩ :=
        exists_strand recompilable member
      refine ⟨strand, strandMember, ?_⟩
      rw [starts]
      exact kind_source_of_reference place on
  · intro ownLanes
    have kept := Strand.routes_halves fits strandsDistinct fun strand member =>
      askedLane_of_ownLanes recompilable ownLanes member
    rwa [allRoutes] at kept

/-- Compiling the expansion of routes keeps the circuit. -/
theorem recompiles (distinct : (routes.map Route.lane).Nodup)
    (recompilable : ∀ route ∈ routes, Recompilable layout switches route) :
    ∃ routing, (compile layout (expand layout switches routes).value).value = .ok routing ∧
      Recompiled layout switches routes routing :=
  ⟨_, recompiled_routing distinct recompilable⟩

/-- An external input with two routes, of which neither the lane nor the order is
that of the channel, a constant, a tap and a route of a block. -/
def fannedRoutes : List Route :=
  let joined (lane input : Nat) (coefficient : Float) (output : Option Nat) : Option Route := do
    return ⟨← Lane.ofNat? lane, ← CrossLane.ofNat? input, coefficient,
      output.bind CrossLane.ofNat?⟩
  [joined 5 8 0.5 (some 9), joined 16 8 (-20.0) (some 8), joined 1 7 0.25 (some 0),
    joined 0 1 0.0 none, joined 9 12 1.0 (some 3)].reduceOption

/-- External inputs 0 and 3 and the reference; nothing reads external input 3. -/
def fannedSwitches : AuxSwitches :=
  ⟨#v[true, false, false, true, false, false, false, false], true⟩

theorem recompiles_fannedRoutes :
    (fannedRoutes.map Route.lane).Nodup ∧
      (∀ route ∈ fannedRoutes, Recompilable .standard fannedSwitches route) ∧
      ∃ routing,
        (compile .standard (expand .standard fannedSwitches fannedRoutes).value).value =
          .ok routing ∧ Recompiled .standard fannedSwitches fannedRoutes routing := by
  have distinct : (fannedRoutes.map Route.lane).Nodup := by decide
  have recompilable : ∀ route ∈ fannedRoutes, Recompilable .standard fannedSwitches route := by
    decide +kernel
  exact ⟨distinct, recompilable, recompiles distinct recompilable⟩

end Expansion

end Crossbar
