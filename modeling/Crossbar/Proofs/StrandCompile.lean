import Crossbar.Proofs.Strand

/-!
# Compiling strands

A strand fits when its wire is sound, its route is a placement of the wire, and
its cross-lane carries the source of the wire.  Compiling the halves of fitting
strands on distinct lanes loses nothing: no connection is rejected, no source is
hidden, and there is a lane for everyone.  Only lanes may change, and they stay
when every strand asks for its own lane.
-/

namespace Crossbar

namespace Strand

variable {layout : Layout} {switches : AuxSwitches} {strand : Strand} {strands : List Strand}

/-- The lane that the strand asks for when it is compiled: external inputs have a
lane of their own. -/
def askedLane (strand : Strand) : Option Lane :=
  match strand.wire.source.kind with
  | .externalInput => (AuxSwitches.channelOf? strand.route.input).map AuxSwitches.channelLane
  | _ => some strand.lane

/-- The placement of a strand. -/
def placement (strand : Strand) : Placement :=
  ⟨strand.askedLane, strand.route.input, strand.route.coefficient, strand.route.output,
    strand.wire⟩

structure Fits (layout : Layout) (switches : AuxSwitches) (strand : Strand) : Prop where
  sound : strand.resolved.Sound
  placed : Placement.Placed layout strand.resolved strand.placement
  reads : Compilation.Carries layout switches strand.wire.source strand.route.input

/-! ## Placing strands -/

theorem isVirtual_of_kind {kind : Kind} (starts : strand.wire.source.kind = kind)
    (isVirtual : kind.isVirtual = true) : strand.resolved.isVirtual = true := by
  have source : strand.resolved.wire.source.kind = kind := starts
  rw [Resolved.isVirtual, source, isVirtual, Bool.true_or]

theorem askedLane_of_channel {channel : Channel} (kind : strand.wire.source.kind = .externalInput)
    (place : strand.route.input.val = 8 + channel.val) :
    strand.askedLane = some (AuxSwitches.channelLane channel) := by
  rw [askedLane, kind]
  dsimp only
  rw [AuxSwitches.channelOf?_eq_some_iff.mpr place]
  rfl

theorem askedLane_of_kind_ne (noInput : strand.wire.source.kind ≠ .externalInput) :
    strand.askedLane = some strand.lane := by
  unfold askedLane
  split
  · contradiction
  · rfl

/-- A strand with an output is a placement of its wire. -/
theorem placed_of_output {output : CrossLane}
    (reads : Compilation.Carries layout switches strand.wire.source strand.route.input)
    (leaves : strand.route.output = some output)
    (wired : layout.crossLaneOf strand.wire.target = some output) :
    Placement.Placed layout strand.resolved strand.placement := by
  cases reads with
  | channel channel kind number place =>
      have input : strand.route.input = AuxSwitches.channelCrossLane channel := Fin.ext place
      rw [placement, askedLane_of_channel kind place, input, leaves]
      exact Placement.Placed.externalInput kind number wired
  | reference kind place =>
      have input : strand.route.input = referenceCrossLane := Fin.ext place
      rw [placement, askedLane_of_kind_ne (by simp [kind]), input, leaves]
      exact Placement.Placed.constant kind wired
  | block wiredSource =>
      have noInput : strand.wire.source.kind ≠ .externalInput :=
        Layout.kind_ne_of_crossLaneOf wiredSource rfl
      rw [placement, askedLane_of_kind_ne noInput, leaves]
      exact Placement.Placed.flexible wiredSource wired

/-- An unweighted tap of a block is a placement of its wire. -/
theorem placed_of_tap (wired : layout.crossLaneOf strand.wire.source = some strand.route.input)
    (tap : strand.route.output = none) (unweighted : strand.route.coefficient = 0.0)
    (listener : strand.wire.target.kind.isSink = true)
    (reserved : strand.wire.target.kind.reservedLane strand.wire.target.number.toNat =
      some strand.lane) :
    Placement.Placed layout strand.resolved strand.placement := by
  have noInput : strand.wire.source.kind ≠ .externalInput :=
    Layout.kind_ne_of_crossLaneOf wired rfl
  rw [placement, askedLane_of_kind_ne noInput, tap, unweighted]
  refine Placement.Placed.sink listener ?_ reserved wired
  intro coefficient chosen
  cases chosen
  rw [unweighted]
  decide

theorem outcomes_map_resolved
    (pinned : ∀ strand ∈ strands,
      Placement.pin layout strand.resolved = .ok (.ok strand.placement)) :
    Placement.outcomes layout (strands.map resolved) =
      strands.map fun strand => .ok strand.placement := by
  induction strands with
  | nil =>
      rfl
  | cons strand rest inductionHypothesis =>
      have tail := inductionHypothesis fun other member =>
        pinned other (List.mem_cons_of_mem _ member)
      rw [List.map_cons, Placement.outcomes_cons (pinned strand (List.mem_cons_self ..)), tail]
      rfl

theorem Fits.ofPosition_eq (fits : strand.Fits layout switches)
    (physical : strand.resolved.isVirtual = false) (position : Nat) :
    Placement.ofPosition layout strand.resolved position = .ok strand.placement := by
  have noInput : strand.wire.source.kind ≠ .externalInput := by
    intro kind
    rw [isVirtual_of_kind kind rfl] at physical
    cases physical
  exact Placement.ofPosition_of_placed physical rfl (askedLane_of_kind_ne noInput) fits.placed
    position

theorem value_placeAll_map_resolved
    (flexible : ∀ strand ∈ strands, ∀ position,
      Placement.ofPosition layout strand.resolved position = .ok strand.placement) :
    (Placement.placeAll layout (strands.map resolved)).value = strands.map placement ∧
      (Placement.placeAll layout (strands.map resolved)).errors = [] := by
  have results (start : Nat) :
      (((strands.map resolved).zipIdx start).map fun entry =>
        Placement.ofPosition layout entry.1 entry.2) =
        strands.map fun strand => .ok strand.placement := by
    induction strands generalizing start with
    | nil =>
        rfl
    | cons strand rest inductionHypothesis =>
        have tail := inductionHypothesis
          (fun other member => flexible other (List.mem_cons_of_mem _ member)) (start + 1)
        rw [List.map_cons, List.zipIdx_cons, List.map_cons, List.map_cons, tail,
          flexible strand (List.mem_cons_self ..)]
  rw [Placement.placeAll_eq, results, Traced.errors_collectAll, Traced.failures_map_ok]
  exact ⟨Traced.value_collectAll_map_ok _ _, rfl⟩

/-! ## The stages of strands -/

/-- The strands with a virtual element. -/
def pinned (strands : List Strand) : List Strand :=
  strands.filter fun strand => strand.resolved.isVirtual

/-- The strands between two blocks. -/
def flexible (strands : List Strand) : List Strand :=
  strands.filter fun strand => !strand.resolved.isVirtual

section Stages

variable (fits : ∀ strand ∈ strands, strand.Fits layout switches)
  (distinct : (strands.map lane).Nodup)

include fits distinct

theorem virtual_halves :
    Compilation.virtual (strands.flatMap halves) = (pinned strands).map resolved := by
  have resolvedStrands := (ofConnections_halves distinct fun strand member =>
    (fits strand member).sound).1
  rw [Compilation.virtual, resolvedStrands, List.filter_map]
  rfl

theorem physical_halves :
    Compilation.physical (strands.flatMap halves) = (flexible strands).map resolved := by
  have resolvedStrands := (ofConnections_halves distinct fun strand member =>
    (fits strand member).sound).1
  rw [Compilation.physical, resolvedStrands, List.filter_map]
  rfl

omit distinct in
theorem pin_of_mem_pinned (member : strand ∈ pinned strands) :
    Placement.pin layout strand.resolved = .ok (.ok strand.placement) := by
  obtain ⟨inStrands, isVirtual⟩ := List.mem_filter.mp member
  exact Placement.pin_of_placed isVirtual (fits strand inStrands).placed

theorem outcomes_halves :
    Placement.outcomes layout (Compilation.virtual (strands.flatMap halves)) =
      (pinned strands).map fun strand => .ok strand.placement := by
  rw [virtual_halves fits distinct]
  exact outcomes_map_resolved fun strand member => pin_of_mem_pinned fits member

theorem unstopped_halves :
    Placement.Unstopped layout (Compilation.virtual (strands.flatMap halves)) := by
  rw [virtual_halves fits distinct]
  intro resolved member
  obtain ⟨strand, inPinned, rfl⟩ := List.mem_map.mp member
  exact ⟨_, pin_of_mem_pinned fits inPinned⟩

theorem pinned_halves :
    Compilation.pinned layout (strands.flatMap halves) = (pinned strands).map placement := by
  rw [Compilation.pinned, outcomes_halves fits distinct]
  exact Traced.value_collectAll_map_ok _ _

theorem placeAll_halves :
    (Placement.placeAll layout (Compilation.physical (strands.flatMap halves))).value =
        (flexible strands).map placement ∧
      (Placement.placeAll layout (Compilation.physical (strands.flatMap halves))).errors =
        [] := by
  rw [physical_halves fits distinct]
  apply value_placeAll_map_resolved
  intro strand member position
  obtain ⟨inStrands, physical⟩ := List.mem_filter.mp member
  exact (fits strand inStrands).ofPosition_eq (by simpa using physical) position

theorem placed_halves :
    Compilation.placed layout (strands.flatMap halves) = (flexible strands).map placement :=
  (placeAll_halves fits distinct).1

/-! ## The auxiliary signals of strands -/

/-- A channel is switched on for the strands that start at it. -/
theorem hasInput_switches_halves {channel : Channel} :
    (Compilation.switches layout (strands.flatMap halves)).hasInput channel.val = true ↔
      ∃ strand ∈ strands, strand.wire.source.kind = .externalInput ∧
        strand.route.input.val = 8 + channel.val := by
  rw [Compilation.switches, Placement.hasInput_switches, pinned_halves fits distinct]
  constructor
  · rintro ⟨found, member, injects⟩
    obtain ⟨strand, inPinned, rfl⟩ := List.mem_map.mp member
    exact ⟨strand, List.mem_of_mem_filter inPinned, injects⟩
  · rintro ⟨strand, member, kind, place⟩
    have isVirtual : strand.resolved.isVirtual = true := isVirtual_of_kind kind rfl
    refine ⟨strand.placement, List.mem_map_of_mem ?_, kind, place⟩
    exact List.mem_filter.mpr ⟨member, isVirtual⟩

/-- The reference is switched on for the strands that start at a constant. -/
theorem reference_switches_halves :
    (Compilation.switches layout (strands.flatMap halves)).reference = true ↔
      ∃ strand ∈ strands, strand.wire.source.kind = .constant := by
  rw [Compilation.switches, Placement.reference_switches, pinned_halves fits distinct]
  constructor
  · rintro ⟨found, member, starts⟩
    obtain ⟨strand, inPinned, rfl⟩ := List.mem_map.mp member
    exact ⟨strand, List.mem_of_mem_filter inPinned, starts⟩
  · rintro ⟨strand, member, kind⟩
    have isVirtual : strand.resolved.isVirtual = true := isVirtual_of_kind kind rfl
    refine ⟨strand.placement, List.mem_map_of_mem ?_, kind⟩
    exact List.mem_filter.mpr ⟨member, isVirtual⟩

/-! ## The routes of strands -/

/-- The signals that are switched on were on before, so they hide nothing. -/
theorem not_hidden_halves (member : strand ∈ strands) :
    ¬strand.placement.Hidden layout
      (Compilation.switches layout (strands.flatMap halves)) := by
  cases (fits strand member).reads with
  | channel channel kind =>
      apply Placement.not_hidden_of_isVirtual
      have source : strand.placement.wire.source.kind = .externalInput := kind
      rw [source]
      rfl
  | reference kind =>
      apply Placement.not_hidden_of_isVirtual
      have source : strand.placement.wire.source.kind = .constant := kind
      rw [source]
      rfl
  | block wired own =>
      rw [Placement.hidden_iff_of_wired wired]
      rintro (⟨channel, place, on⟩ | ⟨place, on⟩)
      · obtain ⟨other, otherMember, kind, otherPlace⟩ :=
          (hasInput_switches_halves fits distinct).mp on
        have onBefore := (fits other otherMember).reads.on_of_externalInput kind otherPlace
        exact own (Or.inl ⟨channel, place, onBefore⟩)
      · obtain ⟨other, otherMember, kind⟩ := (reference_switches_halves fits distinct).mp on
        have onBefore := ((fits other otherMember).reads.on_of_constant kind).2
        exact own (Or.inr ⟨place, onBefore⟩)

/-- Nothing is dropped from a group of strands. -/
theorem routesOf_halves {group : Group} {kept : LaneSet} {part : List Strand}
    (inside : ∀ strand ∈ part, strand ∈ strands) :
    (routesOf group (Compilation.switches layout (strands.flatMap halves)) kept
        (part.map placement)).value =
        (LaneAssignment.settle group kept (part.map placement)).value ∧
      (routesOf group (Compilation.switches layout (strands.flatMap halves)) kept
        (part.map placement)).errors =
        (LaneAssignment.settle group kept (part.map placement)).errors := by
  have feeds : ∀ found ∈ part.map placement,
      Placement.Feeds layout found.wire.source found.input := by
    intro found member
    obtain ⟨strand, inPart, rfl⟩ := List.mem_map.mp member
    exact (fits strand (inside strand inPart)).placed.feeds
  have visible : ∀ found ∈ part.map placement,
      ¬found.Hidden layout (Compilation.switches layout (strands.flatMap halves)) := by
    intro found member
    obtain ⟨strand, inPart, rfl⟩ := List.mem_map.mp member
    exact not_hidden_halves fits distinct (inside strand inPart)
  obtain ⟨value, errors⟩ := Placement.dropShadowed_of_visible feeds visible
  rw [routesOf, Traced.value_bind, Traced.errors_bind, value, errors]
  exact ⟨rfl, rfl⟩

theorem pinnedRoutes_halves :
    (Compilation.pinnedRoutes layout (strands.flatMap halves)).value =
        (LaneAssignment.settle .pinned ∅ ((pinned strands).map placement)).value ∧
      (Compilation.pinnedRoutes layout (strands.flatMap halves)).errors =
        (LaneAssignment.settle .pinned ∅ ((pinned strands).map placement)).errors := by
  rw [Compilation.pinnedRoutes, pinned_halves fits distinct]
  exact routesOf_halves fits distinct fun _ member => List.mem_of_mem_filter member

theorem flexibleRoutes_halves :
    (Compilation.flexibleRoutes layout (strands.flatMap halves)).value =
        (LaneAssignment.settle .flexible
          (Compilation.reserved layout (strands.flatMap halves))
          ((flexible strands).map placement)).value ∧
      (Compilation.flexibleRoutes layout (strands.flatMap halves)).errors =
        (LaneAssignment.settle .flexible
          (Compilation.reserved layout (strands.flatMap halves))
          ((flexible strands).map placement)).errors := by
  rw [Compilation.flexibleRoutes, placed_halves fits distinct]
  exact routesOf_halves fits distinct fun _ member => List.mem_of_mem_filter member

/-! ## A lane for everyone -/

omit fits distinct in
theorem pinned_append_flexible_perm (strands : List Strand) :
    (pinned strands ++ flexible strands).Perm strands :=
  List.filter_append_perm (fun strand : Strand => strand.resolved.isVirtual) strands

omit fits in
theorem length_pinned_add_length_flexible :
    (pinned strands).length + (flexible strands).length ≤ 32 := by
  have whole := (pinned_append_flexible_perm strands).length_eq
  have atMost : strands.length ≤ 32 := by
    rw [← List.length_map (f := lane)]
    exact distinct.length_le_card
  rw [List.length_append] at whole
  omega

theorem errors_pinnedRoutes_halves :
    (Compilation.pinnedRoutes layout (strands.flatMap halves)).errors = [] := by
  have total := length_pinned_add_length_flexible distinct
  rw [(pinnedRoutes_halves fits distinct).2]
  apply LaneAssignment.errors_settle_eq_nil
  rw [LaneSet.members_empty, Finset.card_empty, List.length_map]
  omega

theorem errors_flexibleRoutes_halves :
    (Compilation.flexibleRoutes layout (strands.flatMap halves)).errors = [] := by
  have total := length_pinned_add_length_flexible distinct
  have pinnedLength := LaneAssignment.length_settle .pinned ∅ ((pinned strands).map placement)
  have reservedCard : (Compilation.reserved layout (strands.flatMap halves)).members.card ≤
      (pinned strands).length := by
    refine (LaneSet.card_members_ofList_le _).trans ?_
    rw [List.length_map, (pinnedRoutes_halves fits distinct).1]
    rw [List.length_map] at pinnedLength
    omega
  rw [(flexibleRoutes_halves fits distinct).2]
  apply LaneAssignment.errors_settle_eq_nil
  rw [List.length_map]
  omega

/-- Nothing is rejected. -/
theorem errors_halves : Compilation.errors layout (strands.flatMap halves) = [] := by
  have resolving := (ofConnections_halves distinct fun strand member =>
    (fits strand member).sound).2
  have placing := (placeAll_halves fits distinct).2
  rw [Compilation.errors, resolving, outcomes_halves fits distinct, Traced.failures_map_ok,
    errors_pinnedRoutes_halves fits distinct, placing,
    errors_flexibleRoutes_halves fits distinct]
  rfl

/-! ## What comes out -/

omit fits distinct in
/-- Settled strands keep their signals. -/
theorem map_signal_settle {group : Group} {kept : LaneSet} {part : List Strand}
    (noErrors : (LaneAssignment.settle group kept (part.map placement)).errors = []) :
    (LaneAssignment.settle group kept (part.map placement)).value.map Route.signal =
      part.map fun strand => strand.route.signal := by
  rw [LaneAssignment.map_signal_settle noErrors, List.map_map]
  rfl

/-- The routes do what the strands did. -/
theorem signals_halves :
    ((Compilation.routing layout (strands.flatMap halves)).routes.map Route.signal).Perm
      ((strands.map route).map Route.signal) := by
  have pinnedErrors := errors_pinnedRoutes_halves fits distinct
  have flexibleErrors := errors_flexibleRoutes_halves fits distinct
  rw [(pinnedRoutes_halves fits distinct).2] at pinnedErrors
  rw [(flexibleRoutes_halves fits distinct).2] at flexibleErrors
  rw [Compilation.routing, List.map_append, (pinnedRoutes_halves fits distinct).1,
    (flexibleRoutes_halves fits distinct).1, map_signal_settle pinnedErrors,
    map_signal_settle flexibleErrors, ← List.map_append, List.map_map]
  exact (pinned_append_flexible_perm strands).map _

omit fits distinct in
/-- Strands that ask for their own free lanes stay on them. -/
theorem settle_of_settled {group : Group} {kept : LaneSet} {part : List Strand}
    (settled : ∀ strand ∈ part, strand.askedLane = some strand.lane)
    (partDistinct : (part.map lane).Nodup) (fresh : ∀ strand ∈ part, strand.lane ∉ kept) :
    (LaneAssignment.settle group kept (part.map placement)).value = part.map route := by
  apply LaneAssignment.value_settle_of_stays
  · rw [List.forall₂_map_left_iff, List.forall₂_map_right_iff, List.forall₂_same]
    intro strand member
    exact ⟨settled strand member, rfl⟩
  · rw [List.map_map]
    exact partDistinct
  · intro found member
    obtain ⟨strand, inPart, rfl⟩ := List.mem_map.mp member
    exact fresh strand inPart

/-- The routes are those of the strands when every strand asks for its own
lane. -/
theorem routes_halves (settled : ∀ strand ∈ strands, strand.askedLane = some strand.lane) :
    (Compilation.routing layout (strands.flatMap halves)).routes.Perm
      (strands.map route) := by
  have both : ((pinned strands ++ flexible strands).map lane).Nodup :=
    ((pinned_append_flexible_perm strands).map lane).nodup_iff.mpr distinct
  rw [List.map_append, List.nodup_append'] at both
  obtain ⟨pinnedDistinct, flexibleDistinct, apart⟩ := both
  have pinnedValue : (Compilation.pinnedRoutes layout (strands.flatMap halves)).value =
      (pinned strands).map route := by
    rw [(pinnedRoutes_halves fits distinct).1]
    exact settle_of_settled (fun strand member => settled strand (List.mem_of_mem_filter member))
      pinnedDistinct fun _ _ => LaneSet.not_mem_empty
  have flexibleValue : (Compilation.flexibleRoutes layout (strands.flatMap halves)).value =
      (flexible strands).map route := by
    rw [(flexibleRoutes_halves fits distinct).1]
    refine settle_of_settled
      (fun strand member => settled strand (List.mem_of_mem_filter member)) flexibleDistinct ?_
    intro strand member reserved
    rw [Compilation.reserved, pinnedValue, List.map_map, LaneSet.mem_ofList] at reserved
    exact apart reserved (List.mem_map_of_mem member)
  rw [Compilation.routing, pinnedValue, flexibleValue, ← List.map_append]
  exact (pinned_append_flexible_perm strands).map route

end Stages

end Strand

end Crossbar
