import Crossbar.Proofs.Expand

/-!
# Resolving undoes splitting

A strand is a route together with the ports it leads between.  Splitting a strand
gives two halves that meet at the potentiometer of its lane.  When the lanes of
the strands are distinct no two strands share a potentiometer, and resolving the
halves of all strands gives back one connection for every strand.
-/

namespace Crossbar

/-- A route and the ports it leads between. -/
structure Strand where
  route : Route
  wire : Wire

namespace Strand

variable {strand : Strand} {strands rest : List Strand} {fed : LaneSet}

def lane (strand : Strand) : Lane := strand.route.lane

/-- The two connections of a strand. -/
def halves (strand : Strand) : List Connection :=
  Expansion.halves strand.route strand.wire.source strand.wire.target

/-- What the two connections of a strand resolve to. -/
def resolved (strand : Strand) : Resolved :=
  ⟨strand.wire, some strand.route.coefficient, some strand.lane⟩

/-! ## The links of the halves -/

def feeding (strand : Strand) : Link :=
  ⟨⟨strand.wire.source, .potentiometer strand.lane.val.toUInt32 .sink⟩,
    .feeds strand.lane (some strand.route.coefficient)⟩

def leaving (strand : Strand) : Link :=
  ⟨⟨.potentiometer strand.lane.val.toUInt32 .source, strand.wire.target⟩,
    .leaves strand.lane (some strand.route.coefficient)⟩

def links (strand : Strand) : List Link := [strand.feeding, strand.leaving]

theorem checkPotentiometer_half (sound : strand.resolved.Sound) (wire : Wire)
    (direction : Direction) :
    Link.checkPotentiometer wire ⟨.potentiometer strand.lane.val.toUInt32 direction,
        some (.potentiometer strand.route.coefficient)⟩ =
      .ok (strand.lane, some strand.route.coefficient) := by
  rw [Link.checkPotentiometer_eq_ok_iff]
  refine ⟨?_, rfl, fun value chosen => sound.ranged value chosen⟩
  cases direction <;> exact Lane.toNat_toUInt32 strand.lane

theorem ofConnection_feeding (sound : strand.resolved.Sound) :
    Link.ofConnection ⟨.bare strand.wire.source,
      ⟨.potentiometer strand.lane.val.toUInt32 .sink,
        some (.potentiometer strand.route.coefficient)⟩⟩ = .ok strand.feeding := by
  have wellShaped : strand.feeding.wire.WellShaped := by
    refine ⟨sound.notFromSink, rfl, sound.leavesOutput, rfl, ?_⟩
    rintro ⟨_, _, sameKind⟩
    exact sound.sourceKind (sameKind.mpr rfl)
  exact Link.ofConnection_feeds wellShaped sound.sourceKind rfl
    (checkPotentiometer_half sound _ .sink)

theorem ofConnection_leaving (sound : strand.resolved.Sound) :
    Link.ofConnection ⟨⟨.potentiometer strand.lane.val.toUInt32 .source,
        some (.potentiometer strand.route.coefficient)⟩, .bare strand.wire.target⟩ =
      .ok strand.leaving := by
  have wellShaped : strand.leaving.wire.WellShaped := by
    refine ⟨rfl, sound.notIntoSource, rfl, sound.entersInput, ?_⟩
    rintro ⟨_, _, sameKind⟩
    exact sound.targetKind (sameKind.mp rfl)
  exact Link.ofConnection_leaves wellShaped rfl (checkPotentiometer_half sound _ .source)

/-- Both halves of every strand make a link. -/
theorem map_ofConnection_halves (sound : ∀ strand ∈ strands, strand.resolved.Sound) :
    (strands.flatMap halves).map Link.ofConnection = (strands.flatMap links).map .ok := by
  induction strands with
  | nil =>
      rfl
  | cons strand rest inductionHypothesis =>
      have headSound := sound strand (List.mem_cons_self ..)
      have tail := inductionHypothesis fun other member =>
        sound other (List.mem_cons_of_mem _ member)
      have head : strand.halves.map Link.ofConnection = strand.links.map .ok := by
        simp only [halves, Expansion.halves, List.map_cons, List.map_nil, links]
        rw [← ofConnection_feeding headSound, ← ofConnection_leaving headSound]
        rfl
      rw [List.flatMap_cons, List.flatMap_cons, List.map_append, List.map_append, head, tail]

/-! ## Halves that meet -/

theorem feedsLane_feeding (strand : Strand) (lane : Lane) :
    strand.feeding.feedsLane lane = (strand.lane == lane) :=
  rfl

theorem feedsLane_leaving (strand : Strand) (lane : Lane) :
    strand.leaving.feedsLane lane = false :=
  rfl

/-- With distinct lanes, only the strand itself feeds its potentiometer. -/
theorem find?_feedsLane (distinct : (strands.map lane).Nodup) (member : strand ∈ strands) :
    (strands.flatMap links).find? (Link.feedsLane strand.lane) = some strand.feeding := by
  induction strands with
  | nil =>
      cases member
  | cons head rest inductionHypothesis =>
      rw [List.map_cons, List.nodup_cons] at distinct
      rw [List.flatMap_cons, links, List.cons_append, List.find?_cons]
      rcases List.mem_cons.mp member with rfl | inRest
      · simp [feedsLane_feeding]
      · have otherLane : head.lane ≠ strand.lane := by
          intro sameLane
          apply distinct.1
          rw [sameLane]
          exact List.mem_map_of_mem inRest
        rw [feedsLane_feeding, beq_eq_false_iff_ne.mpr otherLane]
        dsimp only
        rw [List.cons_append, List.find?_cons, feedsLane_leaving]
        exact inductionHypothesis distinct.2 inRest

theorem any_leavesLane (member : strand ∈ strands) :
    (strands.flatMap links).any (Link.leavesLane strand.lane) = true := by
  rw [List.any_eq_true]
  refine ⟨strand.leaving, List.mem_flatMap.mpr ⟨strand, member, ?_⟩, ?_⟩
  · simp [links]
  · simp [leaving, Link.leavesLane]

/-- Every strand still to come meets its own half. -/
theorem ofLinks_links (distinct : (strands.map lane).Nodup)
    (inside : ∀ strand ∈ rest, strand ∈ strands) (restDistinct : (rest.map lane).Nodup)
    (fresh : ∀ strand ∈ rest, strand.lane ∉ fed) :
    Resolved.ofLinks (strands.flatMap links) fed (rest.flatMap links) =
      rest.map fun strand => .ok strand.resolved := by
  induction rest generalizing fed with
  | nil =>
      rfl
  | cons strand rest inductionHypothesis =>
      have member := inside strand (List.mem_cons_self ..)
      rw [List.map_cons, List.nodup_cons] at restDistinct
      have stillFresh : ∀ other ∈ rest, other.lane ∉ fed.insert strand.lane := by
        intro other otherMember inFed
        rcases LaneSet.mem_insert.mp inFed with sameLane | old
        · exact restDistinct.1 (sameLane ▸ List.mem_map_of_mem otherMember)
        · exact fresh other (List.mem_cons_of_mem _ otherMember) old
      have tail := inductionHypothesis
        (fun other otherMember => inside other (List.mem_cons_of_mem _ otherMember))
        restDistinct.2 stillFresh
      rw [List.flatMap_cons, links, List.cons_append, List.cons_append, List.nil_append,
        Resolved.ofLinks_used rfl (fresh strand (List.mem_cons_self ..)) (any_leavesLane member),
        Resolved.ofLinks_joined rfl (find?_feedsLane distinct member), tail]
      rfl

/-! ## All strands -/

theorem links_halves (sound : ∀ strand ∈ strands, strand.resolved.Sound) :
    Resolved.links (strands.flatMap halves) = strands.flatMap links := by
  rw [Resolved.links, map_ofConnection_halves sound]
  exact (Traced.value_collectAll_map_ok id _).trans (List.map_id _)

/-- Strands with distinct lanes resolve to themselves. -/
theorem ofConnections_halves (distinct : (strands.map lane).Nodup)
    (sound : ∀ strand ∈ strands, strand.resolved.Sound) :
    (Resolved.ofConnections (strands.flatMap halves)).value = strands.map resolved ∧
      (Resolved.ofConnections (strands.flatMap halves)).errors = [] := by
  have noneFed : ∀ strand ∈ strands, strand.lane ∉ (∅ : LaneSet) :=
    fun _ _ => LaneSet.not_mem_empty
  have joined := ofLinks_links distinct (fun _ member => member) distinct noneFed
  have linked : Traced.failures ((strands.flatMap halves).map Link.ofConnection) = [] := by
    rw [map_ofConnection_halves sound]
    exact Traced.failures_map_ok id _
  rw [Resolved.value_ofConnections, Resolved.errors_ofConnections, links_halves sound, joined,
    linked, Traced.failures_map_ok]
  exact ⟨Traced.value_collectAll_map_ok _ _, rfl⟩

end Strand

end Crossbar
