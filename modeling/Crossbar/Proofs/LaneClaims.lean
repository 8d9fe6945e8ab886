import Crossbar.LaneGroup
import Crossbar.Proofs.Index
import Mathlib.Data.Finset.Card
import Mathlib.Data.Fintype.Basic
import Mathlib.Data.List.Forall2
import Mathlib.Data.List.ReduceOption

/-!
# First claims and later ones

Claims are settled one after another.  The first claim of a lane is granted, and
every later one leaves a conflict with it, until a claim asks for a number that is no
lane.  So what a settlement holds is read off the list of claims: the first claimant
of every lane, and the claims of lanes that were claimed before.

The invariant of a run from unused lanes is `Settles`; one more claim is settled by
what the claims before it have left.
-/

namespace Crossbar.LaneGroup

variable {outputs : Switches} {first second before after made rest : List Claim}
  {claim other : Claim} {conflict : Conflict} {crossLane holder : CrossLane} {lane : Lane}

/-! ## Lists of claims -/

/-- The first cross-lane that claims a lane. -/
def firstClaimant? (made : List Claim) (lane : Lane) : Option CrossLane :=
  (made.find? fun claim => claim.lane = lane.val.toUInt32).map Claim.crossLane

/-- The claims of lanes that were claimed before, in order. -/
def repeated (made : List Claim) : List Claim :=
  (made.mapIdx fun position claim =>
    if claim.lane ∈ (made.take position).map Claim.lane then some claim else none).reduceOption

theorem firstClaimant?_append (first second : List Claim) (lane : Lane) :
    firstClaimant? (first ++ second) lane =
      (firstClaimant? first lane).or (firstClaimant? second lane) := by
  rw [firstClaimant?, List.find?_append, Option.map_or]
  rfl

theorem firstClaimant?_append_of_some (held : firstClaimant? first lane = some holder)
    (second : List Claim) : firstClaimant? (first ++ second) lane = some holder := by
  rw [firstClaimant?_append, held, Option.some_or]

theorem firstClaimant?_singleton (claim : Claim) (lane : Lane) :
    firstClaimant? [claim] lane =
      if claim.lane = lane.val.toUInt32 then some claim.crossLane else none := by
  by_cases same : claim.lane = lane.val.toUInt32 <;> simp [firstClaimant?, same]

theorem firstClaimant?_eq_none_iff :
    firstClaimant? made lane = none ↔ lane.val.toUInt32 ∉ made.map Claim.lane := by
  simp [firstClaimant?]

theorem mem_of_firstClaimant? (held : firstClaimant? made lane = some holder) :
    ⟨holder, lane.val.toUInt32⟩ ∈ made := by
  obtain ⟨claim, found, rfl⟩ := Option.map_eq_some_iff.mp held
  have sameLane : claim.lane = lane.val.toUInt32 := by
    simpa using List.find?_some found
  rw [← sameLane]
  exact List.mem_of_find?_eq_some found

theorem repeated_concat (made : List Claim) (claim : Claim) :
    repeated (made ++ [claim]) =
      repeated made ++ if claim.lane ∈ made.map Claim.lane then [claim] else [] := by
  have earlier : (made.mapIdx fun position claim' =>
        if claim'.lane ∈ ((made ++ [claim]).take position).map Claim.lane then some claim'
        else none) =
      made.mapIdx fun position claim' =>
        if claim'.lane ∈ (made.take position).map Claim.lane then some claim' else none := by
    rw [List.mapIdx_eq_mapIdx_iff]
    intro position inside
    rw [List.take_append_of_le_length inside.le]
  rw [repeated, List.mapIdx_concat, List.reduceOption_append, earlier, List.take_left]
  by_cases known : claim.lane ∈ made.map Claim.lane <;> simp [repeated, known]

/-- A claim is repeated when a claim before it is of the same lane. -/
theorem mem_repeated : claim ∈ repeated made ↔
    ∃ before after, made = before ++ claim :: after ∧ claim.lane ∈ before.map Claim.lane := by
  rw [repeated, List.reduceOption_mem_iff, List.mem_mapIdx]
  constructor
  · rintro ⟨position, inside, found⟩
    split at found
    case isTrue known =>
      obtain rfl := Option.some.inj found
      refine ⟨made.take position, made.drop (position + 1), ?_, known⟩
      rw [List.getElem_cons_drop, List.take_append_drop]
    case isFalse =>
      cases found
  · rintro ⟨before, after, rfl, known⟩
    refine ⟨before.length, by simp, ?_⟩
    simp [known]

theorem mem_of_mem_repeated (again : claim ∈ repeated made) : claim ∈ made := by
  obtain ⟨before, after, rfl, _⟩ := mem_repeated.mp again
  exact List.mem_append_right _ List.mem_cons_self

theorem repeated_eq_nil_iff : repeated made = [] ↔ (made.map Claim.lane).Nodup := by
  induction made using List.reverseRecOn with
  | nil =>
      simp [repeated]
  | append_singleton made claim inductionHypothesis =>
      rw [repeated_concat, List.append_eq_nil_iff, inductionHypothesis, List.map_append,
        List.map_singleton, ← List.concat_eq_append, List.nodup_concat]
      by_cases known : claim.lane ∈ made.map Claim.lane <;> simp [known]

theorem mem_repeated_of_two_le_count (twice : 2 ≤ made.count claim) : claim ∈ repeated made := by
  have member : claim ∈ made := List.count_pos_iff.mp (by omega)
  obtain ⟨before, after, rfl, fresh⟩ := List.eq_append_cons_of_mem member
  have again : claim ∈ after := by
    rw [List.count_append, List.count_cons_self, List.count_eq_zero.mpr fresh] at twice
    exact List.count_pos_iff.mp (by omega)
  obtain ⟨between, rest, rfl⟩ := List.append_of_mem again
  rw [mem_repeated]
  refine ⟨before ++ claim :: between, rest, by simp, ?_⟩
  exact List.mem_map_of_mem (List.mem_append_right _ List.mem_cons_self)

/-! ## One claim -/

theorem settle_beyond (beyond : Lane.ofNat? claim.lane.toNat = none) :
    settle outputs (claim :: rest) =
      ⟨outputs, [], some (.laneOutOfRange .outputSwitches claim.lane.toNat)⟩ := by
  rw [settle, beyond]

theorem settle_unused (found : Lane.ofNat? claim.lane.toNat = some lane)
    (unused : outputs.get lane = none) :
    settle outputs (claim :: rest) =
      settle (outputs.setIfInBounds lane.val (some claim.crossLane)) rest := by
  rw [settle, found]
  dsimp only
  rw [unused]

theorem settle_held (found : Lane.ofNat? claim.lane.toNat = some lane)
    (held : outputs.get lane = some holder) :
    settle outputs (claim :: rest) =
      { settle outputs rest with
        conflicts := ⟨lane, holder, claim.crossLane⟩ :: (settle outputs rest).conflicts } := by
  rw [settle, found]
  dsimp only
  rw [held]

theorem get_grant (outputs : Switches) (lane other : Lane) (crossLane : CrossLane) :
    (outputs.setIfInBounds lane.val (some crossLane)).get other =
      if lane = other then some crossLane else outputs.get other := by
  change (outputs.setIfInBounds lane.val (some crossLane))[other.val] = _
  rw [Vector.getElem_setIfInBounds]
  simp only [← Fin.ext_iff]
  rfl

/-! ## Runs -/

/-- Claims are settled on what the claims before them have left. -/
theorem settle_append (noFault : (settle outputs first).fault = none) (second : List Claim) :
    settle outputs (first ++ second) =
      let later := settle (settle outputs first).outputs second
      ⟨later.outputs, (settle outputs first).conflicts ++ later.conflicts, later.fault⟩ := by
  induction first generalizing outputs with
  | nil =>
      rfl
  | cons claim rest inductionHypothesis =>
      rw [List.cons_append]
      cases found : Lane.ofNat? claim.lane.toNat with
      | none =>
          rw [settle_beyond found] at noFault
          cases noFault
      | some lane =>
          cases held : outputs.get lane with
          | none =>
              rw [settle_unused found held] at noFault ⊢
              rw [settle_unused found held]
              exact inductionHypothesis noFault
          | some holder =>
              rw [settle_held found held] at noFault ⊢
              rw [settle_held found held, inductionHypothesis noFault]
              rfl

theorem fault_settle (outputs : Switches) (made : List Claim) :
    (settle outputs made).fault =
      ((made.map Claim.lane).find? fun number => laneCount ≤ number.toNat).map fun number =>
        .laneOutOfRange .outputSwitches number.toNat := by
  induction made generalizing outputs with
  | nil =>
      rfl
  | cons claim rest inductionHypothesis =>
      rw [List.map_cons]
      cases found : Lane.ofNat? claim.lane.toNat with
      | none =>
          have beyond : laneCount ≤ claim.lane.toNat := Lane.ofNat?_eq_none_iff.mp found
          rw [settle_beyond found, List.find?_cons_of_pos (by simpa using beyond)]
          rfl
      | some lane =>
          have inRange : ¬laneCount ≤ claim.lane.toNat := by
            rw [Lane.ofNat?_eq_some_iff.mp found, Nat.not_le]
            exact lane.isLt
          rw [List.find?_cons_of_neg (by simpa using inRange)]
          cases held : outputs.get lane with
          | none =>
              rw [settle_unused found held, inductionHypothesis]
          | some holder =>
              rw [settle_held found held]
              exact inductionHypothesis outputs

/-! ## Settlements of unused lanes -/

/-- A conflict names the lane of a claim, its first claimant and the later one. -/
structure Answers (made : List Claim) (conflict : Conflict) (claim : Claim) : Prop where
  claimant : conflict.claimant = claim.crossLane
  lane : conflict.lane.val.toUInt32 = claim.lane
  holder : firstClaimant? made conflict.lane = some conflict.holder

/-- The lanes in use. -/
def assigned (outputs : Switches) : Finset Lane :=
  Finset.univ.filter fun lane => (outputs.get lane).isSome = true

/-- Every lane is granted to its first claimant, and every repeated claim leaves a
conflict. -/
structure Settles (made : List Claim) (settled : Settlement) : Prop where
  noFault : settled.fault = none
  granted : ∀ lane, settled.outputs.get lane = firstClaimant? made lane
  rejected : List.Forall₂ (Answers made) settled.conflicts (repeated made)
  counted : made.length = (assigned settled.outputs).card + settled.conflicts.length

theorem Answers.append (answers : Answers first conflict claim) (second : List Claim) :
    Answers (first ++ second) conflict claim :=
  ⟨answers.claimant, answers.lane, firstClaimant?_append_of_some answers.holder second⟩

theorem get_unused (lane : Lane) : (Vector.replicate 32 none : Switches).get lane = none := by
  change (Vector.replicate 32 none : Switches)[lane.val] = none
  simp

theorem settles_nil : Settles [] (settle (Vector.replicate 32 none) []) := by
  refine ⟨rfl, get_unused, List.Forall₂.nil, ?_⟩
  have noneAssigned : assigned (Vector.replicate 32 none) = ∅ := by
    rw [assigned, Finset.filter_eq_empty_iff]
    intro lane _
    rw [get_unused]
    exact Bool.false_ne_true
  change 0 = (assigned (Vector.replicate 32 none)).card + 0
  rw [noneAssigned, Finset.card_empty]

theorem card_assigned_grant (unused : outputs.get lane = none) (crossLane : CrossLane) :
    (assigned (outputs.setIfInBounds lane.val (some crossLane))).card =
      (assigned outputs).card + 1 := by
  have inserted : assigned (outputs.setIfInBounds lane.val (some crossLane)) =
      insert lane (assigned outputs) := by
    ext other
    simp only [assigned, Finset.mem_filter, Finset.mem_univ, true_and, Finset.mem_insert,
      get_grant]
    by_cases same : lane = other
    · simp [same]
    · simp [same, Ne.symm same]
  have absent : lane ∉ assigned outputs := by
    simp [assigned, unused]
  rw [inserted, Finset.card_insert_of_notMem absent]

/-- The first claim of a lane is granted. -/
theorem Settles.grant {settled : Settlement} (settles : Settles made settled)
    (found : claim.lane = lane.val.toUInt32) (unused : settled.outputs.get lane = none) :
    Settles (made ++ [claim]) { settled with
      outputs := settled.outputs.setIfInBounds lane.val (some claim.crossLane) } := by
  have unclaimed : firstClaimant? made lane = none := by
    rw [← settles.granted, unused]
  have fresh : claim.lane ∉ made.map Claim.lane := by
    rwa [found, ← firstClaimant?_eq_none_iff]
  refine ⟨settles.noFault, fun other => ?_, ?_, ?_⟩
  · rw [get_grant, firstClaimant?_append, firstClaimant?_singleton, found]
    by_cases same : lane = other
    · subst same
      rw [if_pos rfl, if_pos rfl, unclaimed, Option.none_or]
    · have otherNumber : lane.val.toUInt32 ≠ other.val.toUInt32 :=
        fun sameNumber => same (Lane.toUInt32_injective sameNumber)
      rw [if_neg same, if_neg otherNumber, Option.or_none, settles.granted]
  · rw [repeated_concat, if_neg fresh, List.append_nil]
    exact settles.rejected.imp fun _ _ answers => answers.append [claim]
  · rw [List.length_append, List.length_singleton, settles.counted, card_assigned_grant unused]
    dsimp only
    omega

/-- A later claim of a lane leaves a conflict. -/
theorem Settles.reject {settled : Settlement} (settles : Settles made settled)
    (found : claim.lane = lane.val.toUInt32) (held : settled.outputs.get lane = some holder) :
    Settles (made ++ [claim]) { settled with
      conflicts := settled.conflicts ++ [⟨lane, holder, claim.crossLane⟩] } := by
  have claimed : firstClaimant? made lane = some holder := by
    rw [← settles.granted, held]
  have known : claim.lane ∈ made.map Claim.lane := by
    rw [found]
    exact List.mem_map_of_mem (mem_of_firstClaimant? claimed)
  have answers : Answers (made ++ [claim]) ⟨lane, holder, claim.crossLane⟩ claim :=
    ⟨rfl, found.symm, firstClaimant?_append_of_some claimed [claim]⟩
  refine ⟨settles.noFault, fun other => ?_, ?_, ?_⟩
  · rw [firstClaimant?_append, firstClaimant?_singleton, ← settles.granted]
    by_cases same : claim.lane = other.val.toUInt32
    · have sameLane : lane = other := Lane.toUInt32_injective (found.symm.trans same)
      subst sameLane
      rw [held, Option.some_or]
    · rw [if_neg same, Option.or_none]
  · rw [repeated_concat, if_pos known]
    have carried := settles.rejected.imp fun _ _ answers => answers.append [claim]
    exact List.rel_append carried (List.Forall₂.cons answers List.Forall₂.nil)
  · rw [List.length_append, List.length_append, List.length_singleton, List.length_singleton,
      settles.counted, Nat.add_assoc]

/-- Claims of lanes are granted in order, the first claim of a lane wins. -/
theorem settles_settle (inRange : ∀ claim ∈ made, claim.lane.toNat < laneCount) :
    Settles made (settle (Vector.replicate 32 none) made) := by
  induction made using List.reverseRecOn with
  | nil =>
      exact settles_nil
  | append_singleton made claim inductionHypothesis =>
      rw [List.forall_mem_append] at inRange
      have settles := inductionHypothesis inRange.1
      have small : claim.lane.toNat < 32 := inRange.2 claim (List.mem_singleton_self claim)
      have place : Lane.ofNat? claim.lane.toNat = some ⟨claim.lane.toNat, small⟩ :=
        Lane.ofNat?_eq_some_iff.mpr rfl
      have found : claim.lane = (⟨claim.lane.toNat, small⟩ : Lane).val.toUInt32 :=
        UInt32.ofNat_toNat.symm
      rw [settle_append settles.noFault]
      cases held : (settle (Vector.replicate 32 none) made).outputs.get
          ⟨claim.lane.toNat, small⟩ with
      | none =>
          have granted := settles.grant found held
          rw [settle_unused place held]
          simpa [settle, settles.noFault] using granted
      | some holder =>
          have rejected := settles.reject found held
          rw [settle_held place held]
          simpa [settle, settles.noFault] using rejected

theorem settle_of_fault (failed : (settle (Vector.replicate 32 none) made).fault ≠ none) :
    ∃ before claim after, made = before ++ claim :: after ∧
      laneCount ≤ claim.lane.toNat ∧
      Settles before (settle (Vector.replicate 32 none) before) ∧
      (settle (Vector.replicate 32 none) made).conflicts =
        (settle (Vector.replicate 32 none) before).conflicts := by
  rw [fault_settle, ne_eq, Option.map_eq_none_iff, ← ne_eq, List.find?_map, ne_eq,
    Option.map_eq_none_iff, ← ne_eq, Option.ne_none_iff_exists'] at failed
  obtain ⟨claim, found⟩ := failed
  obtain ⟨beyond, before, after, rfl, small⟩ := List.find?_eq_some_iff_append.mp found
  have inRange : ∀ other ∈ before, other.lane.toNat < laneCount := by
    simpa using small
  have tooLarge : laneCount ≤ claim.lane.toNat := by
    simpa using beyond
  have settles := settles_settle inRange
  refine ⟨before, claim, after, rfl, tooLarge, settles, ?_⟩
  rw [settle_append settles.noFault, settle_beyond (Lane.ofNat?_eq_none_iff.mpr tooLarge)]
  exact List.append_nil _

/-! ## Claims of different lanes -/

theorem firstClaimant?_eq_some_iff (distinct : (made.map Claim.lane).Nodup) :
    firstClaimant? made lane = some crossLane ↔ ⟨crossLane, lane.val.toUInt32⟩ ∈ made := by
  constructor
  · exact mem_of_firstClaimant?
  · intro member
    have found := find?_of_nodup distinct member
    rw [firstClaimant?, found, Option.map_some]

/-- Claims of different lanes are all granted. -/
theorem settle_of_nodup (inRange : ∀ claim ∈ made, claim.lane.toNat < laneCount)
    (distinct : (made.map Claim.lane).Nodup) :
    ∃ table, settle (Vector.replicate 32 none) made = ⟨table, [], none⟩ ∧
      ∀ lane crossLane, table.get lane = some crossLane ↔
        ⟨crossLane, lane.val.toUInt32⟩ ∈ made := by
  obtain ⟨noFault, granted, rejected, _⟩ := settles_settle inRange
  rw [repeated_eq_nil_iff.mpr distinct, List.forall₂_nil_right_iff] at rejected
  refine ⟨(settle (Vector.replicate 32 none) made).outputs, ?_, fun lane crossLane => ?_⟩
  · rw [← rejected, ← noFault]
  · rw [granted, firstClaimant?_eq_some_iff distinct]

end Crossbar.LaneGroup
