import Crossbar.Proofs.LaneSet
import Mathlib.Algebra.BigOperators.Fin

/-!
# The history of a lane set

A lane set is used by inserting lanes one after another.  Whatever word it starts from,
after any insertions it stands for the lanes of the word and those that were inserted, and
everything it answers is what the finite set of these lanes would answer.  An insertion
tells whether its lane is new, which it is when neither the word nor an earlier insertion
has it.

The number of lanes is counted bit by bit.  A set that is collected from a list depends on
the lanes of the list only, as two sets with the same lanes are the same word.
-/

namespace Crossbar.LaneSet

variable {lanes others : LaneSet} {lane : Lane}

/-! ## Counting lanes -/

/-- The population count adds up the bits below a place. -/
theorem cpopNatRec_eq_sum {width : Nat} (word : BitVec width) (places : Nat) :
    word.cpopNatRec places 0 = ∑ place ∈ Finset.range places, (word.getLsbD place).toNat := by
  induction places with
  | zero =>
      rfl
  | succ places inductionHypothesis =>
      rw [BitVec.cpopNatRec_succ, BitVec.cpopNatRec_add, inductionHypothesis,
        Finset.sum_range_succ]

theorem size_eq_card (lanes : LaneSet) : lanes.size = lanes.members.card := by
  have bit (lane : Lane) :
      (lanes.word.getLsbD lane.val).toNat = if lane ∈ lanes then 1 else 0 := by
    by_cases member : lane ∈ lanes
    · rw [if_pos member, mem_iff_getLsbD.mp member, Bool.toNat_true]
    · have clear : lanes.word.getLsbD lane.val = false := Bool.eq_false_of_not_eq_true member
      rw [if_neg member, clear, Bool.toNat_false]
  calc lanes.size
      = ∑ place ∈ Finset.range 32, (lanes.word.getLsbD place).toNat := by
        rw [size, BitVec.toNat_cpop, cpopNatRec_eq_sum]
    _ = ∑ lane : Lane, (lanes.word.getLsbD lane.val).toNat := by
        rw [Fin.sum_univ_eq_sum_range fun place => (lanes.word.getLsbD place).toNat]
    _ = ∑ lane : Lane, if lane ∈ lanes then 1 else 0 :=
        Finset.sum_congr rfl fun lane _ => bit lane
    _ = lanes.members.card := by
        rw [members, Finset.card_filter]

/-! ## Sets with the same lanes -/

theorem ofList_eq_iff {first second : List Lane} :
    ofList first = ofList second ↔ first.toFinset = second.toFinset := by
  rw [← members_ofList, ← members_ofList]
  exact ⟨congrArg members, eq_of_members_eq⟩

/-! ## Insertions one after another -/

/-- Inserts lanes one after another: which were new, and the set after the last. -/
def claimAll (lanes : LaneSet) : List Lane → List Bool × LaneSet
  | [] => ([], lanes)
  | lane :: rest =>
    let (isNew, after) := lanes.claim lane
    let (later, final) := after.claimAll rest
    (isNew :: later, final)

theorem claimAll_cons {rest : List Lane} :
    lanes.claimAll (lane :: rest) =
      ((lanes.claim lane).1 :: ((lanes.insert lane).claimAll rest).1,
        ((lanes.insert lane).claimAll rest).2) :=
  rfl

theorem claim_eq_true_iff : (lanes.claim lane).1 = true ↔ lane ∉ lanes.members := by
  rw [mem_members]
  simp [claim, Membership.mem]

theorem claimAll_snd (lanes : LaneSet) (added : List Lane) :
    (lanes.claimAll added).2 = added.foldl insert lanes := by
  induction added generalizing lanes with
  | nil =>
      rfl
  | cons lane rest inductionHypothesis =>
      rw [claimAll_cons, inductionHypothesis, List.foldl_cons]

theorem members_claimAll (lanes : LaneSet) (added : List Lane) :
    (lanes.claimAll added).2.members = lanes.members ∪ added.toFinset := by
  ext other
  rw [claimAll_snd, mem_members, mem_foldl_insert, Finset.mem_union, mem_members,
    List.mem_toFinset, or_comm]

/-- A lane is new if neither the start nor an earlier insertion has it. -/
theorem getElem?_claimAll (lanes : LaneSet) (added : List Lane) (place : Nat) :
    (lanes.claimAll added).1[place]? = added[place]?.map fun lane =>
      decide (lane ∉ lanes.members ∪ (added.take place).toFinset) := by
  induction added generalizing lanes place with
  | nil =>
      simp [claimAll]
  | cons lane rest inductionHypothesis =>
      rw [claimAll_cons]
      cases place with
      | zero =>
          rw [List.getElem?_cons_zero, List.getElem?_cons_zero, List.take_zero, List.toFinset_nil,
            Finset.union_empty, Option.map_some, Option.some_inj, Bool.eq_iff_iff,
            decide_eq_true_iff]
          exact claim_eq_true_iff
      | succ place =>
          rw [List.getElem?_cons_succ, List.getElem?_cons_succ, inductionHypothesis,
            members_insert, List.take_succ_cons, List.toFinset_cons, Finset.insert_union,
            Finset.union_insert]

/-! ## Lane sets as finite sets of lanes -/

/-- The lanes of a word: those whose mask meets it. -/
def lanesOf (word : BitVec 32) : Finset Lane :=
  Finset.univ.filter fun lane => word &&& 1#32 <<< lane.val ≠ 0#32

theorem members_eq_lanesOf (lanes : LaneSet) : lanes.members = lanesOf lanes.word := by
  ext lane
  have maskIsSet : BitVec.twoPow 32 lane.val ≠ 0#32 := by
    intro zero
    have clear := congrArg (fun word => word.getLsbD lane.val) zero
    simp at clear
  rw [mem_members, mem_iff_getLsbD, lanesOf, Finset.mem_filter, ← BitVec.twoPow_eq,
    BitVec.and_twoPow]
  cases lanes.word.getLsbD lane.val with
  | true => simp [maskIsSet]
  | false => simp

/-- A lane set answers as a finite set of lanes does. -/
structure BehavesAs (lanes : LaneSet) (held : Finset Lane) : Prop where
  contains_iff : ∀ lane, lanes.contains lane = true ↔ lane ∈ held
  claims_iff : ∀ lane, (lanes.claim lane).1 = true ↔ lane ∉ held
  adds_iff : ∀ lane other,
    (lanes.claim lane).2.contains other = true ↔ other = lane ∨ other ∈ held
  size_eq : lanes.size = held.card
  lowestFree_eq_some_iff : ∀ lane,
    lanes.lowestFree = some lane ↔ IsLeast {other | other ∉ held} lane
  lowestFree_eq_none_iff : lanes.lowestFree = none ↔ held = Finset.univ

theorem behavesAs_members (lanes : LaneSet) : lanes.BehavesAs lanes.members where
  contains_iff _ := mem_members.symm
  claims_iff _ := claim_eq_true_iff
  adds_iff lane other := by
    rw [mem_members]
    exact mem_insert
  size_eq := size_eq_card lanes
  lowestFree_eq_some_iff lane := by
    simp only [mem_members]
    exact lowestFree_eq_some_iff
  lowestFree_eq_none_iff := lowestFree_eq_none_iff

/-- What becomes of a lane set by insertions, and what a list is collected into. -/
structure RefinesFinset (start : LaneSet) (added : List Lane) : Prop where
  answers : ∀ place, (start.claimAll added).1[place]? = added[place]?.map fun lane =>
    decide (lane ∉ lanesOf start.word ∪ (added.take place).toFinset)
  held : (start.claimAll added).2.BehavesAs (lanesOf start.word ∪ added.toFinset)
  collected_eq : ofList added = (empty.claimAll added).2
  collected : (ofList added).BehavesAs added.toFinset
  unordered : ∀ other : List Lane,
    ofList other = ofList added ↔ ∀ lane, lane ∈ other ↔ lane ∈ added

/-- From any word on, a lane set is a finite set of lanes that grows by what is inserted. -/
theorem refinesFinset (start : LaneSet) (added : List Lane) : RefinesFinset start added where
  answers := by
    rw [← members_eq_lanesOf]
    exact getElem?_claimAll start added
  held := by
    rw [← members_eq_lanesOf, ← members_claimAll]
    exact behavesAs_members _
  collected_eq := (claimAll_snd empty added).symm
  collected := by
    rw [← members_ofList]
    exact behavesAs_members _
  unordered other := by
    rw [ofList_eq_iff, Finset.ext_iff]
    simp only [List.mem_toFinset]

/-- With all lanes taken the first place without a lane is 32, which is no lane. -/
example : (⟨BitVec.allOnes 32⟩ : LaneSet).lowestFree = none := by
  decide +kernel

end Crossbar.LaneSet
