import Crossbar.LaneSet
import Mathlib.Data.Fintype.Card
import Mathlib.Order.Bounds.Defs

/-!
# Lane sets as finite sets

The word of a lane set is read as the finite set of its members.  Inserting adds
one member, and the lowest free lane is the least lane that is no member.  It is
missing only for the full set, which has 32 members.
-/

namespace Crossbar.LaneSet

variable {lanes others : LaneSet} {lane other : Lane}

/-! ## Membership -/

theorem mem_iff_getLsbD :
    lane ∈ lanes ↔ lanes.word.getLsbD lane.val = true :=
  Iff.rfl

@[simp]
theorem not_mem_empty : lane ∉ (∅ : LaneSet) := by
  intro member
  have bit : (0#32).getLsbD lane.val = true := member
  simp at bit

@[simp]
theorem mem_insert : other ∈ lanes.insert lane ↔ other = lane ∨ other ∈ lanes := by
  simp only [mem_iff_getLsbD, insert, BitVec.getLsbD_or, BitVec.getLsbD_twoPow,
    Bool.or_eq_true, Bool.and_eq_true, decide_eq_true_eq]
  constructor
  · rintro (old | ⟨_, sameNumber⟩)
    · exact Or.inr old
    · exact Or.inl (Fin.ext sameNumber.symm)
  · rintro (rfl | old)
    · exact Or.inr ⟨other.isLt, rfl⟩
    · exact Or.inl old

@[simp]
theorem mem_foldl_insert {added : List Lane} :
    other ∈ added.foldl insert lanes ↔ other ∈ added ∨ other ∈ lanes := by
  induction added generalizing lanes with
  | nil =>
      simp
  | cons head tail inductionHypothesis =>
      rw [List.foldl_cons, inductionHypothesis, mem_insert, List.mem_cons]
      tauto

@[simp]
theorem mem_ofList {listed : List Lane} : other ∈ ofList listed ↔ other ∈ listed := by
  have emptyHasNone : other ∉ empty := not_mem_empty
  rw [ofList, mem_foldl_insert]
  simp [emptyHasNone]

/-! ## Members -/

/-- The members of a lane set. -/
def members (lanes : LaneSet) : Finset Lane :=
  Finset.univ.filter fun lane => lane ∈ lanes

@[simp]
theorem mem_members : lane ∈ lanes.members ↔ lane ∈ lanes := by
  simp [members]

@[simp]
theorem members_empty : (∅ : LaneSet).members = ∅ := by
  ext lane
  simp

@[simp]
theorem members_insert : (lanes.insert lane).members = Insert.insert lane lanes.members := by
  ext other
  simp

theorem card_members_le (lanes : LaneSet) : lanes.members.card ≤ 32 := by
  have bounded := Finset.card_le_univ lanes.members
  rwa [Fintype.card_fin] at bounded

theorem eq_of_members_eq (same : lanes.members = others.members) : lanes = others := by
  have sameWord : lanes.word = others.word := by
    apply BitVec.eq_of_getLsbD_eq
    intro place inRange
    have sameMember := Finset.ext_iff.mp same ⟨place, inRange⟩
    rw [mem_members, mem_members] at sameMember
    exact Bool.eq_iff_iff.mpr sameMember
  cases lanes
  cases others
  exact congrArg LaneSet.mk sameWord

theorem insert_of_mem (member : lane ∈ lanes) : lanes.insert lane = lanes := by
  apply eq_of_members_eq
  rw [members_insert, Finset.insert_eq_of_mem (mem_members.mpr member)]

theorem claim_of_mem (member : lane ∈ lanes) : lanes.claim lane = (false, lanes) := by
  have contained : lanes.contains lane = true := member
  rw [claim, contained, insert_of_mem member]
  rfl

theorem claim_of_not_mem (absent : lane ∉ lanes) :
    lanes.claim lane = (true, lanes.insert lane) := by
  have notContained : lanes.contains lane = false := Bool.eq_false_of_not_eq_true absent
  rw [claim, notContained]
  rfl

theorem members_ofList (listed : List Lane) : (ofList listed).members = listed.toFinset := by
  ext lane
  rw [mem_members, mem_ofList, List.mem_toFinset]

theorem card_members_ofList_le (listed : List Lane) :
    (ofList listed).members.card ≤ listed.length := by
  rw [members_ofList]
  exact List.toFinset_card_le listed

theorem card_members_insert (absent : lane ∉ lanes) :
    (lanes.insert lane).members.card = lanes.members.card + 1 := by
  rw [members_insert, Finset.card_insert_of_notMem]
  simpa using absent

/-! ## The lowest free lane -/

/-- The lowest free lane is free and all lanes below it are taken. -/
theorem lowestFree_eq_some (found : lanes.lowestFree = some lane) :
    lane ∉ lanes ∧ ∀ lower < lane, lower ∈ lanes := by
  unfold lowestFree Lane.ofNat? at found
  split at found
  case isFalse => cases found
  case isTrue inRange =>
    have zeros : lane.val = (~~~lanes.word).ctz.toNat := by
      injection found with sameLane
      rw [← sameLane]
    have someFree : ~~~lanes.word ≠ 0#32 := by
      rw [← BitVec.ctz_lt_iff_ne_zero, BitVec.lt_def]
      simpa using inRange
    constructor
    · intro member
      have clear := BitVec.getLsbD_true_ctz_of_ne_zero someFree
      rw [← zeros] at clear
      have taken : lanes.word.getLsbD lane.val = true := member
      rw [BitVec.getLsbD_not, taken] at clear
      simp at clear
    · intro lower below
      have set := BitVec.getLsbD_false_of_lt_ctz (x := ~~~lanes.word) (i := lower.val)
        (by rw [← zeros]; exact below)
      simpa [mem_iff_getLsbD] using set

theorem lowestFree_not_mem (found : lanes.lowestFree = some lane) : lane ∉ lanes :=
  (lowestFree_eq_some found).1

/-- Only the full set has no free lane. -/
theorem mem_of_lowestFree_eq_none (full : lanes.lowestFree = none) (lane : Lane) :
    lane ∈ lanes := by
  unfold lowestFree Lane.ofNat? at full
  split at full
  case isTrue => cases full
  case isFalse tooLarge =>
    have noneFree : ~~~lanes.word = 0#32 := by
      by_contra someFree
      have below := BitVec.ctz_lt_iff_ne_zero.mpr someFree
      rw [BitVec.lt_def] at below
      exact tooLarge (by simpa using below)
    have clear : (~~~lanes.word).getLsbD lane.val = false := by
      simp [noneFree]
    simpa [mem_iff_getLsbD] using clear

/-- The lowest free lane is the least lane that is no member. -/
theorem lowestFree_eq_some_iff :
    lanes.lowestFree = some lane ↔ IsLeast {other | other ∉ lanes} lane := by
  constructor
  · intro found
    obtain ⟨isFree, lowerTaken⟩ := lowestFree_eq_some found
    refine ⟨isFree, fun other otherFree => ?_⟩
    by_contra above
    exact otherFree (lowerTaken other (not_le.mp above))
  · intro least
    cases found : lanes.lowestFree with
    | none =>
        exact absurd (mem_of_lowestFree_eq_none found lane) least.1
    | some lowest =>
        obtain ⟨isFree, lowerTaken⟩ := lowestFree_eq_some found
        have notAbove : ¬lane < lowest := fun below => least.1 (lowerTaken lane below)
        rw [le_antisymm (not_lt.mp notAbove) (least.2 isFree)]

theorem lowestFree_eq_none_iff : lanes.lowestFree = none ↔ lanes.members = Finset.univ := by
  rw [Finset.eq_univ_iff_forall]
  constructor
  · intro full lane
    exact mem_members.mpr (mem_of_lowestFree_eq_none full lane)
  · intro all
    cases found : lanes.lowestFree with
    | none => rfl
    | some lowest => exact absurd (mem_members.mp (all lowest)) (lowestFree_not_mem found)

/-- The lanes that are not in the set, in ascending order. -/
def free (lanes : LaneSet) : List Lane :=
  Lane.all.filter fun lane => lane ∉ lanes

theorem free_eq_nil (full : lanes.lowestFree = none) : lanes.free = [] := by
  rw [free, List.filter_eq_nil_iff]
  intro lane _
  simpa using mem_of_lowestFree_eq_none full lane

/-- The lowest free lane comes first, and the other free lanes are still free after
it is taken. -/
theorem free_eq_cons (found : lanes.lowestFree = some lane) :
    lanes.free = lane :: (lanes.insert lane).free := by
  obtain ⟨isFree, lowerTaken⟩ := lowestFree_eq_some found
  obtain ⟨lower, higher, whole⟩ := List.append_of_mem (List.mem_finRange lane)
  have ascending : (lower ++ lane :: higher).Pairwise (· < ·) := by
    rw [← whole]
    exact List.pairwise_lt_finRange 32
  obtain ⟨_, ascendingRest, below⟩ := List.pairwise_append.mp ascending
  have above := (List.pairwise_cons.mp ascendingRest).1
  have noneBelow (taken : LaneSet) (lowerInside : ∀ other < lane, other ∈ taken) :
      lower.filter (fun other => other ∉ taken) = [] := by
    rw [List.filter_eq_nil_iff]
    intro other member
    simpa using lowerInside other (below other member lane (List.mem_cons_self ..))
  have lowerStillTaken : ∀ other < lane, other ∈ lanes.insert lane :=
    fun other under => mem_insert.mpr (Or.inr (lowerTaken other under))
  have sameAbove : higher.filter (fun other => other ∉ lanes) =
      higher.filter fun other => other ∉ lanes.insert lane := by
    apply List.filter_congr
    intro other member
    simp [(above other member).ne']
  rw [free, free, Lane.all, whole, List.filter_append, List.filter_append,
    noneBelow lanes lowerTaken, noneBelow (lanes.insert lane) lowerStillTaken, List.nil_append,
    List.nil_append, List.filter_cons_of_pos (by simpa using isFree),
    List.filter_cons_of_neg (by simp), sameAbove]

/-- A set without a free lane has 32 members. -/
theorem card_members_of_full (full : lanes.lowestFree = none) : lanes.members.card = 32 := by
  rw [lowestFree_eq_none_iff.mp full, Finset.card_univ, Fintype.card_fin]

end Crossbar.LaneSet
