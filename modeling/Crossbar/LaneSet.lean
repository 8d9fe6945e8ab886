import Crossbar.Index

/-!
# Sets of lanes

A set of lanes is one 32-bit word with a bit for every lane.  The lowest free
lane is the number of trailing ones of the word, which is 32, and so no lane,
exactly when every lane is taken.
-/

namespace Crossbar

/-- A set of lanes, one bit per lane. -/
structure LaneSet where
  word : BitVec 32
  deriving DecidableEq, Repr

namespace LaneSet

def empty : LaneSet := ⟨0#32⟩

instance : EmptyCollection LaneSet := ⟨empty⟩

def contains (lanes : LaneSet) (lane : Lane) : Bool :=
  lanes.word.getLsbD lane.val

instance : Membership Lane LaneSet where
  mem lanes lane := lanes.contains lane = true

instance (lane : Lane) (lanes : LaneSet) : Decidable (lane ∈ lanes) :=
  inferInstanceAs (Decidable (lanes.contains lane = true))

def insert (lanes : LaneSet) (lane : Lane) : LaneSet :=
  ⟨lanes.word ||| BitVec.twoPow 32 lane.val⟩

/-- Adds a lane and tells whether it was absent before. -/
def claim (lanes : LaneSet) (lane : Lane) : Bool × LaneSet :=
  (!lanes.contains lane, lanes.insert lane)

/-- The smallest lane that is not in the set. -/
def lowestFree (lanes : LaneSet) : Option Lane :=
  Lane.ofNat? (~~~lanes.word).ctz.toNat

/-- The number of lanes in the set. -/
def size (lanes : LaneSet) : Nat := lanes.word.cpop.toNat

def ofList (lanes : List Lane) : LaneSet :=
  lanes.foldl insert empty

end LaneSet

end Crossbar
