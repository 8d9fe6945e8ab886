/-!
# JSON values

A JSON value as it stands in a text: members keep their order and their
repetitions, and whole numbers are told apart from numbers written with a point
or an exponent.

A text is always read to some value.  Where it cannot be read the value has a
*flaw*, so that a decoder walking the value meets the faults of the content and
the faults of the notation in the order of the text.
-/

namespace Crossbar

/-- Why a part of a text has no value. -/
inductive Json.Flaw where
  /-- The text stops being JSON here. -/
  | broken
  /-- The name of a member has half of a surrogate pair. -/
  | name
  /-- A string has half of a surrogate pair. -/
  | text
  /-- A number exceeds every double. -/
  | range
  /-- Arrays and objects are nested more than 127 deep. -/
  | depth
  deriving DecidableEq, Repr

inductive Json where
  | null
  | bool (value : Bool)
  | int (value : Int)
  | float (value : Float)
  | string (text : String)
  | array (items : List Json)
  | object (members : List (String × Json))
  | flaw (cause : Json.Flaw)
  deriving Inhabited, Repr

namespace Json

/-! ## Flaws -/

mutual

/-- Whether a value may be passed over: only broken notation stops a reader that
does not look inside. -/
def skippable : Json → Bool
  | .flaw cause => cause != .broken
  | .array items => skippableItems items
  | .object members => skippableMembers members
  | _ => true

def skippableItems : List Json → Bool
  | [] => true
  | item :: rest => skippable item && skippableItems rest

def skippableMembers : List (String × Json) → Bool
  | [] => true
  | (_, value) :: rest => skippable value && skippableMembers rest

end

mutual

/-- Whether a value has no flaw anywhere. -/
def whole : Json → Bool
  | .flaw _ => false
  | .array items => wholeItems items
  | .object members => wholeMembers members
  | _ => true

def wholeItems : List Json → Bool
  | [] => true
  | item :: rest => whole item && wholeItems rest

def wholeMembers : List (String × Json) → Bool
  | [] => true
  | (_, value) :: rest => whole value && wholeMembers rest

end

/-! ## Free-form values -/

/-- Puts a member at its place in a list sorted by name, replacing an earlier
one of that name. -/
def setMember (name : String) (value : Json) : List (String × Json) → List (String × Json)
  | [] => [(name, value)]
  | (other, old) :: rest =>
    if name < other then (name, value) :: (other, old) :: rest
    else if name == other then (name, value) :: rest
    else (other, old) :: setMember name value rest

mutual

/-- The value with every object sorted by name and the last of several members
of one name kept. -/
def sorted : Json → Json
  | .array items => .array (sortedItems items)
  | .object members => .object (sortedMembers [] members)
  | value => value

def sortedItems : List Json → List Json
  | [] => []
  | item :: rest => sorted item :: sortedItems rest

def sortedMembers (done : List (String × Json)) : List (String × Json) → List (String × Json)
  | [] => done
  | (name, value) :: rest => sortedMembers (setMember name (sorted value) done) rest

end

end Json

end Crossbar
