/-!
# Settings documents

A document is a table of named values, built up line by line.  Headers and
dotted keys name tables on the way to a value, and the same name may only come
up again in ways that do not define a table twice.
-/

namespace Crossbar.Toml

/-- How a table came to be.  That decides what may be added to it. -/
inductive Form where
  /-- By a header of its own. -/
  | header
  /-- On the way to the table of a longer header. -/
  | implied
  /-- By a dotted key. -/
  | dotted
  /-- Written out as a value. -/
  | inline
  deriving DecidableEq, Repr

inductive Value where
  | string (text : String)
  | int (value : Int)
  | float (value : Float)
  | bool (value : Bool)
  /-- A date or a time of day. -/
  | moment
  | array (items : List Value)
  | table (form : Form) (entries : List (String × Value))
  /-- Tables that share one header, the latest last. -/
  | tables (items : List Value)
  deriving Inhabited, Repr

/-- The named values of a table. -/
abbrev Entries := List (String × Value)

namespace Entries

def find? (entries : Entries) (key : String) : Option Value := entries.lookup key

/-- Sets a value, in place if the key is there. -/
def set (entries : Entries) (key : String) (value : Value) : Entries :=
  match entries with
  | [] => [(key, value)]
  | (other, old) :: rest =>
    if other == key then (key, value) :: rest else (other, old) :: set rest key value

end Entries

/-! ## Building a document -/

/-- Who walks along a path of keys: a header or a dotted key. -/
inductive Walk where
  | byHeader
  | byKey
  deriving DecidableEq, Repr

namespace Walk

/-- The form of a table that is created on the way. -/
def form : Walk → Form
  | .byHeader => .implied
  | .byKey => .dotted

/-- Whether a table of the given form may be entered. -/
def mayEnter : Walk → Form → Bool
  | .byHeader, .inline => false
  | .byHeader, _ => true
  | .byKey, .header => false
  | .byKey, .inline => false
  | .byKey, _ => true

end Walk

/-- Changes the table at the end of a path, creating what is missing on the way.
Nothing is returned if the path runs into a value or a closed table, or if the
change is refused. -/
def modify (walk : Walk) (change : Form → Entries → Option Entries) :
    List String → Form → Entries → Option Entries
  | [], form, entries => change form entries
  | key :: path, _, entries =>
    match entries.find? key with
    | none =>
      (modify walk change path walk.form []).map fun inner =>
        entries.set key (.table walk.form inner)
    | some (.table form inner) =>
      if walk.mayEnter form then
        (modify walk change path form inner).map fun inner =>
          entries.set key (.table form inner)
      else none
    | some (.tables items) =>
      match items.getLast? with
      | some (.table form inner) =>
        (modify walk change path form inner).map fun inner =>
          entries.set key (.tables (items.dropLast ++ [.table form inner]))
      | _ => none
    | some _ => none

/-- Adds a value under a dotted key.  The last table on the way must have been
made by dotted keys too, and the key must be new. -/
def addValue (path : List String) (key : String) (value : Value) :
    Form → Entries → Option Entries :=
  modify .byKey (fun form entries =>
    if (form == .dotted) == path.isEmpty then none
    else if (entries.find? key).isSome then none
    else some (entries.set key value)) path

/-- Opens a table by its header.  It may have been implied before. -/
def openTable (path : List String) (key : String) : Entries → Option Entries :=
  modify .byHeader (fun _ entries =>
    match entries.find? key with
    | none => some (entries.set key (.table .header []))
    | some (.table .implied inner) => some (entries.set key (.table .header inner))
    | some _ => none) path .header

/-- Opens one more of the tables that share a header. -/
def openNextTable (path : List String) (key : String) : Entries → Option Entries :=
  modify .byHeader (fun _ entries =>
    match entries.find? key with
    | none => some (entries.set key (.tables [.table .header []]))
    | some (.tables items) => some (entries.set key (.tables (items ++ [.table .header []])))
    | some _ => none) path .header

/-- A line that says something: a value, a header, or a header that may repeat.
The last key of a path is kept apart. -/
inductive Statement where
  | value (path : List String) (key : String) (value : Value)
  | table (path : List String) (key : String)
  | nextTable (path : List String) (key : String)
  deriving Repr

/-- A document and the path of the table that values are added to. -/
structure Draft where
  entries : Entries
  current : List String
  deriving Repr

namespace Draft

def empty : Draft := ⟨[], []⟩

def add? (draft : Draft) : Statement → Option Draft
  | .value path key value => do
    let entries ← modify .byHeader (addValue path key value) draft.current .header draft.entries
    return { draft with entries }
  | .table path key => do
    let entries ← openTable path key draft.entries
    return ⟨entries, path ++ [key]⟩
  | .nextTable path key => do
    let entries ← openNextTable path key draft.entries
    return ⟨entries, path ++ [key]⟩

end Draft

/-- The document that statements build up, unless one of them is refused. -/
def ofStatements (statements : List Statement) : Option Entries :=
  (statements.foldlM Draft.add? Draft.empty).map Draft.entries

end Crossbar.Toml
