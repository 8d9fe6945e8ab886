import Crossbar.Hardware
import Crossbar.Toml.Reader

/-!
# Settings files

Every section and every key may be left out, and what is not known is passed
over.  A section may also be given as the list of its values in order.
-/

namespace Crossbar

namespace Toml

/-- A record as it is written: by key or by position. -/
inductive Source where
  | byKey (entries : Entries)
  | byPlace (items : List Value)

namespace Value

/-- A date counts as a record without any key. -/
def source? : Value → Option Source
  | .table _ entries => some (.byKey entries)
  | .array items => some (.byPlace items)
  | .tables items => some (.byPlace items)
  | .moment => some (.byKey [])
  | _ => none

def string? : Value → Option String
  | .string text => some text
  | _ => none

def float? : Value → Option Float
  | .float value => some value
  | .int value =>
    let size := value.natAbs.toUInt64.toFloat
    some (if value < 0 then -size else size)
  | _ => none

def uint32? : Value → Option UInt32
  | .int value =>
    if 0 ≤ value ∧ value < (UInt32.size : Nat) then some value.toNat.toUInt32 else none
  | _ => none

def list? {α : Type} (read : Value → Option α) : Value → Option (List α)
  | .array items | .tables items => items.mapM read
  | _ => none

end Value

/-- Reads a field that has a value of its own where it is left out. -/
def Source.field {α : Type} (source : Source) (key : String) (position : Nat)
    (read : Value → Option α) (default : α) : Option α :=
  let written := match source with
    | .byKey entries => entries.find? key
    | .byPlace items => items[position]?
  match written with
  | some value => read value
  | none => some default

end Toml

namespace Settings

open Toml

/-- The blocks and the cluster. -/
def readHardware (value : Value) : Option (List String × String) := do
  let source ← value.source?
  let slots ← source.field "slots" 0 (Value.list? Value.string?) standard.slots
  let cluster ← source.field "cluster" 1 Value.string? standard.cluster
  return (slots, cluster)

/-- The default state of the integrators. -/
def readIntegrators (value : Value) : Option (Float × UInt32) := do
  let source ← value.source?
  let initial ← source.field "ic" 0 Value.float? standard.initial
  let timeScale ← source.field "k" 1 Value.uint32? standard.timeScale
  return (initial, timeScale)

/-- The settings a document holds. -/
def ofEntries (entries : Entries) : Option Settings := do
  let source := Source.byKey entries
  let (slots, cluster) ←
    source.field "hardware" 0 readHardware (standard.slots, standard.cluster)
  let (initial, timeScale) ←
    source.field "integrators" 1 readIntegrators (standard.initial, standard.timeScale)
  return ⟨slots, cluster, initial, timeScale⟩

/-- Reads and validates the text of a settings file. -/
def parse (text : String) : Except SettingsError Settings :=
  match (Toml.read? text).bind ofEntries with
  | none => .error .malformed
  | some settings => do
    settings.validate
    return settings

/-- Reads the settings file of a directory from its bytes, if there is one. -/
def load (file : Option ByteArray) : Except SettingsError Settings :=
  match file with
  | none => .error (.unreadable .missing)
  | some bytes =>
    match String.fromUTF8? bytes with
    | none => .error (.unreadable .notText)
    | some text => parse text

end Settings

end Crossbar
