import Crossbar.Decimal.Text
import Crossbar.Diagnostic.Basic
import Crossbar.Integrator
import Crossbar.Layout

/-!
# Hardware settings

Settings name the blocks in the two slots, the cluster that is addressed and the
default state of the integrators.  A file of settings is validated as a whole;
settings made in another way are only resolved.  Both look at the blocks first,
and in the same way.
-/

namespace Crossbar

/-- Settings as they are written. -/
structure Settings where
  slots : List String
  cluster : String
  initial : Float
  timeScale : UInt32
  deriving BEq, Repr

/-- Settings ready for use. -/
structure Hardware where
  layout : Layout
  integrators : IntegratorBank
  cluster : String
  deriving BEq, Repr

/-- What is wrong with a value of the settings. -/
inductive InvalidSetting where
  | wrongSlotCount (found : Nat)
  | emptyCluster
  | zeroTimeScale
  | initialOutOfRange (initial : Float)
  deriving BEq, Repr

def InvalidSetting.message : InvalidSetting → String
  | .wrongSlotCount found => s!"hardware.slots needs {slotCount} entries, found {found}"
  | .emptyCluster => "hardware.cluster must not be empty"
  | .zeroTimeScale => "integrators.k must be positive"
  | .initialOutOfRange initial =>
    s!"integrators.ic = {Decimal.Form.message.write initial} outside [-1, 1]"

/-- Why a file cannot be read at all. -/
inductive FileError where
  | missing
  | notText
  deriving DecidableEq, Repr

def FileError.message : FileError → String
  | .missing => "No such file or directory (os error 2)"
  | .notText => "stream did not contain valid UTF-8"

inductive SettingsError where
  | unreadable (error : FileError)
  /-- The text is no settings document, or a value has the wrong type. -/
  | malformed
  | unknownBlock (name : String)
  | invalid (setting : InvalidSetting)
  deriving BEq, Repr

namespace SettingsError

def message : SettingsError → String
  | .unreadable error => s!"failed to read configuration: {error.message}"
  | .malformed => "failed to parse configuration"
  | .unknownBlock name => s!"unknown M-block kind '{name}' (expected \"Mul\" or \"Int\")"
  | .invalid setting => s!"validation error: {setting.message}"

def code : SettingsError → Code
  | .unreadable _ => ⟨.config, 401⟩
  | .malformed => ⟨.config, 402⟩
  | .unknownBlock _ => ⟨.config, 403⟩
  | .invalid _ => ⟨.config, 404⟩

/-- The name of the settings file. -/
def fileName : String := "lucidac.toml"

def diagnostic (error : SettingsError) : Diagnostic :=
  let plain := (Diagnostic.error error.code error.message).withSubject fileName
  match error with
  | .unknownBlock _ =>
    plain.withHelp "use `slots = [\"Mul\", \"Int\"]` for the standard LUCIDAC"
  | _ => plain

end SettingsError

namespace Settings

/-- The standard hardware. -/
def standard : Settings := ⟨["Mul", "Int"], "0", 0.0, defaultTimeScale⟩

instance : Inhabited Settings := ⟨standard⟩

def parseBlock (name : String) : Except SettingsError Block :=
  match Block.ofName? name with
  | some block => .ok block
  | none => .error (.unknownBlock name)

/-- Resolves the blocks: there are two, and each name is that of a block. -/
def layout (settings : Settings) : Except SettingsError Layout :=
  match settings.slots with
  | [first, second] => do
    let slot0 ← parseBlock first
    let slot1 ← parseBlock second
    return ⟨slot0, slot1⟩
  | slots => .error (.invalid (.wrongSlotCount slots.length))

/-- Resolves settings; what is not a block is taken as it is. -/
def resolve (settings : Settings) : Except SettingsError Hardware := do
  let layout ← settings.layout
  let state : IntegratorState := ⟨settings.initial, some settings.timeScale⟩
  return ⟨layout, Vector.replicate 8 state, settings.cluster⟩

/-- Checks every value. -/
def validate (settings : Settings) : Except SettingsError Unit := do
  if settings.slots.length ≠ slotCount then
    throw (.invalid (.wrongSlotCount settings.slots.length))
  for name in settings.slots do
    let _ ← parseBlock name
  if settings.cluster.isEmpty then
    throw (.invalid .emptyCluster)
  if settings.timeScale = 0 then
    throw (.invalid .zeroTimeScale)
  if !(-1.0 ≤ settings.initial && settings.initial ≤ 1.0) then
    throw (.invalid (.initialOutOfRange settings.initial))

end Settings

end Crossbar
