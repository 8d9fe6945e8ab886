import Crossbar.Encoding.Settings
import Crossbar.Proofs.Link
import Crossbar.Proofs.Trace

/-!
# Settings that are accepted

Settings are looked at twice: those of a file are validated, and all are resolved into
hardware.  Either goes through the slots on its own.  They go through them alike, so that
validation is the resolution of the blocks with a check of the other values behind it.

From this it follows which settings are accepted, that these resolve to the hardware they
describe, and that settings which do not resolve are refused with the very same error.
-/

namespace Crossbar

/-! ## Names of blocks -/

/-- The names of the blocks in settings. -/
inductive Block.IsNamed : Block → String → Prop
  | integrators : IsNamed .integrators "Int"
  | multipliers : IsNamed .multipliers "Mul"

theorem Block.ofName?_eq_some_iff {block : Block} {name : String} :
    ofName? name = some block ↔ block.IsNamed name := by
  constructor
  · intro found
    have named : block.name = name := by
      simpa using List.find?_some found
    rw [← named]
    cases block with
    | integrators => exact .integrators
    | multipliers => exact .multipliers
  · intro named
    cases named with
    | integrators => rfl
    | multipliers => rfl

theorem Block.exists_isNamed_iff {name : String} :
    (∃ block : Block, block.IsNamed name) ↔ name = "Mul" ∨ name = "Int" := by
  constructor
  · rintro ⟨block, named⟩
    cases named with
    | integrators => exact Or.inr rfl
    | multipliers => exact Or.inl rfl
  · rintro (rfl | rfl)
    · exact ⟨.multipliers, .multipliers⟩
    · exact ⟨.integrators, .integrators⟩

namespace Settings

variable {settings : Settings} {layout : Layout} {hardware : Hardware} {block : Block}
  {name first second : String} {error : SettingsError}

theorem parseBlock_eq_ok_iff : parseBlock name = .ok block ↔ block.IsNamed name := by
  rw [← Block.ofName?_eq_some_iff, parseBlock]
  cases Block.ofName? name with
  | none => simp
  | some found => simp

/-! ## Slots -/

theorem layout_of_length (wrong : settings.slots.length ≠ slotCount) :
    settings.layout = .error (.invalid (.wrongSlotCount settings.slots.length)) := by
  unfold layout
  split
  next first second pair => simp [pair, slotCount] at wrong
  next => rfl

theorem layout_of_pair (pair : settings.slots = [first, second]) :
    settings.layout = (do
      let slot0 ← parseBlock first
      let slot1 ← parseBlock second
      return ⟨slot0, slot1⟩) := by
  rw [layout, pair]

/-- The blocks of a layout are those that the slots name, in order. -/
theorem layout_eq_ok_iff :
    settings.layout = .ok layout ↔ List.Forall₂ Block.IsNamed layout.slots settings.slots := by
  by_cases right : settings.slots.length = slotCount
  · obtain ⟨first, second, pair⟩ := List.length_eq_two.mp right
    obtain ⟨slot0, slot1⟩ := layout
    rw [layout_of_pair pair, pair]
    simp only [bind_eq_ok_iff, pure_eq_ok_iff, parseBlock_eq_ok_iff, Layout.slots,
      List.forall₂_cons, List.forall₂_nil_left_iff]
    constructor
    · rintro ⟨_, firstNamed, _, secondNamed, ⟨⟩⟩
      exact ⟨firstNamed, secondNamed, trivial⟩
    · rintro ⟨firstNamed, secondNamed, _⟩
      exact ⟨slot0, firstNamed, slot1, secondNamed, rfl⟩
  · rw [layout_of_length right]
    simp only [reduceCtorEq, false_iff]
    intro named
    exact right named.length_eq.symm

/-- Slots resolve to a layout when there are two and each names a block. -/
theorem exists_layout_iff :
    (∃ layout, settings.layout = .ok layout) ↔
      settings.slots.length = slotCount ∧
        ∀ name ∈ settings.slots, name = "Mul" ∨ name = "Int" := by
  simp only [layout_eq_ok_iff, ← Block.exists_isNamed_iff]
  constructor
  · rintro ⟨layout, named⟩
    refine ⟨named.length_eq.symm, fun name listed => ?_⟩
    obtain ⟨block, _, isNamed⟩ := exists_result named listed
    exact ⟨block, isNamed⟩
  · rintro ⟨right, named⟩
    obtain ⟨first, second, pair⟩ := List.length_eq_two.mp right
    rw [pair] at named ⊢
    obtain ⟨slot0, firstNamed⟩ := named first (by simp)
    obtain ⟨slot1, secondNamed⟩ := named second (by simp)
    exact ⟨⟨slot0, slot1⟩, .cons firstNamed (.cons secondNamed .nil)⟩

/-! ## Validation -/

/-- The check of all values but the slots. -/
def checkValues (settings : Settings) : Except SettingsError Unit :=
  if settings.cluster = "" then .error (.invalid .emptyCluster)
  else if settings.timeScale = 0 then .error (.invalid .zeroTimeScale)
  else if -1.0 ≤ settings.initial ∧ settings.initial ≤ 1.0 then .ok ()
  else .error (.invalid (.initialOutOfRange settings.initial))

theorem checkValues_eq_ok_iff :
    settings.checkValues = .ok () ↔
      settings.cluster ≠ "" ∧ 0 < settings.timeScale ∧
        -1.0 ≤ settings.initial ∧ settings.initial ≤ 1.0 := by
  have positive : 0 < settings.timeScale ↔ settings.timeScale ≠ 0 := by
    rw [UInt32.lt_iff_toNat_lt, ← UInt32.toNat_inj.ne]
    exact Nat.pos_iff_ne_zero
  rw [positive]
  unfold checkValues
  split
  next unnamed => simp [unnamed]
  next named =>
    split
    next stopped => simp [stopped]
    next running =>
      split
      next inside => simp [named, running, inside]
      next outside => simpa [named, running] using outside

theorem validate_of_length (wrong : settings.slots.length ≠ slotCount) :
    settings.validate = .error (.invalid (.wrongSlotCount settings.slots.length)) := by
  rw [validate, if_pos wrong]
  rfl

theorem validate_of_pair (pair : settings.slots = [first, second]) :
    settings.validate = (do
      let _ ← parseBlock first
      let _ ← parseBlock second
      settings.checkValues) := by
  have right : ¬settings.slots.length ≠ slotCount := by
    simp [pair, slotCount]
  rw [validate, if_neg right, pair]
  simp only [List.forIn_cons, List.forIn_nil, String.isEmpty_iff]
  cases parseBlock first with
  | error error => rfl
  | ok slot0 =>
      cases parseBlock second with
      | error error => rfl
      | ok slot1 =>
          unfold checkValues
          by_cases unnamed : settings.cluster = ""
          · rw [if_pos unnamed, if_pos unnamed]
            rfl
          · rw [if_neg unnamed, if_neg unnamed]
            by_cases stopped : settings.timeScale = 0
            · rw [if_pos stopped, if_pos stopped]
              rfl
            · rw [if_neg stopped, if_neg stopped]
              by_cases inside : -1.0 ≤ settings.initial ∧ settings.initial ≤ 1.0
              · rw [if_neg (by simpa using inside), if_pos inside]
                rfl
              · rw [if_pos (by simpa [-not_and, not_and_or] using inside), if_neg inside]
                rfl

/-- Validation resolves the blocks and then checks the other values. -/
theorem validate_eq (settings : Settings) :
    settings.validate = settings.layout >>= fun _ => settings.checkValues := by
  by_cases right : settings.slots.length = slotCount
  · obtain ⟨first, second, pair⟩ := List.length_eq_two.mp right
    rw [validate_of_pair pair, layout_of_pair pair]
    simp only [bind_assoc, pure_bind]
  · rw [validate_of_length right, layout_of_length right]
    rfl

/-- Settings that can be used. -/
structure Admissible (settings : Settings) : Prop where
  twoSlots : settings.slots.length = 2
  named : ∀ name ∈ settings.slots, name = "Mul" ∨ name = "Int"
  cluster : settings.cluster ≠ ""
  timeScale : 0 < settings.timeScale
  lower : -1.0 ≤ settings.initial
  upper : settings.initial ≤ 1.0

theorem validate_eq_ok_iff : settings.validate = .ok () ↔ settings.Admissible := by
  rw [validate_eq, bind_eq_ok_iff]
  simp only [exists_and_right, exists_layout_iff, checkValues_eq_ok_iff]
  constructor
  · rintro ⟨⟨twoSlots, named⟩, cluster, timeScale, lower, upper⟩
    exact ⟨twoSlots, named, cluster, timeScale, lower, upper⟩
  · rintro ⟨twoSlots, named, cluster, timeScale, lower, upper⟩
    exact ⟨⟨twoSlots, named⟩, cluster, timeScale, lower, upper⟩

/-! ## Resolution -/

/-- The hardware that settings describe. -/
structure Describes (settings : Settings) (hardware : Hardware) : Prop where
  blocks : List.Forall₂ Block.IsNamed hardware.layout.slots settings.slots
  integrators : ∀ state ∈ hardware.integrators,
    state = ⟨settings.initial, some settings.timeScale⟩
  cluster : hardware.cluster = settings.cluster

theorem resolve_eq_ok_iff : settings.resolve = .ok hardware ↔ settings.Describes hardware := by
  rw [resolve, bind_eq_ok_iff]
  constructor
  · rintro ⟨layout, resolved, rest⟩
    cases rest
    exact ⟨layout_eq_ok_iff.mp resolved, fun state => Vector.eq_of_mem_replicate, rfl⟩
  · rintro ⟨blocks, integrators, cluster⟩
    refine ⟨hardware.layout, layout_eq_ok_iff.mpr blocks, ?_⟩
    have sameBank : hardware.integrators =
        Vector.replicate 8 ⟨settings.initial, some settings.timeScale⟩ :=
      Vector.eq_replicate_iff.mpr integrators
    dsimp only
    rw [← sameBank, ← cluster]
    rfl

/-- Only the slots can keep settings from resolving. -/
theorem layout_of_resolve (failed : settings.resolve = .error error) :
    settings.layout = .error error := by
  rcases bind_eq_error_iff.mp failed with here | ⟨_, _, later⟩
  · exact here
  · cases later

/-- Settings that do not resolve are refused with the same error. -/
theorem validate_of_resolve (failed : settings.resolve = .error error) :
    settings.validate = .error error := by
  rw [validate_eq, layout_of_resolve failed]
  rfl

theorem exists_resolve_of_validate (accepted : settings.validate = .ok ()) :
    ∃ hardware, settings.resolve = .ok hardware := by
  rw [validate_eq, bind_eq_ok_iff] at accepted
  obtain ⟨layout, resolved, _⟩ := accepted
  exact ⟨_, bind_eq_ok_iff.mpr ⟨layout, resolved, rfl⟩⟩

/-! ## Settings of a file -/

/-- The text is a document of the settings. -/
def IsHeldBy (settings : Settings) (text : String) : Prop :=
  (Toml.read? text).bind ofEntries = some settings

theorem IsHeldBy.parse_eq {text : String} (held : settings.IsHeldBy text) :
    parse text = settings.validate.map fun _ => settings := by
  rw [parse, held]
  dsimp only
  cases settings.validate with
  | error error => rfl
  | ok _ => rfl

/-- Validation and resolution agree on what settings can be used. -/
structure ChecksAgree (settings : Settings) : Prop where
  accepts_iff : settings.validate = .ok () ↔ settings.Admissible
  isNumber : settings.validate = .ok () → settings.initial.isNaN = false
  resolves : settings.validate = .ok () →
    ∃ hardware, settings.resolve = .ok hardware ∧ settings.Describes hardware
  sameError : ∀ error, settings.resolve = .error error → settings.validate = .error error
  loads_iff : ∀ text, settings.IsHeldBy text →
    (parse text = .ok settings ↔ settings.Admissible)
  refuses : ∀ text error, settings.IsHeldBy text → settings.resolve = .error error →
    parse text = .error error

/-- Whatever the settings are, those that are validated resolve to what they describe, and
those that do not resolve are refused with the same error. -/
theorem checksAgree (settings : Settings) : ChecksAgree settings where
  accepts_iff := validate_eq_ok_iff
  isNumber accepted := Link.isNaN_of_le (validate_eq_ok_iff.mp accepted).lower
  resolves accepted := by
    obtain ⟨hardware, resolved⟩ := exists_resolve_of_validate accepted
    exact ⟨hardware, resolved, resolve_eq_ok_iff.mp resolved⟩
  sameError _ := validate_of_resolve
  loads_iff text held := by
    rw [held.parse_eq, ← validate_eq_ok_iff]
    cases settings.validate with
    | error error => simp [Except.map]
    | ok _ => simp [Except.map]
  refuses text error held failed := by
    rw [held.parse_eq, validate_of_resolve failed]
    rfl

/-- An initial value that is no number is refused. -/
example : validate { standard with initial := 0.0 / 0.0 } =
    .error (.invalid (.initialOutOfRange (0.0 / 0.0))) :=
  rfl

end Settings

end Crossbar
