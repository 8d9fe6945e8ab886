import Crossbar.Integrator
import Mathlib.Data.List.Induction

/-!
# Collected integrator states

The states of a circuit are written into a bank one after another, so every
integrator ends up with the one that was written last.  A time scale that this state
leaves open is taken from the defaults and not from a state that was written
before.  What is no state of an integrator on the block is never written.
-/

namespace Crossbar.IntegratorBank

/-! ## The last setting -/

/-- The initial value and the time scale that the end of a connection sets for an
integrator. -/
def setting? (number : Fin 8) (endpoint : Endpoint) : Option (Float × Option UInt32) :=
  match endpoint.state with
  | some (.integrator initial timeScale) =>
    if endpoint.port.kind = .integrator ∧ endpoint.port.number.toNat = number.val then
      some (initial, timeScale)
    else none
  | _ => none

/-- The last setting of an integrator in a circuit, where the source of a connection
comes before its target. -/
def lastSetting? (number : Fin 8) (connections : List Connection) :
    Option (Float × Option UInt32) :=
  ((connections.flatMap fun connection => [connection.source, connection.target]).filterMap
    (setting? number)).getLast?

/-- An integrator with a setting; what the setting leaves open is that of the default. -/
def settled (default : IntegratorState) : Option (Float × Option UInt32) → IntegratorState
  | some (initial, timeScale) => ⟨initial, timeScale <|> default.timeScale⟩
  | none => default

/-- Whether the end of a connection is an integrator of the block and carries the state
of one. -/
def isSetting (endpoint : Endpoint) : Bool :=
  match endpoint.state with
  | some (.integrator _ _) =>
    endpoint.port.kind = .integrator ∧ endpoint.port.number.toNat < 8
  | _ => false

/-- The ends of a circuit that set an integrator, in order. -/
def settings (connections : List Connection) : List Endpoint :=
  (connections.flatMap fun connection => [connection.source, connection.target]).filter isSetting

section Steps

variable {defaults : IntegratorBank} {number : Fin 8} {endpoint : Endpoint}
  {setting : Float × Option UInt32} {connections others : List Connection}

theorem setting?_eq_some_iff {initial : Float} {timeScale : Option UInt32} :
    setting? number endpoint = some (initial, timeScale) ↔
      endpoint.state = some (.integrator initial timeScale) ∧
        endpoint.port.kind = .integrator ∧ endpoint.port.number.toNat = number.val := by
  unfold setting?
  split
  next found foundScale state =>
    rw [Option.ite_none_right_eq_some, state]
    simp [and_comm]
  next other =>
    simp only [reduceCtorEq, false_iff]
    exact fun ⟨state, _⟩ => other _ _ state

theorem isSetting_of_setting? (set : setting? number endpoint = some setting) :
    isSetting endpoint = true := by
  obtain ⟨state, kind, here⟩ := setting?_eq_some_iff.mp set
  simp [isSetting, state, kind, here]

/-- What one write does to one integrator. -/
theorem getElem_record (defaults bank : IntegratorBank) (endpoint : Endpoint) (number : Fin 8) :
    (record defaults bank endpoint)[number] =
      match setting? number endpoint with
      | some setting => settled defaults[number] setting
      | none => bank[number] := by
  unfold record
  split
  next initial timeScale kind state =>
    have set : setting? number endpoint =
        if endpoint.port.number.toNat = number.val then some (initial, timeScale) else none := by
      simp [setting?, state, kind]
    rw [set]
    by_cases here : endpoint.port.number.toNat = number.val
    · simp [here, settled]
    · by_cases onBank : endpoint.port.number.toNat < 8 <;> simp [onBank, here]
  next other =>
    have unset : setting? number endpoint = none := by
      rw [Option.eq_none_iff_forall_ne_some]
      rintro ⟨initial, timeScale⟩ set
      obtain ⟨state, kind, _⟩ := setting?_eq_some_iff.mp set
      exact other initial timeScale kind state
    rw [unset]

/-- After writing the states at any ends of connections, every integrator has the last
setting among them. -/
theorem getElem_foldl_record (defaults : IntegratorBank) (listed : List Endpoint)
    (number : Fin 8) :
    (listed.foldl (record defaults) defaults)[number] =
      settled defaults[number] (listed.filterMap (setting? number)).getLast? := by
  induction listed using List.reverseRecOn with
  | nil =>
      rfl
  | append_singleton before endpoint inductionHypothesis =>
      rw [List.foldl_append, List.foldl_cons, List.foldl_nil, getElem_record,
        List.filterMap_append]
      cases set : setting? number endpoint with
      | some setting => simp [set]
      | none => simp [set, inductionHypothesis]

theorem getElem_collect (connections : List Connection) (defaults : IntegratorBank)
    (number : Fin 8) :
    (collect connections defaults)[number] =
      settled defaults[number] (lastSetting? number connections) :=
  getElem_foldl_record defaults (endpoints connections) number

/-- Two banks are the same if all integrators have the same states. -/
theorem eq_of_getElem {first second : IntegratorBank}
    (same : ∀ number : Fin 8, first[number] = second[number]) : first = second :=
  Vector.ext fun place inRange => same ⟨place, inRange⟩

/-- Only ends that set an integrator matter. -/
theorem lastSetting?_congr (number : Fin 8)
    (same : settings connections = settings others) :
    lastSetting? number connections = lastSetting? number others := by
  have onlySettings (listed : List Endpoint) :
      listed.filterMap (setting? number) =
        (listed.filter isSetting).filterMap (setting? number) := by
    rw [List.filterMap_filter]
    congr 1
    funext endpoint
    cases set : setting? number endpoint with
    | some setting => rw [if_pos (isSetting_of_setting? set)]
    | none => simp
  rw [lastSetting?, onlySettings, ← settings, same, settings, ← onlySettings, lastSetting?]

/-- A setting that is settled leaves nothing open for another default. -/
theorem settled_settled (default : IntegratorState) (last : Option (Float × Option UInt32)) :
    settled (settled default last) last = settled default last := by
  cases last with
  | none => rfl
  | some setting =>
      obtain ⟨initial, timeScale⟩ := setting
      cases timeScale <;> rfl

end Steps

/-- The bank that a circuit leaves behind. -/
structure HoldsLast (connections : List Connection) (defaults bank : IntegratorBank) : Prop where
  entry : ∀ number : Fin 8,
    bank[number] = settled defaults[number] (lastSetting? number connections)
  onlySettings : ∀ others, settings others = settings connections →
    collect others defaults = bank
  again : collect connections bank = bank

/-- Every integrator has the state that was written last, over the default. -/
theorem holdsLast_collect (connections : List Connection) (defaults : IntegratorBank) :
    HoldsLast connections defaults (collect connections defaults) where
  entry := getElem_collect connections defaults
  onlySettings others same := by
    apply eq_of_getElem
    intro number
    rw [getElem_collect, getElem_collect, lastSetting?_congr number same]
  again := by
    apply eq_of_getElem
    intro number
    rw [getElem_collect, getElem_collect, settled_settled]

/-- The time scale of a state that was overwritten is not used. -/
example :
    let output : Port := .ofTerminal .integrator 2 .output (by decide)
    let input : Port := .ofTerminal .integrator 2 .input (by decide)
    (collect [⟨⟨output, some (.integrator 0.5 (some 10000))⟩,
        ⟨input, some (.integrator 0.25 none)⟩⟩] .reset)[2] = ⟨0.25, some defaultTimeScale⟩ :=
  rfl

end Crossbar.IntegratorBank
