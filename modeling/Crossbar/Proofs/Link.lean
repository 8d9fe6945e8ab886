import Crossbar.Proofs.Index
import Crossbar.Proofs.Trace
import Crossbar.Routing.Link

/-!
# What a link guarantees

A connection becomes a link exactly when its shape can be routed and its
potentiometer, if it has one, stands for a lane and holds a coefficient in range.
The shape of a link says which of its ends are potentiometers, and a coefficient
in range is a number between -20 and 20.
-/

namespace Crossbar

/-! ## Coefficients in range -/

namespace Link

@[simp]
theorem inRange_one : inRange 1.0 = true := by
  decide

@[simp]
theorem inRange_zero : inRange 0.0 = true := by
  decide

theorem isNaN_of_le {lower coefficient : Float} (bound : lower ≤ coefficient) :
    coefficient.isNaN = false := by
  have decided : lower.le coefficient = true := bound
  have compared : lower.toModel.unpack.le coefficient.toModel.unpack = true :=
    of_decide_eq_true decided
  have unpackedNaN : coefficient.isNaN = coefficient.toModel.unpack.isNaN := rfl
  rw [unpackedNaN]
  cases unpacked : coefficient.toModel.unpack with
  | notANumber =>
      rw [unpacked] at compared
      generalize lower.toModel.unpack = lowerUnpacked at compared
      cases lowerUnpacked <;> cases compared
  | _ =>
      rfl

/-- A coefficient in range is a number between the limits. -/
theorem bounds_of_inRange {coefficient : Float} (ranged : inRange coefficient = true) :
    -20.0 ≤ coefficient ∧ coefficient ≤ 20.0 ∧ coefficient.isNaN = false := by
  simp only [inRange, Bool.and_eq_true, decide_eq_true_eq] at ranged
  obtain ⟨lower, upper⟩ := ranged
  exact ⟨lower, upper, isNaN_of_le lower⟩

theorem inRange_of_bounds {coefficient : Float} (lower : -20.0 ≤ coefficient)
    (upper : coefficient ≤ 20.0) : inRange coefficient = true := by
  simp only [inRange, Bool.and_eq_true, decide_eq_true_eq]
  exact ⟨lower, upper⟩

end Link

/-! ## Shapes -/

/-- The shape of a wire that can be routed. -/
structure Wire.WellShaped (wire : Wire) : Prop where
  notFromSink : wire.source.kind.isSink = false
  notIntoSource : wire.target.kind.isSource = false
  leavesOutput : wire.source.direction = .source
  entersInput : wire.target.direction = .sink
  /-- Two virtual elements have exactly one potentiometer between them. -/
  bridged : ¬(wire.source.kind.isVirtual ∧ wire.target.kind.isVirtual ∧
    (wire.source.kind = .potentiometer ↔ wire.target.kind = .potentiometer))

theorem Wire.shapeFault?_eq_none_iff {wire : Wire} :
    wire.shapeFault? = none ↔ wire.WellShaped := by
  constructor
  · intro noFault
    unfold shapeFault? at noFault
    dsimp only at noFault
    split at noFault
    next => cases noFault
    next notFromSink =>
    split at noFault
    next => cases noFault
    next notIntoSource =>
    split at noFault
    next => cases noFault
    next leavesOutput =>
    split at noFault
    next => cases noFault
    next entersInput =>
    split at noFault
    next => cases noFault
    next bridged =>
      exact ⟨by simpa using notFromSink, by simpa using notIntoSource,
        by simpa using leavesOutput, by simpa using entersInput, bridged⟩
  · intro wellShaped
    simp [shapeFault?, wellShaped.notFromSink, wellShaped.notIntoSource,
      wellShaped.leavesOutput, wellShaped.entersInput, wellShaped.bridged]

instance (wire : Wire) : Decidable wire.WellShaped :=
  decidable_of_iff _ Wire.shapeFault?_eq_none_iff

theorem Port.isVirtual_of_potentiometer {port : Port} (kind : port.kind = .potentiometer) :
    port.kind.isVirtual = true := by
  rw [kind]
  rfl

/-- No wire leads from one potentiometer to another. -/
theorem Wire.WellShaped.target_kind_ne {wire : Wire} (wellShaped : wire.WellShaped)
    (source : wire.source.kind = .potentiometer) : wire.target.kind ≠ .potentiometer := by
  intro target
  exact wellShaped.bridged ⟨Port.isVirtual_of_potentiometer source,
    Port.isVirtual_of_potentiometer target, by simp [source, target]⟩

/-! ## Links of connections -/

namespace Link

/-- The role of a link agrees with the ends of its wire. -/
def Fits (link : Link) : Prop :=
  match link.role with
  | .direct =>
    link.wire.source.kind ≠ .potentiometer ∧ link.wire.target.kind ≠ .potentiometer
  | .feeds lane _ =>
    link.wire.source.kind ≠ .potentiometer ∧ link.wire.target.kind = .potentiometer ∧
      link.wire.target.number.toNat = lane.val
  | .leaves lane _ =>
    link.wire.source.kind = .potentiometer ∧ link.wire.source.number.toNat = lane.val

/-- What every link of a circuit satisfies. -/
structure Sound (link : Link) : Prop where
  shape : link.wire.WellShaped
  fits : link.Fits
  ranged : ∀ coefficient, link.coefficient? = some coefficient → inRange coefficient = true

/-- A potentiometer passes the check when it stands for a lane and its coefficient
is in range. -/
theorem checkPotentiometer_eq_ok_iff {wire : Wire} {endpoint : Endpoint} {lane : Lane}
    {coefficient : Option Float} :
    checkPotentiometer wire endpoint = .ok (lane, coefficient) ↔
      endpoint.port.number.toNat = lane.val ∧ endpoint.coefficient? = coefficient ∧
        ∀ value, endpoint.coefficient? = some value → inRange value = true := by
  rw [← Lane.ofNat?_eq_some_iff]
  unfold checkPotentiometer
  dsimp only
  cases Lane.ofNat? endpoint.port.number.toNat with
  | none =>
      simp
  | some found =>
      cases endpoint.coefficient? with
      | none =>
          simp
      | some value =>
          cases ranged : inRange value <;> simp [ranged]

/-- The error of a potentiometer that fails the check. -/
theorem code_of_checkPotentiometer {wire : Wire} {endpoint : Endpoint} {error : RoutingError}
    (failed : checkPotentiometer wire endpoint = .error error) :
    error.code = ⟨.routing, 109⟩ ∨ error.code = ⟨.routing, 108⟩ := by
  unfold checkPotentiometer at failed
  dsimp only at failed
  split at failed
  next =>
    cases failed
    exact Or.inl rfl
  next => cases failed
  next =>
    split at failed
    next => cases failed
    next =>
      cases failed
      exact Or.inr rfl

theorem code_of_map_checkPotentiometer {wire : Wire} {endpoint : Endpoint} {error : RoutingError}
    {role : Lane × Option Float → Link}
    (failed : (checkPotentiometer wire endpoint).map role = .error error) :
    error.code = ⟨.routing, 109⟩ ∨ error.code = ⟨.routing, 108⟩ := by
  cases checked : checkPotentiometer wire endpoint with
  | ok found =>
      rw [checked] at failed
      cases failed
  | error found =>
      rw [checked] at failed
      cases failed
      exact code_of_checkPotentiometer checked

/-! ### By the shape of the connection -/

section OfConnection

variable {connection : Connection} {link : Link} {lane : Lane} {coefficient : Option Float}

theorem ofConnection_of_fault {fault : ShapeFault}
    (misshapen : connection.wire.shapeFault? = some fault) :
    ofConnection connection = .error ⟨.illegalConnection fault, .connection connection.wire⟩ := by
  simp [ofConnection, misshapen]

theorem ofConnection_of_source (wellShaped : connection.wire.WellShaped)
    (source : connection.wire.source.kind = .potentiometer) :
    ofConnection connection =
      (checkPotentiometer connection.wire connection.source).map fun found =>
        ⟨connection.wire, .leaves found.1 found.2⟩ := by
  have noFault := Wire.shapeFault?_eq_none_iff.mpr wellShaped
  simp only [ofConnection, noFault, source, if_true]
  cases checkPotentiometer connection.wire connection.source <;> rfl

theorem ofConnection_of_target (wellShaped : connection.wire.WellShaped)
    (source : connection.wire.source.kind ≠ .potentiometer)
    (target : connection.wire.target.kind = .potentiometer) :
    ofConnection connection =
      (checkPotentiometer connection.wire connection.target).map fun found =>
        ⟨connection.wire, .feeds found.1 found.2⟩ := by
  have noFault := Wire.shapeFault?_eq_none_iff.mpr wellShaped
  simp only [ofConnection, noFault, source, target, if_true, if_false]
  cases checkPotentiometer connection.wire connection.target <;> rfl

theorem ofConnection_of_direct (wellShaped : connection.wire.WellShaped)
    (source : connection.wire.source.kind ≠ .potentiometer)
    (target : connection.wire.target.kind ≠ .potentiometer) :
    ofConnection connection = .ok ⟨connection.wire, .direct⟩ := by
  have noFault := Wire.shapeFault?_eq_none_iff.mpr wellShaped
  simp only [ofConnection, noFault, source, target, if_false]
  rfl

/-- A well-shaped wire from a potentiometer that passes its check leaves it. -/
theorem ofConnection_leaves (wellShaped : connection.wire.WellShaped)
    (source : connection.wire.source.kind = .potentiometer)
    (checked : checkPotentiometer connection.wire connection.source = .ok (lane, coefficient)) :
    ofConnection connection = .ok ⟨connection.wire, .leaves lane coefficient⟩ := by
  rw [ofConnection_of_source wellShaped source, checked]
  rfl

/-- A well-shaped wire into a potentiometer that passes its check feeds it. -/
theorem ofConnection_feeds (wellShaped : connection.wire.WellShaped)
    (source : connection.wire.source.kind ≠ .potentiometer)
    (target : connection.wire.target.kind = .potentiometer)
    (checked : checkPotentiometer connection.wire connection.target = .ok (lane, coefficient)) :
    ofConnection connection = .ok ⟨connection.wire, .feeds lane coefficient⟩ := by
  rw [ofConnection_of_target wellShaped source target, checked]
  rfl

/-- Links are sound and keep the wire of their connection. -/
theorem sound_of_ofConnection (made : ofConnection connection = .ok link) :
    link.wire = connection.wire ∧ link.Sound := by
  cases shape : connection.wire.shapeFault? with
  | some fault =>
      rw [ofConnection_of_fault shape] at made
      cases made
  | none =>
      have wellShaped := Wire.shapeFault?_eq_none_iff.mp shape
      by_cases source : connection.wire.source.kind = .potentiometer
      · rw [ofConnection_of_source wellShaped source] at made
        cases checked : checkPotentiometer connection.wire connection.source with
        | error error =>
            rw [checked] at made
            cases made
        | ok found =>
            obtain ⟨number, sameCoefficient, ranged⟩ := checkPotentiometer_eq_ok_iff.mp checked
            rw [checked] at made
            cases made
            refine ⟨rfl, wellShaped, ⟨source, number⟩, ?_⟩
            rwa [sameCoefficient] at ranged
      · by_cases target : connection.wire.target.kind = .potentiometer
        · rw [ofConnection_of_target wellShaped source target] at made
          cases checked : checkPotentiometer connection.wire connection.target with
          | error error =>
              rw [checked] at made
              cases made
          | ok found =>
              obtain ⟨number, sameCoefficient, ranged⟩ := checkPotentiometer_eq_ok_iff.mp checked
              rw [checked] at made
              cases made
              refine ⟨rfl, wellShaped, ⟨source, target, number⟩, ?_⟩
              rwa [sameCoefficient] at ranged
        · rw [ofConnection_of_direct wellShaped source target] at made
          cases made
          exact ⟨rfl, wellShaped, ⟨source, target⟩, by simp [coefficient?]⟩

/-- Why a connection makes no link: its shape, or its potentiometer. -/
theorem code_of_ofConnection {error : RoutingError}
    (failed : ofConnection connection = .error error) :
    error.code = ⟨.routing, 102⟩ ∨ error.code = ⟨.routing, 109⟩ ∨
      error.code = ⟨.routing, 108⟩ := by
  cases shape : connection.wire.shapeFault? with
  | some fault =>
      rw [ofConnection_of_fault shape] at failed
      cases failed
      exact Or.inl rfl
  | none =>
      have wellShaped := Wire.shapeFault?_eq_none_iff.mp shape
      by_cases source : connection.wire.source.kind = .potentiometer
      · rw [ofConnection_of_source wellShaped source] at failed
        exact Or.inr (code_of_map_checkPotentiometer failed)
      · by_cases target : connection.wire.target.kind = .potentiometer
        · rw [ofConnection_of_target wellShaped source target] at failed
          exact Or.inr (code_of_map_checkPotentiometer failed)
        · rw [ofConnection_of_direct wellShaped source target] at failed
          cases failed

end OfConnection

end Link

end Crossbar
