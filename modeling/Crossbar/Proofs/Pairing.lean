import Crossbar.Proofs.Placement
import Crossbar.Proofs.Resolution

/-!
# What potentiometers stand for

A connection is direct, feeds the potentiometer of a lane, leaves one, or is
refused.  A half that leaves a potentiometer stands for a connection from the source
of the first half that feeds it, wherever in the circuit that one is.  This meaning
looks at connections and their positions alone, and resolving a circuit gives exactly
what its connections mean.
-/

namespace Crossbar

/-! ## The four kinds of connections -/

/-- The lane of a potentiometer whose coefficient, if it has one, is within the
limits. -/
def Endpoint.lane? (endpoint : Endpoint) : Option Lane :=
  if endpoint.port.kind = .potentiometer ∧
      ∀ coefficient ∈ endpoint.coefficient?, -20.0 ≤ coefficient ∧ coefficient ≤ 20.0 then
    Lane.ofNat? endpoint.port.number.toNat
  else none

theorem Endpoint.lane?_eq_some_iff {endpoint : Endpoint} {lane : Lane} :
    endpoint.lane? = some lane ↔ endpoint.port.kind = .potentiometer ∧
      (∀ coefficient ∈ endpoint.coefficient?, -20.0 ≤ coefficient ∧ coefficient ≤ 20.0) ∧
      endpoint.port.number.toNat = lane.val := by
  rw [lane?, Option.ite_none_right_eq_some, Lane.ofNat?_eq_some_iff, and_assoc]

namespace Connection

/-- No potentiometer is involved. -/
def IsDirect (connection : Connection) : Prop :=
  connection.wire.WellShaped ∧ connection.source.port.kind ≠ .potentiometer ∧
    connection.target.port.kind ≠ .potentiometer

instance (connection : Connection) : Decidable connection.IsDirect :=
  inferInstanceAs (Decidable (_ ∧ _))

/-- The lane whose potentiometer a connection feeds. -/
def fedLane? (connection : Connection) : Option Lane :=
  if connection.wire.WellShaped then connection.target.lane? else none

/-- The lane whose potentiometer a connection leaves. -/
def leftLane? (connection : Connection) : Option Lane :=
  if connection.wire.WellShaped then connection.source.lane? else none

def IsValid (connection : Connection) : Prop :=
  connection.IsDirect ∨ connection.fedLane?.isSome = true ∨ connection.leftLane?.isSome = true

instance (connection : Connection) : Decidable connection.IsValid :=
  inferInstanceAs (Decidable (_ ∨ _))

/-- The error of a connection that is not valid: R102, R109 or R108. -/
inductive Refused (connection : Connection) : RoutingError → Prop
  | misshapen {fault : ShapeFault} (shape : connection.wire.shapeFault? = some fault) :
      Refused connection ⟨.illegalConnection fault, .connection connection.wire⟩
  | beyond {endpoint : Endpoint} (shape : connection.wire.WellShaped)
      (isEnd : endpoint = connection.source ∨ endpoint = connection.target)
      (kind : endpoint.port.kind = .potentiometer) (beyond : 32 ≤ endpoint.port.number.toNat) :
      Refused connection ⟨.potentiometerOutOfRange endpoint.port.number,
        .route connection.wire (some endpoint.port.number)⟩
  | excessive {endpoint : Endpoint} {coefficient : Float} (shape : connection.wire.WellShaped)
      (isEnd : endpoint = connection.source ∨ endpoint = connection.target)
      (kind : endpoint.port.kind = .potentiometer) (within : endpoint.port.number.toNat < 32)
      (set : endpoint.coefficient? = some coefficient)
      (excess : ¬(-20.0 ≤ coefficient ∧ coefficient ≤ 20.0)) :
      Refused connection ⟨.coefficientOutOfRange coefficient,
        .route connection.wire (some endpoint.port.number)⟩

/-- A connection is of one of four kinds, and makes the link of its kind. -/
inductive Makes (connection : Connection) : Except RoutingError Link → Prop
  | direct (isDirect : connection.IsDirect) (unfed : connection.fedLane? = none)
      (unleft : connection.leftLane? = none) : Makes connection (.ok ⟨connection.wire, .direct⟩)
  | feeds {lane : Lane} (indirect : ¬connection.IsDirect) (fed : connection.fedLane? = some lane)
      (unleft : connection.leftLane? = none) :
      Makes connection (.ok ⟨connection.wire, .feeds lane connection.target.coefficient?⟩)
  | leaves {lane : Lane} (indirect : ¬connection.IsDirect) (unfed : connection.fedLane? = none)
      (left : connection.leftLane? = some lane) :
      Makes connection (.ok ⟨connection.wire, .leaves lane connection.source.coefficient?⟩)
  | refused {error : RoutingError} (invalid : ¬connection.IsValid)
      (refused : connection.Refused error) : Makes connection (.error error)

variable {connection : Connection} {endpoint : Endpoint} {lane : Lane}

theorem fedLane?_of_wellShaped (shape : connection.wire.WellShaped) :
    connection.fedLane? = connection.target.lane? :=
  if_pos shape

theorem leftLane?_of_wellShaped (shape : connection.wire.WellShaped) :
    connection.leftLane? = connection.source.lane? :=
  if_pos shape

theorem lane?_eq_none_of_kind (kind : endpoint.port.kind ≠ .potentiometer) :
    endpoint.lane? = none := by
  simp [Endpoint.lane?, kind]

theorem checkPotentiometer_of_lane (tuned : endpoint.lane? = some lane) :
    Link.checkPotentiometer connection.wire endpoint = .ok (lane, endpoint.coefficient?) := by
  obtain ⟨_, limited, number⟩ := Endpoint.lane?_eq_some_iff.mp tuned
  refine Link.checkPotentiometer_eq_ok_iff.mpr ⟨number, rfl, ?_⟩
  intro coefficient set
  obtain ⟨lower, upper⟩ := limited coefficient set
  exact Link.inRange_of_bounds lower upper

theorem refused_of_lane_eq_none (shape : connection.wire.WellShaped)
    (isEnd : endpoint = connection.source ∨ endpoint = connection.target)
    (kind : endpoint.port.kind = .potentiometer) (untuned : endpoint.lane? = none) :
    ∃ error, Link.checkPotentiometer connection.wire endpoint = .error error ∧
      connection.Refused error := by
  by_cases within : endpoint.port.number.toNat < 32
  · have onLane : Lane.ofNat? endpoint.port.number.toNat = some ⟨_, within⟩ := dif_pos within
    cases set : endpoint.coefficient? with
    | none => simp [Endpoint.lane?, kind, set, onLane] at untuned
    | some coefficient =>
        have excess : ¬(-20.0 ≤ coefficient ∧ coefficient ≤ 20.0) := by
          intro limited
          simp [Endpoint.lane?, kind, set, onLane, limited] at untuned
        have outOfRange : Link.inRange coefficient = false := by
          rw [← Bool.not_eq_true]
          intro ranged
          obtain ⟨lower, upper, _⟩ := Link.bounds_of_inRange ranged
          exact excess ⟨lower, upper⟩
        refine ⟨_, ?_, Refused.excessive shape isEnd kind within set excess⟩
        simp [Link.checkPotentiometer, onLane, set, outOfRange]
  · have noLane : Lane.ofNat? endpoint.port.number.toNat = none := dif_neg within
    refine ⟨_, ?_, Refused.beyond shape isEnd kind (Nat.not_lt.mp within)⟩
    simp [Link.checkPotentiometer, noLane]

theorem makes_ofConnection (connection : Connection) :
    connection.Makes (Link.ofConnection connection) := by
  by_cases shape : connection.wire.WellShaped
  · by_cases source : connection.source.port.kind = .potentiometer
    · have unfed : connection.fedLane? = none := by
        rw [fedLane?_of_wellShaped shape]
        exact lane?_eq_none_of_kind (shape.target_kind_ne source)
      have indirect : ¬connection.IsDirect := fun isDirect => isDirect.2.1 source
      rw [Link.ofConnection_of_source shape source]
      cases tuned : connection.source.lane? with
      | some lane =>
          rw [checkPotentiometer_of_lane tuned]
          exact Makes.leaves indirect unfed ((leftLane?_of_wellShaped shape).trans tuned)
      | none =>
          obtain ⟨error, failed, refused⟩ :=
            refused_of_lane_eq_none shape (Or.inl rfl) source tuned
          rw [failed]
          refine Makes.refused ?_ refused
          simp [IsValid, indirect, unfed, leftLane?_of_wellShaped shape, tuned]
    · have unleft : connection.leftLane? = none := by
        rw [leftLane?_of_wellShaped shape]
        exact lane?_eq_none_of_kind source
      by_cases target : connection.target.port.kind = .potentiometer
      · have indirect : ¬connection.IsDirect := fun isDirect => isDirect.2.2 target
        rw [Link.ofConnection_of_target shape source target]
        cases tuned : connection.target.lane? with
        | some lane =>
            rw [checkPotentiometer_of_lane tuned]
            exact Makes.feeds indirect ((fedLane?_of_wellShaped shape).trans tuned) unleft
        | none =>
            obtain ⟨error, failed, refused⟩ :=
              refused_of_lane_eq_none shape (Or.inr rfl) target tuned
            rw [failed]
            refine Makes.refused ?_ refused
            simp [IsValid, indirect, unleft, fedLane?_of_wellShaped shape, tuned]
      · have unfed : connection.fedLane? = none := by
          rw [fedLane?_of_wellShaped shape]
          exact lane?_eq_none_of_kind target
        rw [Link.ofConnection_of_direct shape source target]
        exact Makes.direct ⟨shape, source, target⟩ unfed unleft
  · obtain ⟨fault, misshapen⟩ := Option.ne_none_iff_exists'.mp
      fun noFault => shape (Wire.shapeFault?_eq_none_iff.mp noFault)
    rw [Link.ofConnection_of_fault misshapen]
    refine Makes.refused ?_ (Refused.misshapen misshapen)
    simp [IsValid, IsDirect, fedLane?, leftLane?, shape]

theorem isValid_of_ofConnection {link : Link} (made : Link.ofConnection connection = .ok link) :
    connection.IsValid := by
  have makes := connection.makes_ofConnection
  rw [made] at makes
  cases makes with
  | direct isDirect => exact Or.inl isDirect
  | feeds _ fed => exact Or.inr (Or.inl (by simp [fed]))
  | leaves _ _ left => exact Or.inr (Or.inr (by simp [left]))

theorem refused_of_ofConnection {error : RoutingError}
    (failed : Link.ofConnection connection = .error error) :
    ¬connection.IsValid ∧ connection.Refused error := by
  have makes := connection.makes_ofConnection
  rw [failed] at makes
  cases makes with
  | refused invalid refused => exact ⟨invalid, refused⟩

end Connection

namespace Resolved

/-! ## The meaning of a circuit -/

/-- The resolved connection that a connection of a circuit stands for.  A direct
connection stands for itself.  A half that leaves a potentiometer starts where the
first half that feeds it starts, and its own coefficient wins. -/
def joined? (connections : List Connection) (connection : Connection) : Option Resolved :=
  if connection.IsDirect then some ⟨connection.wire, none, none⟩
  else
    connection.leftLane?.bind fun lane =>
      (connections.find? fun other => other.fedLane? = some lane).map fun feeding =>
        ⟨⟨feeding.source.port, connection.target.port⟩,
          connection.source.coefficient? <|> feeding.target.coefficient?, some lane⟩

/-- The error of a half of a circuit that nothing is made of, R101.  It leaves a
potentiometer that nobody feeds, or it feeds one that was fed before or that nobody
leaves. -/
def unpaired? (connections earlier : List Connection) (connection : Connection) :
    Option RoutingError :=
  match connection.leftLane?, connection.fedLane? with
  | some lane, _ =>
    if ∃ other ∈ connections, other.fedLane? = some lane then none
    else some ⟨.unconnectedPotentiometer, .route connection.wire (some lane.val.toUInt32)⟩
  | none, some lane =>
    if (∃ other ∈ earlier, other.fedLane? = some lane) ∨
        ¬∃ other ∈ connections, other.leftLane? = some lane then
      some ⟨.unconnectedPotentiometer, .route connection.wire (some lane.val.toUInt32)⟩
    else none
  | none, none => none

/-- What resolving a circuit gives.  The resolved connections are those that its
connections stand for, in order.  The errors are those of the connections that are not
valid, in order, and then those of the unpaired halves, in order.  Resolved connections
lead from outputs to inputs that belong to no potentiometer. -/
structure Meaning (connections : List Connection) (resolved : List Resolved)
    (errors : List RoutingError) : Prop where
  joined : resolved = connections.filterMap (joined? connections)
  errors : ∃ refusals,
    List.Forall₂ Connection.Refused (connections.filter fun connection => ¬connection.IsValid)
      refusals ∧
    errors = refusals ++ connections.zipIdx.filterMap fun entry =>
      unpaired? connections (connections.take entry.2) entry.1
  leavesOutput : ∀ each ∈ resolved, each.wire.source.kind ≠ .potentiometer ∧
    each.wire.source.direction = .source
  entersInput : ∀ each ∈ resolved, each.wire.target.kind ≠ .potentiometer ∧
    each.wire.target.direction = .sink
  virtual : ∀ each ∈ resolved, each.isVirtual = true →
    each.wire.target.kind = .converter ∨ each.wire.target.kind = .externalOutput ∨
      each.wire.source.kind = .externalInput ∨ each.wire.source.kind = .constant

/-! ## Links of a circuit -/

variable {connections earlier rest : List Connection} {connection : Connection} {link : Link}
  {lane : Lane}

theorem any_feedsLane_ofConnection (connection : Connection) (lane : Lane) :
    (Link.ofConnection connection).toOption.any (Link.feedsLane lane) =
      decide (connection.fedLane? = some lane) := by
  have makes := connection.makes_ofConnection
  generalize Link.ofConnection connection = result at makes ⊢
  cases makes with
  | direct _ unfed => simp [Except.toOption, Link.feedsLane, unfed]
  | feeds _ fed => simp [Except.toOption, Link.feedsLane, fed, beq_eq_decide]
  | leaves _ unfed => simp [Except.toOption, Link.feedsLane, unfed]
  | refused invalid =>
      have unfed : connection.fedLane? ≠ some lane := by
        intro fed
        exact invalid (Or.inr (Or.inl (by simp [fed])))
      simp [Except.toOption, unfed]

theorem any_leavesLane_ofConnection (connection : Connection) (lane : Lane) :
    (Link.ofConnection connection).toOption.any (Link.leavesLane lane) =
      decide (connection.leftLane? = some lane) := by
  have makes := connection.makes_ofConnection
  generalize Link.ofConnection connection = result at makes ⊢
  cases makes with
  | direct _ _ unleft => simp [Except.toOption, Link.leavesLane, unleft]
  | feeds _ _ unleft => simp [Except.toOption, Link.leavesLane, unleft]
  | leaves _ _ left => simp [Except.toOption, Link.leavesLane, left, beq_eq_decide]
  | refused invalid =>
      have unleft : connection.leftLane? ≠ some lane := by
        intro left
        exact invalid (Or.inr (Or.inr (by simp [left])))
      simp [Except.toOption, unleft]

theorem any_links (test : Link → Bool) :
    (links connections).any test =
      connections.any fun connection => (Link.ofConnection connection).toOption.any test := by
  rw [links_eq_filterMap, List.any_filterMap]
  congr 1

theorem any_feedsLane_links :
    (links connections).any (Link.feedsLane lane) = true ↔
      ∃ other ∈ connections, other.fedLane? = some lane := by
  simp [any_links, any_feedsLane_ofConnection]

theorem any_leavesLane_links :
    (links connections).any (Link.leavesLane lane) = true ↔
      ∃ other ∈ connections, other.leftLane? = some lane := by
  simp [any_links, any_leavesLane_ofConnection]

theorem ofConnection_of_fedLane (fed : connection.fedLane? = some lane) :
    Link.ofConnection connection =
      .ok ⟨connection.wire, .feeds lane connection.target.coefficient?⟩ := by
  have makes := connection.makes_ofConnection
  generalize Link.ofConnection connection = result at makes ⊢
  cases makes with
  | direct _ unfed => simp [unfed] at fed
  | feeds _ otherFed =>
      rw [otherFed, Option.some.injEq] at fed
      rw [fed]
  | leaves _ unfed => simp [unfed] at fed
  | refused invalid => exact absurd (Or.inr (Or.inl (by simp [fed]))) invalid

/-- The first link that feeds a potentiometer is made by the first connection that
does. -/
theorem find?_feedsLane_links (connections : List Connection) (lane : Lane) :
    (links connections).find? (Link.feedsLane lane) =
      (connections.find? fun other => other.fedLane? = some lane).map fun feeding =>
        ⟨feeding.wire, .feeds lane feeding.target.coefficient?⟩ := by
  rw [links_eq_filterMap, List.find?_filterMap]
  simp only [any_feedsLane_ofConnection]
  cases found : connections.find? fun other => other.fedLane? = some lane with
  | none => rfl
  | some feeding =>
      have fed : feeding.fedLane? = some lane := by simpa using List.find?_some found
      rw [Option.bind_some, ofConnection_of_fedLane fed]
      rfl

/-! ## Fates of connections -/

/-- A connection that makes a link becomes what it stands for. -/
theorem fate_of_ofConnection (connections earlier : List Connection)
    (made : Link.ofConnection connection = .ok link) :
    (fate (links connections) (links earlier) link).value? = joined? connections connection ∧
      (fate (links connections) (links earlier) link).error? =
        unpaired? connections earlier connection := by
  have makes := connection.makes_ofConnection
  rw [made] at makes
  cases makes with
  | direct isDirect unfed unleft =>
      rw [fate_direct rfl]
      simp [joined?, unpaired?, isDirect, unfed, unleft]
  | @feeds lane indirect fed unleft =>
      have stands : joined? connections connection = none := by
        rw [joined?, if_neg indirect, unleft]
        rfl
      by_cases wasted : (∃ other ∈ earlier, other.fedLane? = some lane) ∨
          ¬∃ other ∈ connections, other.leftLane? = some lane
      · have unused : (links earlier).any (Link.feedsLane lane) = true ∨
            (links connections).any (Link.leavesLane lane) = false := by
          rwa [any_feedsLane_links, ← Bool.not_eq_true, any_leavesLane_links]
        rw [fate_unused rfl unused, stands]
        simp only [unpaired?, unleft, fed, if_pos wasted]
        exact ⟨rfl, rfl⟩
      · obtain ⟨fresh, left⟩ := not_or.mp wasted
        rw [← any_feedsLane_links, Bool.not_eq_true] at fresh
        rw [not_not, ← any_leavesLane_links] at left
        rw [fate_used rfl fresh left, stands]
        simp only [unpaired?, unleft, fed, if_neg wasted]
        exact ⟨rfl, rfl⟩
  | @leaves lane indirect unfed left =>
      have searched := find?_feedsLane_links connections lane
      cases found : connections.find? fun other => other.fedLane? = some lane with
      | none =>
          have nobody : ¬∃ other ∈ connections, other.fedLane? = some lane := by
            simpa using found
          rw [found] at searched
          rw [fate_unfed rfl searched, joined?, if_neg indirect, left, Option.bind_some, found]
          simp only [unpaired?, left, if_neg nobody]
          exact ⟨rfl, rfl⟩
      | some feeding =>
          have somebody : ∃ other ∈ connections, other.fedLane? = some lane :=
            ⟨feeding, List.mem_of_find?_eq_some found, by simpa using List.find?_some found⟩
          rw [found] at searched
          rw [fate_joined rfl searched, joined?, if_neg indirect, left, Option.bind_some, found]
          simp only [unpaired?, left, if_pos somebody]
          exact ⟨rfl, rfl⟩

theorem joined?_of_refused (connections earlier : List Connection) {error : RoutingError}
    (failed : Link.ofConnection connection = .error error) :
    joined? connections connection = none ∧ unpaired? connections earlier connection = none := by
  have invalid := (Connection.refused_of_ofConnection failed).1
  simp only [Connection.IsValid, not_or, Bool.not_eq_true, Option.isSome_eq_false_iff,
    Option.isNone_iff_eq_none] at invalid
  obtain ⟨indirect, unfed, unleft⟩ := invalid
  simp [joined?, unpaired?, indirect, unfed, unleft]

/-- What becomes of the links is what the connections stand for, the invariant being
that the links before are those of the connections before. -/
theorem fates_links (whole : connections = earlier ++ rest) :
    Fate.values (fates (links connections) (links earlier) (links rest)) =
        rest.filterMap (joined? connections) ∧
      Fate.errors (fates (links connections) (links earlier) (links rest)) =
        (rest.zipIdx earlier.length).filterMap fun entry =>
          unpaired? connections (connections.take entry.2) entry.1 := by
  induction rest generalizing earlier with
  | nil => exact ⟨rfl, rfl⟩
  | cons connection rest inductionHypothesis =>
      have wholeRest : connections = (earlier ++ [connection]) ++ rest := by simp [whole]
      have before : connections.take earlier.length = earlier := by simp [whole]
      obtain ⟨values, errors⟩ := inductionHypothesis wholeRest
      rw [List.length_append, List.length_singleton] at errors
      rw [List.zipIdx_cons, List.filterMap_cons, List.filterMap_cons, before]
      cases made : Link.ofConnection connection with
      | ok link =>
          have linked : links (earlier ++ [connection]) = links earlier ++ [link] := by
            rw [links_append, links_cons_ok made]
            rfl
          have fateOf := fate_of_ofConnection connections earlier made
          rw [linked] at values errors
          rw [links_cons_ok made, fates, Fate.values_cons, Fate.errors_cons, fateOf.1, fateOf.2,
            values, errors]
          constructor
          · cases joined? connections connection <;> rfl
          · cases unpaired? connections earlier connection <;> rfl
      | error error =>
          have linked : links (earlier ++ [connection]) = links earlier := by
            rw [links_append, links_cons_error made]
            exact List.append_nil _
          have nothing := joined?_of_refused connections earlier made
          rw [linked] at values errors
          rw [links_cons_error made, nothing.1, nothing.2]
          exact ⟨values, errors⟩

/-- Resolving keeps what the connections stand for, in order. -/
theorem value_ofConnections_eq_filterMap (connections : List Connection) :
    (ofConnections connections).value = connections.filterMap (joined? connections) := by
  rw [value_ofConnections_eq_fates]
  exact (fates_links (List.nil_append connections).symm).1

/-! ## Refusals -/

/-- The connections that make no link are those that are not valid. -/
theorem refused_failures (connections : List Connection) :
    List.Forall₂ Connection.Refused (connections.filter fun connection => ¬connection.IsValid)
      (Traced.failures (connections.map Link.ofConnection)) := by
  induction connections with
  | nil => exact List.Forall₂.nil
  | cons connection rest inductionHypothesis =>
      rw [List.map_cons]
      cases made : Link.ofConnection connection with
      | ok link =>
          have valid := Connection.isValid_of_ofConnection made
          rw [Traced.failures_ok_cons, List.filter_cons_of_neg (by simpa using valid)]
          exact inductionHypothesis
      | error error =>
          obtain ⟨invalid, refused⟩ := Connection.refused_of_ofConnection made
          rw [Traced.failures_error_cons, List.filter_cons_of_pos (by simpa using invalid)]
          exact List.Forall₂.cons refused inductionHypothesis

/-- Resolving a circuit gives what its connections mean. -/
theorem meaning_ofConnections (connections : List Connection) :
    Meaning connections (ofConnections connections).value (ofConnections connections).errors := by
  have fated := fates_links (List.nil_append connections).symm
  have noLinks : links [] = [] := rfl
  rw [noLinks, ← value_ofConnections_eq_fates] at fated
  refine ⟨fated.1, ⟨_, refused_failures connections, ?_⟩, ?_, ?_, ?_⟩
  · rw [errors_ofConnections_eq_fates, fated.2]
    rfl
  · intro each member
    have sound := sound_of_mem member
    exact ⟨sound.sourceKind, sound.leavesOutput⟩
  · intro each member
    have sound := sound_of_mem member
    exact ⟨sound.targetKind, sound.entersInput⟩
  · intro each member isVirtual
    have sound := sound_of_mem member
    rcases Placement.virtual_cases sound isVirtual with sink | ⟨source, _⟩ | ⟨source, _⟩
    · rcases Placement.isSink_iff.mp sink with kind | kind <;> simp [kind]
    · simp [source]
    · simp [source]

end Resolved

end Crossbar
