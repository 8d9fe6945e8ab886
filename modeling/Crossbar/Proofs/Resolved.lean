import Crossbar.Proofs.Link
import Crossbar.Routing.Resolved

/-!
# Where resolved connections come from

Every resolved connection stems from one connection of the circuit, the direct
one or the half that leaves the potentiometer, and the order is kept.  Its ends
are no potentiometers, its signal leaves through an output and enters through an
input, and its coefficient is in range.
-/

namespace Crossbar.Resolved

/-! ## Joining links -/

/-- A link makes a resolved connection: directly, or by leaving a potentiometer
that another link feeds. -/
inductive Joins (links : List Link) (link : Link) : Resolved → Prop
  | direct (role : link.role = .direct) :
      Joins links link ⟨link.wire, none, none⟩
  | through {lane : Lane} {coefficient : Option Float} {feeding : Link}
      (role : link.role = .leaves lane coefficient)
      (fed : links.find? (Link.feedsLane lane) = some feeding) :
      Joins links link ⟨⟨feeding.wire.source, link.wire.target⟩,
        coefficient <|> feeding.coefficient?, some lane⟩

section Equations

variable {links rest : List Link} {fed : LaneSet} {link feeding : Link} {lane : Lane}
  {coefficient : Option Float}

theorem ofLinks_direct (role : link.role = .direct) :
    ofLinks links fed (link :: rest) =
      .ok ⟨link.wire, none, none⟩ :: ofLinks links fed rest := by
  simp [ofLinks, role]

theorem ofLinks_joined (role : link.role = .leaves lane coefficient)
    (found : links.find? (Link.feedsLane lane) = some feeding) :
    ofLinks links fed (link :: rest) =
      .ok ⟨⟨feeding.wire.source, link.wire.target⟩, coefficient <|> feeding.coefficient?,
        some lane⟩ :: ofLinks links fed rest := by
  rw [ofLinks, role]
  simp [found]

theorem ofLinks_unfed (role : link.role = .leaves lane coefficient)
    (missing : links.find? (Link.feedsLane lane) = none) :
    ofLinks links fed (link :: rest) =
      .error (unconnected link lane) :: ofLinks links fed rest := by
  rw [ofLinks, role]
  simp [missing]

theorem ofLinks_used (role : link.role = .feeds lane coefficient) (fresh : lane ∉ fed)
    (left : links.any (Link.leavesLane lane) = true) :
    ofLinks links fed (link :: rest) = ofLinks links (fed.insert lane) rest := by
  rw [ofLinks, role]
  simp [fresh, left]

theorem ofLinks_unused (role : link.role = .feeds lane coefficient)
    (wasted : lane ∈ fed ∨ links.any (Link.leavesLane lane) = false) :
    ofLinks links fed (link :: rest) =
      .error (unconnected link lane) :: ofLinks links (fed.insert lane) rest := by
  rw [ofLinks, role]
  rcases wasted with repeated | unheard
  · simp [repeated]
  · simp [unheard]

end Equations

theorem ofLinks_origins (links : List Link) (fed : LaneSet) (rest : List Link) :
    List.SublistForall₂ (fun resolved link => Joins links link resolved)
      (Traced.collectAll (ofLinks links fed rest)).value rest := by
  induction rest generalizing fed with
  | nil =>
      exact List.SublistForall₂.nil
  | cons link rest inductionHypothesis =>
      cases role : link.role with
      | direct =>
          rw [ofLinks_direct role]
          exact List.SublistForall₂.cons (Joins.direct role) (inductionHypothesis fed)
      | leaves lane coefficient =>
          cases found : links.find? (Link.feedsLane lane) with
          | some feeding =>
              rw [ofLinks_joined role found]
              exact List.SublistForall₂.cons (Joins.through role found)
                (inductionHypothesis fed)
          | none =>
              rw [ofLinks_unfed role found]
              exact List.SublistForall₂.cons_right (inductionHypothesis fed)
      | feeds lane coefficient =>
          by_cases wasted : lane ∈ fed ∨ links.any (Link.leavesLane lane) = false
          · rw [ofLinks_unused role wasted]
            exact List.SublistForall₂.cons_right (inductionHypothesis (fed.insert lane))
          · obtain ⟨fresh, left⟩ := not_or.mp wasted
            rw [ofLinks_used role fresh (by simpa using left)]
            exact List.SublistForall₂.cons_right (inductionHypothesis (fed.insert lane))

/-- Joining only ever reports halves without a partner. -/
theorem code_of_ofLinks {links rest : List Link} {fed : LaneSet} {error : RoutingError}
    (failed : .error error ∈ ofLinks links fed rest) : error.code = ⟨.routing, 101⟩ := by
  induction rest generalizing fed with
  | nil =>
      cases failed
  | cons link rest inductionHypothesis =>
      cases role : link.role with
      | direct =>
          rw [ofLinks_direct role] at failed
          simp only [List.mem_cons, reduceCtorEq, false_or] at failed
          exact inductionHypothesis failed
      | leaves lane coefficient =>
          cases found : links.find? (Link.feedsLane lane) with
          | some feeding =>
              rw [ofLinks_joined role found] at failed
              simp only [List.mem_cons, reduceCtorEq, false_or] at failed
              exact inductionHypothesis failed
          | none =>
              rw [ofLinks_unfed role found] at failed
              rcases List.mem_cons.mp failed with here | later
              · cases here
                rfl
              · exact inductionHypothesis later
      | feeds lane coefficient =>
          by_cases wasted : lane ∈ fed ∨ links.any (Link.leavesLane lane) = false
          · rw [ofLinks_unused role wasted] at failed
            rcases List.mem_cons.mp failed with here | later
            · cases here
              rfl
            · exact inductionHypothesis later
          · obtain ⟨fresh, left⟩ := not_or.mp wasted
            rw [ofLinks_used role fresh (by simpa using left)] at failed
            exact inductionHypothesis failed

/-! ## Sound connections -/

/-- What every resolved connection satisfies. -/
structure Sound (resolved : Resolved) : Prop where
  notFromSink : resolved.wire.source.kind.isSink = false
  notIntoSource : resolved.wire.target.kind.isSource = false
  leavesOutput : resolved.wire.source.direction = .source
  entersInput : resolved.wire.target.direction = .sink
  sourceKind : resolved.wire.source.kind ≠ .potentiometer
  targetKind : resolved.wire.target.kind ≠ .potentiometer
  ranged : ∀ coefficient, resolved.coefficient = some coefficient →
    Link.inRange coefficient = true

theorem Joins.sound {links : List Link} {link : Link} {resolved : Resolved}
    (allSound : ∀ other ∈ links, other.Sound) (linkSound : link.Sound)
    (joins : Joins links link resolved) : resolved.Sound := by
  have shape := linkSound.shape
  have fits := linkSound.fits
  cases joins with
  | direct role =>
      simp only [Link.Fits, role] at fits
      exact ⟨shape.notFromSink, shape.notIntoSource, shape.leavesOutput, shape.entersInput,
        fits.1, fits.2, by simp⟩
  | @through lane coefficient feeding role fed =>
      simp only [Link.Fits, role] at fits
      have feedingSound := allSound feeding (List.mem_of_find?_eq_some fed)
      have feedingFits := feedingSound.fits
      have feeds := List.find?_some fed
      unfold Link.feedsLane at feeds
      split at feeds
      next fedLane fedCoefficient feedingRole =>
        simp only [Link.Fits, feedingRole] at feedingFits
        refine ⟨feedingSound.shape.notFromSink, shape.notIntoSource,
          feedingSound.shape.leavesOutput, shape.entersInput, feedingFits.1,
          shape.target_kind_ne fits.1, ?_⟩
        intro value chosen
        cases own : coefficient with
        | some ownValue =>
            apply linkSound.ranged value
            simpa [Link.coefficient?, role, own] using chosen
        | none =>
            apply feedingSound.ranged value
            simpa [own] using chosen
      next => cases feeds

theorem Sound.inRange_weight {resolved : Resolved} (sound : resolved.Sound) :
    Link.inRange resolved.weight = true := by
  unfold weight
  cases own : resolved.coefficient with
  | none =>
      exact Link.inRange_one
  | some coefficient =>
      exact sound.ranged coefficient own

/-! ## Circuits -/

/-- The links of a circuit. -/
def links (connections : List Connection) : List Link :=
  (Traced.collectAll (connections.map Link.ofConnection)).value

theorem links_eq_filterMap (connections : List Connection) :
    links connections =
      connections.filterMap fun connection => (Link.ofConnection connection).toOption :=
  List.filterMap_map

theorem links_append (first second : List Connection) :
    links (first ++ second) = links first ++ links second := by
  rw [links, List.map_append, Traced.value_collectAll_append]
  rfl

theorem links_cons_ok {connection : Connection} {link : Link} {rest : List Connection}
    (made : Link.ofConnection connection = .ok link) :
    links (connection :: rest) = link :: links rest := by
  rw [links, List.map_cons, made, Traced.value_collectAll_ok_cons]
  rfl

theorem links_cons_error {connection : Connection} {rest : List Connection}
    {error : RoutingError} (failed : Link.ofConnection connection = .error error) :
    links (connection :: rest) = links rest := by
  rw [links, List.map_cons, failed, Traced.value_collectAll_error_cons]
  rfl

theorem value_ofConnections (connections : List Connection) :
    (ofConnections connections).value =
      (Traced.collectAll (ofLinks (links connections) ∅ (links connections))).value :=
  rfl

theorem errors_ofConnections (connections : List Connection) :
    (ofConnections connections).errors =
      Traced.failures (connections.map Link.ofConnection) ++
        Traced.failures (ofLinks (links connections) ∅ (links connections)) := by
  simp [ofConnections, links]

theorem sound_of_mem_links {connections : List Connection} {link : Link}
    (member : link ∈ links connections) : link.Sound := by
  obtain ⟨connection, _, made⟩ :=
    exists_origin (Traced.collectAll_map_origins Link.ofConnection connections) member
  exact (Link.sound_of_ofConnection made).2

/-- A resolved connection stems from a connection of the circuit whose link makes
it. -/
def StemsFrom (connections : List Connection) (resolved : Resolved)
    (connection : Connection) : Prop :=
  ∃ link, Joins (links connections) link resolved ∧ Link.ofConnection connection = .ok link

theorem ofConnections_origins (connections : List Connection) :
    List.SublistForall₂ (StemsFrom connections) (ofConnections connections).value connections :=
  sublistForall₂_comp (ofLinks_origins (links connections) ∅ (links connections))
    (Traced.collectAll_map_origins Link.ofConnection connections)

theorem StemsFrom.sound {connections : List Connection} {resolved : Resolved}
    {connection : Connection} (stems : StemsFrom connections resolved connection) :
    resolved.Sound := by
  obtain ⟨link, joins, made⟩ := stems
  exact joins.sound (fun _ => sound_of_mem_links) (Link.sound_of_ofConnection made).2

/-- A resolved connection ends where its connection ends. -/
theorem StemsFrom.target {connections : List Connection} {resolved : Resolved}
    {connection : Connection} (stems : StemsFrom connections resolved connection) :
    resolved.wire.target = connection.wire.target := by
  obtain ⟨link, joins, made⟩ := stems
  rw [← (Link.sound_of_ofConnection made).1]
  cases joins <;> rfl

theorem sound_of_mem {connections : List Connection} {resolved : Resolved}
    (member : resolved ∈ (ofConnections connections).value) : resolved.Sound := by
  obtain ⟨connection, _, stems⟩ := exists_origin (ofConnections_origins connections) member
  exact stems.sound

/-- The errors of resolving a circuit are about shapes, potentiometers and halves
without a partner. -/
theorem code_of_ofConnections {connections : List Connection} {error : RoutingError}
    (member : error ∈ (ofConnections connections).errors) :
    error.code ∈ [⟨.routing, 101⟩, ⟨.routing, 102⟩, ⟨.routing, 108⟩, ⟨.routing, 109⟩] := by
  rw [errors_ofConnections, List.mem_append, Traced.mem_failures, Traced.mem_failures] at member
  rcases member with ofLink | ofJoin
  · obtain ⟨connection, _, failed⟩ := List.mem_map.mp ofLink
    rcases Link.code_of_ofConnection failed with code | code | code <;> simp [code]
  · simp [code_of_ofLinks ofJoin]

end Crossbar.Resolved
