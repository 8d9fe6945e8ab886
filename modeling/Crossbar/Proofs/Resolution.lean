import Crossbar.Proofs.Fate
import Crossbar.Proofs.LaneSet
import Crossbar.Proofs.Resolved

/-!
# What becomes of the links of a circuit

The fate of a link depends on the links before it and on all links of the circuit.
A direct link is kept, and so is a half that leaves a potentiometer which someone
feeds.  The first half that feeds a potentiometer is spent if someone leaves it.
All other halves fail.  Resolving a circuit keeps, rejects and spends its links in
just this way, and it spends one half for every potentiometer that is both fed and
left.
-/

namespace Crossbar.Resolved

variable {links earlier rest : List Link} {fed : LaneSet} {link : Link} {lane : Lane}
  {coefficient : Option Float}

/-! ## Fates -/

/-- What becomes of a link after earlier ones, among all links of the circuit. -/
def fate (links earlier : List Link) (link : Link) : Fate Resolved :=
  match link.role with
  | .direct => .kept ⟨link.wire, none, none⟩
  | .leaves lane coefficient =>
    match links.find? (Link.feedsLane lane) with
    | some feeding =>
      .kept ⟨⟨feeding.wire.source, link.wire.target⟩, coefficient <|> feeding.coefficient?,
        some lane⟩
    | none => .failed (unconnected link lane)
  | .feeds lane _ =>
    if earlier.any (Link.feedsLane lane) || !links.any (Link.leavesLane lane) then
      .failed (unconnected link lane)
    else .spent

/-- The fates of links one after another. -/
def fates (links earlier : List Link) : List Link → List (Fate Resolved)
  | [] => []
  | link :: rest => fate links earlier link :: fates links (earlier ++ [link]) rest

theorem fates_append (before after : List Link) :
    fates links earlier (before ++ after) =
      fates links earlier before ++ fates links (earlier ++ before) after := by
  induction before generalizing earlier with
  | nil =>
      simp [fates]
  | cons link before inductionHypothesis =>
      rw [List.cons_append, fates, fates, inductionHypothesis]
      simp

section Equations

variable {feeding : Link}

theorem fate_direct (role : link.role = .direct) :
    fate links earlier link = .kept ⟨link.wire, none, none⟩ := by
  simp [fate, role]

theorem fate_joined (role : link.role = .leaves lane coefficient)
    (found : links.find? (Link.feedsLane lane) = some feeding) :
    fate links earlier link =
      .kept ⟨⟨feeding.wire.source, link.wire.target⟩, coefficient <|> feeding.coefficient?,
        some lane⟩ := by
  simp [fate, role, found]

theorem fate_unfed (role : link.role = .leaves lane coefficient)
    (missing : links.find? (Link.feedsLane lane) = none) :
    fate links earlier link = .failed (unconnected link lane) := by
  simp [fate, role, missing]

theorem fate_used (role : link.role = .feeds lane coefficient)
    (fresh : earlier.any (Link.feedsLane lane) = false)
    (left : links.any (Link.leavesLane lane) = true) :
    fate links earlier link = .spent := by
  simp [fate, role, fresh, left]

theorem fate_unused (role : link.role = .feeds lane coefficient)
    (wasted : earlier.any (Link.feedsLane lane) = true ∨
      links.any (Link.leavesLane lane) = false) :
    fate links earlier link = .failed (unconnected link lane) := by
  rcases wasted with repeated | unheard
  · simp [fate, role, repeated]
  · simp [fate, role, unheard]

end Equations

theorem feedsLane_iff :
    link.feedsLane lane = true ↔ ∃ coefficient, link.role = .feeds lane coefficient := by
  unfold Link.feedsLane
  cases link.role <;> simp

theorem leavesLane_iff :
    link.leavesLane lane = true ↔ ∃ coefficient, link.role = .leaves lane coefficient := by
  unfold Link.leavesLane
  cases link.role <;> simp

theorem feedsLane_of_role {other : Lane} (role : link.role = .feeds lane coefficient) :
    link.feedsLane other = true ↔ other = lane := by
  rw [Link.feedsLane, role]
  exact beq_iff_eq.trans eq_comm

/-! ## Resolving follows the fates -/

/-- The lanes that earlier links feed. -/
def Tracks (fed : LaneSet) (earlier : List Link) : Prop :=
  ∀ lane, lane ∈ fed ↔ earlier.any (Link.feedsLane lane) = true

theorem tracks_empty : Tracks ∅ [] := by
  intro lane
  simp

theorem Tracks.pass (tracks : Tracks fed earlier)
    (noFeed : ∀ lane, link.feedsLane lane = false) : Tracks fed (earlier ++ [link]) := by
  intro lane
  rw [tracks lane]
  simp [noFeed lane]

theorem Tracks.insert (tracks : Tracks fed earlier) (role : link.role = .feeds lane coefficient) :
    Tracks (fed.insert lane) (earlier ++ [link]) := by
  intro other
  rw [LaneSet.mem_insert, tracks other, List.any_append, Bool.or_eq_true, or_comm]
  simp [feedsLane_of_role role]

theorem fate_of_tracks (tracks : Tracks fed earlier) :
    Fate.values (fates links earlier rest) = (Traced.collectAll (ofLinks links fed rest)).value ∧
      Fate.errors (fates links earlier rest) = Traced.failures (ofLinks links fed rest) := by
  induction rest generalizing fed earlier with
  | nil =>
      exact ⟨rfl, rfl⟩
  | cons link rest inductionHypothesis =>
      rw [fates]
      cases role : link.role with
      | direct =>
          have noFeed : ∀ lane, link.feedsLane lane = false := by
            simp [Link.feedsLane, role]
          obtain ⟨sameValues, sameErrors⟩ := inductionHypothesis (tracks.pass noFeed)
          rw [ofLinks_direct role, fate_direct role]
          simp [sameValues, sameErrors]
      | leaves lane coefficient =>
          have noFeed : ∀ lane, link.feedsLane lane = false := by
            simp [Link.feedsLane, role]
          obtain ⟨sameValues, sameErrors⟩ := inductionHypothesis (tracks.pass noFeed)
          cases found : links.find? (Link.feedsLane lane) with
          | some feeding =>
              rw [ofLinks_joined role found, fate_joined role found]
              simp [sameValues, sameErrors]
          | none =>
              rw [ofLinks_unfed role found, fate_unfed role found]
              simp [sameValues, sameErrors]
      | feeds lane coefficient =>
          obtain ⟨sameValues, sameErrors⟩ := inductionHypothesis (tracks.insert role)
          by_cases wasted : lane ∈ fed ∨ links.any (Link.leavesLane lane) = false
          · rw [ofLinks_unused role wasted,
              fate_unused role (wasted.imp_left (tracks lane).mp)]
            simp [sameValues, sameErrors]
          · obtain ⟨fresh, left⟩ := not_or.mp wasted
            have notFed : earlier.any (Link.feedsLane lane) = false := by
              rw [← Bool.not_eq_true, ← tracks lane]
              exact fresh
            have isLeft : links.any (Link.leavesLane lane) = true := by simpa using left
            rw [ofLinks_used role fresh isLeft, fate_used role notFed isLeft]
            simp [sameValues, sameErrors]

theorem value_ofConnections_eq_fates (connections : List Connection) :
    (ofConnections connections).value =
      Fate.values (fates (Resolved.links connections) [] (Resolved.links connections)) := by
  rw [value_ofConnections, (fate_of_tracks tracks_empty).1]

theorem errors_ofConnections_eq_fates (connections : List Connection) :
    (ofConnections connections).errors =
      Traced.failures (connections.map Link.ofConnection) ++
        Fate.errors (fates (Resolved.links connections) [] (Resolved.links connections)) := by
  rw [errors_ofConnections, (fate_of_tracks tracks_empty).2]

/-! ## Accounts of the links -/

/-- A fate that fits a link among all links of the circuit. -/
inductive Resolves (links : List Link) (link : Link) : Fate Resolved → Prop
  | joined {resolved : Resolved} (joins : Joins links link resolved) :
      Resolves links link (.kept resolved)
  | unconnected {lane : Lane} (half : link.feedsLane lane = true ∨ link.leavesLane lane = true) :
      Resolves links link (.failed (Resolved.unconnected link lane))
  /-- The first half that feeds a potentiometer is used by those that leave it. -/
  | spent {lane : Lane} (first : links.find? (Link.feedsLane lane) = some link)
      (left : links.any (Link.leavesLane lane) = true) : Resolves links link .spent

theorem find?_of_fresh (whole : links = earlier ++ link :: rest)
    (feeds : link.feedsLane lane = true) (fresh : earlier.any (Link.feedsLane lane) = false) :
    links.find? (Link.feedsLane lane) = some link := by
  have noneEarlier : earlier.find? (Link.feedsLane lane) = none := by
    rw [List.find?_eq_none]
    simpa using fresh
  rw [whole, List.find?_append, noneEarlier, List.find?_cons_of_pos feeds]
  rfl

theorem resolves_fate (whole : links = earlier ++ link :: rest) :
    Resolves links link (fate links earlier link) := by
  cases role : link.role with
  | direct =>
      rw [fate_direct role]
      exact Resolves.joined (Joins.direct role)
  | leaves lane coefficient =>
      cases found : links.find? (Link.feedsLane lane) with
      | some feeding =>
          rw [fate_joined role found]
          exact Resolves.joined (Joins.through role found)
      | none =>
          rw [fate_unfed role found]
          exact Resolves.unconnected (Or.inr (leavesLane_iff.mpr ⟨coefficient, role⟩))
  | feeds lane coefficient =>
      have feeds : link.feedsLane lane = true := feedsLane_iff.mpr ⟨coefficient, role⟩
      by_cases wasted : earlier.any (Link.feedsLane lane) = true ∨
          links.any (Link.leavesLane lane) = false
      · rw [fate_unused role wasted]
        exact Resolves.unconnected (Or.inl feeds)
      · obtain ⟨fresh, left⟩ := not_or.mp wasted
        rw [Bool.not_eq_true] at fresh
        rw [Bool.not_eq_false] at left
        rw [fate_used role fresh left]
        exact Resolves.spent (find?_of_fresh whole feeds fresh) left

theorem resolves_fates (whole : links = earlier ++ rest) :
    List.Forall₂ (Resolves links) rest (fates links earlier rest) := by
  induction rest generalizing earlier with
  | nil =>
      exact List.Forall₂.nil
  | cons link rest inductionHypothesis =>
      refine List.Forall₂.cons (resolves_fate whole) (inductionHypothesis ?_)
      rw [whole]
      simp

/-! ## Spent halves -/

/-- The lanes whose potentiometers are fed by some of the links and not by earlier
ones, and left by someone. -/
def bridgedBy (links earlier rest : List Link) : Finset Lane :=
  Finset.univ.filter fun lane => earlier.any (Link.feedsLane lane) = false ∧
    rest.any (Link.feedsLane lane) = true ∧ links.any (Link.leavesLane lane) = true

theorem mem_bridgedBy : lane ∈ bridgedBy links earlier rest ↔
    earlier.any (Link.feedsLane lane) = false ∧ rest.any (Link.feedsLane lane) = true ∧
      links.any (Link.leavesLane lane) = true := by
  simp [bridgedBy]

theorem bridgedBy_cons_of_not_spent
    (notSpent : ∀ lane, link.feedsLane lane = true →
      earlier.any (Link.feedsLane lane) = true ∨ links.any (Link.leavesLane lane) = false) :
    bridgedBy links earlier (link :: rest) = bridgedBy links (earlier ++ [link]) rest := by
  ext lane
  have own := notSpent lane
  rw [mem_bridgedBy, mem_bridgedBy]
  simp only [List.any_append, List.any_cons, List.any_nil, Bool.or_false]
  cases feeds : link.feedsLane lane with
  | false => simp
  | true =>
      rcases own feeds with fed | unheard
      · simp [fed]
      · simp [unheard]

theorem card_bridgedBy_cons_of_spent (role : link.role = .feeds lane coefficient)
    (fresh : earlier.any (Link.feedsLane lane) = false)
    (left : links.any (Link.leavesLane lane) = true) :
    (bridgedBy links earlier (link :: rest)).card =
      (bridgedBy links (earlier ++ [link]) rest).card + 1 := by
  have feeds : link.feedsLane lane = true := (feedsLane_of_role role).mpr rfl
  have absent : lane ∉ bridgedBy links (earlier ++ [link]) rest := by
    rw [mem_bridgedBy]
    simp [feeds]
  have inserted : bridgedBy links earlier (link :: rest) =
      insert lane (bridgedBy links (earlier ++ [link]) rest) := by
    ext other
    rw [Finset.mem_insert, mem_bridgedBy, mem_bridgedBy]
    by_cases same : other = lane
    · subst same
      simp [fresh, left, feeds]
    · have notOwn : link.feedsLane other = false := by
        rw [← Bool.not_eq_true, feedsLane_of_role role]
        exact same
      simp [same, notOwn]
  rw [inserted, Finset.card_insert_of_notMem absent]

/-- One half is spent for every lane that is fed and left. -/
theorem spentCount_fates :
    Fate.spentCount (fates links earlier rest) = (bridgedBy links earlier rest).card := by
  induction rest generalizing earlier with
  | nil =>
      have noLane : bridgedBy links earlier [] = ∅ := by
        ext lane
        simp [mem_bridgedBy]
      rw [noLane]
      rfl
  | cons link rest inductionHypothesis =>
      rw [fates, Fate.spentCount_cons, inductionHypothesis]
      cases role : link.role with
      | direct =>
          rw [fate_direct role, bridgedBy_cons_of_not_spent (by simp [Link.feedsLane, role])]
          rfl
      | leaves lane coefficient =>
          rw [bridgedBy_cons_of_not_spent (by simp [Link.feedsLane, role])]
          cases found : links.find? (Link.feedsLane lane) with
          | some feeding =>
              rw [fate_joined role found]
              rfl
          | none =>
              rw [fate_unfed role found]
              rfl
      | feeds lane coefficient =>
          by_cases wasted : earlier.any (Link.feedsLane lane) = true ∨
              links.any (Link.leavesLane lane) = false
          · rw [fate_unused role wasted, bridgedBy_cons_of_not_spent]
            · rfl
            · intro other feeds
              rw [(feedsLane_of_role role).mp feeds]
              exact wasted
          · obtain ⟨fresh, left⟩ := not_or.mp wasted
            rw [Bool.not_eq_true] at fresh
            rw [Bool.not_eq_false] at left
            rw [fate_used role fresh left, card_bridgedBy_cons_of_spent role fresh left]
            rfl

/-- The lanes whose potentiometers a link feeds and a link leaves. -/
def bridged (connections : List Connection) : Finset Lane :=
  Finset.univ.filter fun lane =>
    (Resolved.links connections).any (Link.feedsLane lane) = true ∧
      (Resolved.links connections).any (Link.leavesLane lane) = true

theorem bridgedBy_links (connections : List Connection) :
    bridgedBy (Resolved.links connections) [] (Resolved.links connections) =
      bridged connections := by
  ext lane
  simp [mem_bridgedBy, bridged]

/-- Resolving accounts for the connections of a circuit. -/
theorem accounted_ofConnections (connections : List Connection) :
    Accounted (Fate.Then (fun connection fate => fate = .ofExcept (Link.ofConnection connection))
        (Resolves (Resolved.links connections)))
      connections (ofConnections connections).value (ofConnections connections).errors
      (bridged connections).card := by
  have linked := Accounted.collectAll_map Link.ofConnection connections
  have joined : Accounted (Resolves (Resolved.links connections))
      (Resolved.links connections) (ofConnections connections).value
      (Fate.errors (fates (Resolved.links connections) [] (Resolved.links connections)))
      (bridged connections).card := by
    refine ⟨_, resolves_fates rfl, (value_ofConnections_eq_fates connections).symm,
      List.Perm.refl _, ?_⟩
    rw [spentCount_fates, bridgedBy_links]
  rw [errors_ofConnections_eq_fates, ← Nat.zero_add (bridged connections).card]
  exact linked.comp joined

end Crossbar.Resolved
