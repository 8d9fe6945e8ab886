import Crossbar.Proofs.Compile
import Crossbar.Proofs.Resolution

/-!
# Connections that are dropped

A connection that cannot be resolved has no influence on the others.  Without it
the links of the circuit meet the same partners, so the circuit resolves to the
same connections, and everything that is made of those stays the same.  Only the
error of the connection is missing.
-/

namespace Crossbar

/-! ## Errors that are left out -/

/-- One error is left out of a list. -/
def LeavesOut (error : RoutingError) (whole rest : List RoutingError) : Prop :=
  ∃ earlier later, whole = earlier ++ error :: later ∧ rest = earlier ++ later

section LeavesOut

variable {error : RoutingError} {whole rest : List RoutingError}

theorem leavesOut_middle (earlier later : List RoutingError) :
    LeavesOut error (earlier ++ error :: later) (earlier ++ later) :=
  ⟨earlier, later, rfl, rfl⟩

theorem LeavesOut.append_left (leavesOut : LeavesOut error whole rest)
    (front : List RoutingError) : LeavesOut error (front ++ whole) (front ++ rest) := by
  obtain ⟨earlier, later, rfl, rfl⟩ := leavesOut
  rw [← List.append_assoc, ← List.append_assoc]
  exact leavesOut_middle (front ++ earlier) later

theorem LeavesOut.append_right (leavesOut : LeavesOut error whole rest)
    (back : List RoutingError) : LeavesOut error (whole ++ back) (rest ++ back) := by
  obtain ⟨earlier, later, rfl, rfl⟩ := leavesOut
  rw [List.append_assoc, List.cons_append, List.append_assoc]
  exact leavesOut_middle earlier (later ++ back)

end LeavesOut

namespace Resolved

section Links

variable {links earlier others othersEarlier rest before after : List Link} {link : Link}
  {lane : Lane}

/-! ## Fates among other links -/

/-- Feeding a lane is idle when someone feeds it already or nobody leaves it. -/
def idle (links earlier : List Link) (lane : Lane) : Bool :=
  earlier.any (Link.feedsLane lane) || !links.any (Link.leavesLane lane)

/-- Two circuits have the same partners for some links: the same half feeds every
potentiometer they leave, and it is idle to feed a potentiometer in both or in
none. -/
structure SamePartners (links earlier others othersEarlier rest : List Link) : Prop where
  feeding : ∀ lane, rest.any (Link.leavesLane lane) = true →
    links.find? (Link.feedsLane lane) = others.find? (Link.feedsLane lane)
  idle : ∀ lane, rest.any (Link.feedsLane lane) = true →
    idle links earlier lane = idle others othersEarlier lane

theorem SamePartners.head (same : SamePartners links earlier others othersEarlier (link :: rest)) :
    fate links earlier link = fate others othersEarlier link := by
  cases role : link.role with
  | direct => rw [fate_direct role, fate_direct role]
  | leaves lane coefficient =>
      have leaves : link.leavesLane lane = true := leavesLane_iff.mpr ⟨coefficient, role⟩
      simp only [fate, role, same.feeding lane (by simp [leaves])]
  | feeds lane coefficient =>
      have feeds : link.feedsLane lane = true := feedsLane_iff.mpr ⟨coefficient, role⟩
      have sameIdle := same.idle lane (by simp [feeds])
      unfold Resolved.idle at sameIdle
      simp only [fate, role, sameIdle]

theorem SamePartners.tail (same : SamePartners links earlier others othersEarlier (link :: rest)) :
    SamePartners links (earlier ++ [link]) others (othersEarlier ++ [link]) rest := by
  constructor
  · intro lane left
    exact same.feeding lane (by simp [left])
  · intro lane fed
    have sameIdle := same.idle lane (by simp [fed])
    unfold Resolved.idle at sameIdle ⊢
    rw [List.any_append, List.any_append, Bool.or_right_comm, sameIdle, Bool.or_right_comm]

theorem fates_congr (same : SamePartners links earlier others othersEarlier rest) :
    fates links earlier rest = fates others othersEarlier rest := by
  induction rest generalizing earlier othersEarlier with
  | nil =>
      rfl
  | cons link rest inductionHypothesis =>
      rw [fates, fates, same.head, inductionHypothesis same.tail]

/-! ## Halves without a partner -/

/-- A half that finds no partner among the links around it: nobody feeds the
potentiometer it leaves, or it feeds one that is fed before, or one that nobody
leaves. -/
inductive Unpaired (before after : List Link) (link : Link) (lane : Lane) : Prop
  | unfed {coefficient : Option Float} (role : link.role = .leaves lane coefficient)
      (missing : (before ++ after).any (Link.feedsLane lane) = false)
  | repeated {coefficient : Option Float} (role : link.role = .feeds lane coefficient)
      (fed : before.any (Link.feedsLane lane) = true)
  | unheard {coefficient : Option Float} (role : link.role = .feeds lane coefficient)
      (missing : (before ++ after).any (Link.leavesLane lane) = false)

theorem Unpaired.fate_eq (unpaired : Unpaired before after link lane) :
    fate (before ++ link :: after) before link = .failed (unconnected link lane) := by
  cases unpaired with
  | unfed role missing =>
      apply fate_unfed role
      have own : link.feedsLane lane = false := by simp [Link.feedsLane, role]
      rw [List.any_append, Bool.or_eq_false_iff] at missing
      rw [List.find?_eq_none]
      simpa [own, or_imp, forall_and] using missing
  | repeated role fed => exact fate_unused role (Or.inl fed)
  | unheard role missing =>
      apply fate_unused role (Or.inr _)
      have own : link.leavesLane lane = false := by simp [Link.leavesLane, role]
      simpa [own] using missing

theorem unpaired_of_fate {error : RoutingError}
    (failed : fate (before ++ link :: after) before link = .failed error) :
    ∃ lane, error = unconnected link lane ∧ Unpaired before after link lane := by
  cases role : link.role with
  | direct =>
      rw [fate_direct role] at failed
      cases failed
  | leaves lane coefficient =>
      cases found : (before ++ link :: after).find? (Link.feedsLane lane) with
      | some feeding =>
          rw [fate_joined role found] at failed
          cases failed
      | none =>
          rw [fate_unfed role found] at failed
          cases failed
          refine ⟨lane, rfl, Unpaired.unfed role ?_⟩
          rw [List.find?_eq_none] at found
          rw [List.any_eq_false]
          intro other member
          apply found other
          rw [List.mem_append] at member ⊢
          exact member.imp_right (List.mem_cons_of_mem link)
  | feeds lane coefficient =>
      by_cases fed : before.any (Link.feedsLane lane) = true
      · rw [fate_unused role (Or.inl fed)] at failed
        cases failed
        exact ⟨lane, rfl, Unpaired.repeated role fed⟩
      · cases left : (before ++ link :: after).any (Link.leavesLane lane) with
        | true =>
            rw [fate_used role (by simpa using fed) left] at failed
            cases failed
        | false =>
            rw [fate_unused role (Or.inr left)] at failed
            cases failed
            refine ⟨lane, rfl, Unpaired.unheard role ?_⟩
            simp only [List.any_append, List.any_cons, Bool.or_eq_false_iff] at left ⊢
            exact ⟨left.1, left.2.2⟩

theorem Unpaired.sameFeeding (unpaired : Unpaired before after link lane) {left : Lane}
    (heard : (before ++ after).any (Link.leavesLane left) = true) :
    (before ++ link :: after).find? (Link.feedsLane left) =
      (before ++ after).find? (Link.feedsLane left) := by
  by_cases own : link.feedsLane left = true
  · -- the half feeds this potentiometer, but someone else came first
    cases unpaired with
    | unfed role => simp [Link.feedsLane, role] at own
    | repeated role fed =>
        rw [(feedsLane_of_role role).mp own]
        have first := List.find?_isSome.mpr (List.any_eq_true.mp fed)
        rw [List.find?_append, List.find?_append, Option.or_of_isSome first,
          Option.or_of_isSome first]
    | unheard role missing =>
        rw [(feedsLane_of_role role).mp own, missing] at heard
        cases heard
  · rw [List.find?_append, List.find?_cons_of_neg own, List.find?_append]

theorem Unpaired.sameLeft (unpaired : Unpaired before after link lane) {fed : Lane}
    (feeds : (before ++ after).any (Link.feedsLane fed) = true) :
    (before ++ link :: after).any (Link.leavesLane fed) =
      (before ++ after).any (Link.leavesLane fed) := by
  have notOwn : link.leavesLane fed = false := by
    rw [← Bool.not_eq_true]
    intro own
    cases unpaired with
    | unfed role missing =>
        obtain ⟨coefficient, ownRole⟩ := leavesLane_iff.mp own
        rw [role] at ownRole
        cases ownRole
        rw [missing] at feeds
        cases feeds
    | repeated role => simp [Link.leavesLane, role] at own
    | unheard role => simp [Link.leavesLane, role] at own
  simp [notOwn]

/-- Having come before, the half makes no other half idle. -/
theorem Unpaired.sameIdle (unpaired : Unpaired before after link lane) {fed : Lane}
    (feeds : (before ++ after).any (Link.feedsLane fed) = true) :
    idle (before ++ link :: after) (before ++ [link]) fed = idle (before ++ after) before fed := by
  unfold idle
  rw [unpaired.sameLeft feeds]
  by_cases own : link.feedsLane fed = true
  · cases unpaired with
    | unfed role => simp [Link.feedsLane, role] at own
    | repeated role fedBefore =>
        rw [(feedsLane_of_role role).mp own]
        simp [fedBefore]
    | unheard role missing =>
        rw [(feedsLane_of_role role).mp own, missing]
        simp
  · simp [own]

theorem Unpaired.fates_eq (unpaired : Unpaired before after link lane) :
    fates (before ++ link :: after) [] (before ++ link :: after) =
        fates (before ++ after) [] before ++ .failed (unconnected link lane) ::
          fates (before ++ after) before after ∧
      fates (before ++ after) [] (before ++ after) =
        fates (before ++ after) [] before ++ fates (before ++ after) before after := by
  have front : SamePartners (before ++ link :: after) [] (before ++ after) [] before := by
    constructor
    · intro left heard
      exact unpaired.sameFeeding (by simp [heard])
    · intro fed feeds
      rw [idle, idle, unpaired.sameLeft (by simp [feeds])]
  have back : SamePartners (before ++ link :: after) (before ++ [link]) (before ++ after) before
      after := by
    constructor
    · intro left heard
      exact unpaired.sameFeeding (by simp [heard])
    · intro fed feeds
      exact unpaired.sameIdle (by simp [feeds])
  constructor
  · rw [fates_append, fates, List.nil_append, fates_congr front, unpaired.fate_eq,
      fates_congr back]
  · rw [fates_append, List.nil_append]

end Links

/-! ## Circuits without a connection -/

section Circuits

variable {before after : List Connection} {bad : Connection} {error : RoutingError}

/-- Resolving drops a connection between others with an error: it makes no link, or
its link fails. -/
inductive Drops (before after : List Connection) (bad : Connection) (error : RoutingError) : Prop
  | refused (refused : Link.ofConnection bad = .error error)
  | unpaired {link : Link} (made : Link.ofConnection bad = .ok link)
      (failed : fate (links (before ++ bad :: after)) (links before) link = .failed error)

theorem Drops.ofConnections (drops : Drops before after bad error) :
    (ofConnections (before ++ bad :: after)).value = (ofConnections (before ++ after)).value ∧
      LeavesOut error (ofConnections (before ++ bad :: after)).errors
        (ofConnections (before ++ after)).errors := by
  rw [value_ofConnections_eq_fates, value_ofConnections_eq_fates, errors_ofConnections_eq_fates,
    errors_ofConnections_eq_fates, List.map_append, List.map_append, List.map_cons,
    Traced.failures_append, Traced.failures_append]
  cases drops with
  | refused refused =>
      rw [links_append, links_cons_error refused, ← links_append, refused,
        Traced.failures_error_cons]
      exact ⟨rfl, (leavesOut_middle _ _).append_right _⟩
  | @unpaired link made failed =>
      rw [links_append, links_cons_ok made] at failed ⊢
      obtain ⟨lane, rfl, unpaired⟩ := unpaired_of_fate failed
      obtain ⟨all, others⟩ := unpaired.fates_eq
      rw [all, links_append, others, made, Traced.failures_ok_cons, Fate.values_append,
        Fate.values_append, Fate.errors_append, Fate.errors_append, Fate.values_cons,
        Fate.errors_cons]
      exact ⟨rfl, (leavesOut_middle _ _).append_left _⟩

/-- A dropped connection is one of a shape or a potentiometer that cannot be routed,
or a half without a partner. -/
theorem Drops.code (drops : Drops before after bad error) :
    error.code ∈ [⟨.routing, 101⟩, ⟨.routing, 102⟩, ⟨.routing, 108⟩, ⟨.routing, 109⟩] := by
  cases drops with
  | refused refused =>
      rcases Link.code_of_ofConnection refused with code | code | code <;> simp [code]
  | unpaired made failed =>
      rw [links_append, links_cons_ok made] at failed
      obtain ⟨lane, rfl, _⟩ := unpaired_of_fate failed
      exact List.mem_cons_self ..

end Circuits

end Resolved

namespace Compilation

variable {layout : Layout} {before after : List Connection} {bad : Connection}
  {error : RoutingError}

/-- Two compilations end in the same fault or in the same routing, but for an error
that the second leaves out. -/
inductive SameBut (error : RoutingError) :
    Except RoutingFault Routing → Except RoutingFault Routing → Prop
  | fault (fault : RoutingFault) : SameBut error (.error fault) (.error fault)
  | routing (routes : List Route) (switches : AuxSwitches) {whole rest : List RoutingError}
      (leavesOut : LeavesOut error whole rest) :
      SameBut error (.ok ⟨routes, whole, switches⟩) (.ok ⟨routes, rest, switches⟩)

/-- Connections that resolve to the same are compiled to the same. -/
theorem sameBut_of_ofConnections {first second : List Connection}
    (sameValue : (Resolved.ofConnections first).value = (Resolved.ofConnections second).value)
    (leavesOut : LeavesOut error (Resolved.ofConnections first).errors
      (Resolved.ofConnections second).errors) :
    SameBut error (compile layout first).value (compile layout second).value := by
  have sameVirtual : virtual first = virtual second := congrArg (List.filter _) sameValue
  have samePhysical : physical first = physical second := congrArg (List.filter _) sameValue
  have samePinned : pinned layout first = pinned layout second := by
    rw [pinned, pinned, sameVirtual]
  have sameSwitches : switches layout first = switches layout second := by
    rw [switches, switches, samePinned]
  have samePinnedRoutes : pinnedRoutes layout first = pinnedRoutes layout second := by
    rw [pinnedRoutes, pinnedRoutes, sameSwitches, samePinned]
  have sameFlexibleRoutes : flexibleRoutes layout first = flexibleRoutes layout second := by
    rw [flexibleRoutes, flexibleRoutes, reserved, reserved, placed, placed, sameSwitches,
      samePinnedRoutes, samePhysical]
  rw [value_compile_eq_map, value_compile_eq_map, sameVirtual]
  cases (Placement.pinAll layout (virtual second)).value with
  | error fault => exact SameBut.fault fault
  | ok placements =>
      simp only [Except.map, routing, errors, sameVirtual, samePhysical, sameSwitches,
        samePinnedRoutes, sameFlexibleRoutes]
      exact SameBut.routing _ _ (leavesOut.append_right _)

/-- A connection that resolving drops does not disturb the others: without it the
compilation fails with the same fault, or gives the same routes and auxiliary
signals and the same errors without the one of the connection. -/
theorem sameBut_of_drops (layout : Layout) (drops : Resolved.Drops before after bad error) :
    error.code ∈ [⟨.routing, 101⟩, ⟨.routing, 102⟩, ⟨.routing, 108⟩, ⟨.routing, 109⟩] ∧
      SameBut error (compile layout (before ++ bad :: after)).value
        (compile layout (before ++ after)).value := by
  obtain ⟨sameValue, leavesOut⟩ := drops.ofConnections
  exact ⟨drops.code, sameBut_of_ofConnections sameValue leavesOut⟩

/-- A potentiometer that is fed by an external input and heard by an integrator. -/
def fedCircuit : List Connection :=
  [wired? (port? .externalInput 0 .source) (port? .potentiometer 3 .input) (some 0.5),
    wired? (port? .potentiometer 3 .output) (port? .integrator 0 .input) none].reduceOption

/-- Another source for the same potentiometer. -/
def secondFeed : Connection :=
  ⟨.bare (.externalInput 1), ⟨.potentiometer 3 .sink, some (.potentiometer 0.25)⟩⟩

/-- The other branches of the potentiometer, and a source without a potentiometer. -/
def branches : List Connection :=
  [wired? (port? .potentiometer 3 .output) (port? .integrator 1 .input) none,
    wired? (port? .integrator 0 .output) (port? .multiplier 0 .a) none].reduceOption

/-- The second source of the potentiometer takes nothing from the first. -/
theorem sameBut_secondFeed :
    (compile .standard (fedCircuit ++ secondFeed :: branches)).value.isOk = true ∧
      ∃ link, Link.ofConnection secondFeed = .ok link ∧
        Resolved.Drops fedCircuit branches secondFeed (Resolved.unconnected link 3) ∧
        SameBut (Resolved.unconnected link 3)
          (compile .standard (fedCircuit ++ secondFeed :: branches)).value
          (compile .standard (fedCircuit ++ branches)).value := by
  have made : Link.ofConnection secondFeed =
      .ok ⟨secondFeed.wire, .feeds 3 (some 0.25)⟩ := by rfl
  have drops : Resolved.Drops fedCircuit branches secondFeed
      (Resolved.unconnected ⟨secondFeed.wire, .feeds 3 (some 0.25)⟩ 3) :=
    .unpaired made (Resolved.fate_unused rfl (Or.inl (by decide +kernel)))
  exact ⟨by decide +kernel, _, made, drops, (sameBut_of_drops .standard drops).2⟩

end Compilation

end Crossbar
