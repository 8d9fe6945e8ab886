import Crossbar.Proofs.Trace

/-!
# What becomes of the items of a step

A step of the router goes through items one after another.  It makes a result of
an item, it rejects the item with an error, or the item is spent on the results of
others.  A step accounts for its items when every item has one of these fates and
nothing else is returned or reported: the results are those of the kept items, in
order, and the errors are those of the failed ones.

Steps that come after one another account for the items of the first.
-/

namespace Crossbar

/-- What becomes of an item. -/
inductive Fate (α : Type) where
  | kept (value : α)
  | failed (error : RoutingError)
  /-- Used up by the results of other items. -/
  | spent

namespace Fate

variable {α β γ : Type}

@[simp]
def value? : Fate α → Option α
  | .kept value => some value
  | _ => none

@[simp]
def error? : Fate α → Option RoutingError
  | .failed error => some error
  | _ => none

@[simp]
def isSpent : Fate α → Bool
  | .spent => true
  | _ => false

/-- Changes what is kept. -/
@[simp]
def map (change : α → β) : Fate α → Fate β
  | .kept value => .kept (change value)
  | .failed error => .failed error
  | .spent => .spent

theorem error?_map (change : α → β) (fate : Fate α) : (fate.map change).error? = fate.error? := by
  cases fate <;> rfl

theorem isSpent_map (change : α → β) (fate : Fate α) :
    (fate.map change).isSpent = fate.isSpent := by
  cases fate <;> rfl

/-- The fate of an item that is not spent. -/
@[simp]
def ofExcept : Except RoutingError α → Fate α
  | .ok value => .kept value
  | .error error => .failed error

theorem eq_ok_of_kept_eq {result : Except RoutingError α} {value : α}
    (same : .kept value = ofExcept result) : result = .ok value := by
  cases result <;> cases same
  rfl

theorem eq_error_of_failed_eq {result : Except RoutingError α} {error : RoutingError}
    (same : .failed error = ofExcept result) : result = .error error := by
  cases result <;> cases same
  rfl

theorem spent_ne_ofExcept {result : Except RoutingError α} : .spent ≠ ofExcept result := by
  cases result <;> simp

/-! ## Lists of fates -/

def values (fates : List (Fate α)) : List α := fates.filterMap value?

def errors (fates : List (Fate α)) : List RoutingError := fates.filterMap error?

def spentCount (fates : List (Fate α)) : Nat := fates.countP isSpent

section Lists

variable {fate : Fate α} {fates rest : List (Fate α)}

@[simp]
theorem values_nil : values ([] : List (Fate α)) = [] :=
  rfl

@[simp]
theorem errors_nil : errors ([] : List (Fate α)) = [] :=
  rfl

@[simp]
theorem spentCount_nil : spentCount ([] : List (Fate α)) = 0 :=
  rfl

@[simp]
theorem values_cons : values (fate :: rest) = fate.value?.toList ++ values rest := by
  cases fate <;> rfl

@[simp]
theorem errors_cons : errors (fate :: rest) = fate.error?.toList ++ errors rest := by
  cases fate <;> rfl

@[simp]
theorem spentCount_cons : spentCount (fate :: rest) = spentCount rest + fate.isSpent.toNat := by
  rw [spentCount, List.countP_cons, spentCount]
  cases fate <;> rfl

theorem values_append (first second : List (Fate α)) :
    values (first ++ second) = values first ++ values second :=
  List.filterMap_append

theorem errors_append (first second : List (Fate α)) :
    errors (first ++ second) = errors first ++ errors second :=
  List.filterMap_append

theorem length_eq (fates : List (Fate α)) :
    fates.length = (values fates).length + (errors fates).length + spentCount fates := by
  induction fates with
  | nil =>
      rfl
  | cons fate rest inductionHypothesis =>
      cases fate <;> simp [inductionHypothesis] <;> omega

theorem values_map_ofExcept (results : List (Except RoutingError α)) :
    values (results.map ofExcept) = (Traced.collectAll results).value := by
  induction results with
  | nil =>
      rfl
  | cons result rest inductionHypothesis =>
      cases result <;> simp [inductionHypothesis]

theorem errors_map_ofExcept (results : List (Except RoutingError α)) :
    errors (results.map ofExcept) = Traced.failures results := by
  induction results with
  | nil =>
      rfl
  | cons result rest inductionHypothesis =>
      cases result <;> simp [inductionHypothesis]

theorem spentCount_map_ofExcept (results : List (Except RoutingError α)) :
    spentCount (results.map ofExcept) = 0 := by
  induction results with
  | nil =>
      rfl
  | cons result rest inductionHypothesis =>
      cases result <;> simp [inductionHypothesis]

end Lists

/-! ## One step after another -/

/-- The fate of an item in a first step, and in a second one if the first keeps
it. -/
inductive Then (first : α → Fate β → Prop) (second : β → Fate γ → Prop) (item : α) :
    Fate γ → Prop
  | kept {value : β} {fate : Fate γ} (here : first item (.kept value))
      (there : second value fate) : Then first second item fate
  | failed {error : RoutingError} (here : first item (.failed error)) :
      Then first second item (.failed error)
  | spent (here : first item .spent) : Then first second item .spent

/-- The fate of an item, with the item beside what is kept. -/
def Paired (fits : α → Fate β → Prop) (item : α) (fate : Fate (α × β)) : Prop :=
  ∃ plain, fits item plain ∧ fate = plain.map (Prod.mk item)

end Fate

/-! ## Accounts -/

/-- Every item has a fate that fits it.  The values are those of the kept items, in
order, and the errors are those of the failed items. -/
def Accounted {α β : Type} (fits : α → Fate β → Prop) (items : List α) (values : List β)
    (errors : List RoutingError) (spent : Nat) : Prop :=
  ∃ fates, List.Forall₂ fits items fates ∧ Fate.values fates = values ∧
    (Fate.errors fates).Perm errors ∧ Fate.spentCount fates = spent

namespace Accounted

variable {α β γ : Type} {fits : α → Fate β → Prop} {items : List α} {values : List β}
  {errors : List RoutingError} {spent : Nat}

theorem length_eq (accounted : Accounted fits items values errors spent) :
    items.length = values.length + errors.length + spent := by
  obtain ⟨fates, aligned, rfl, sameErrors, rfl⟩ := accounted
  rw [aligned.length_eq, Fate.length_eq, sameErrors.length_eq]

theorem nil : Accounted fits [] [] [] 0 :=
  ⟨[], List.Forall₂.nil, rfl, List.Perm.refl [], rfl⟩

theorem cons {item : α} {fate : Fate β} (fitting : fits item fate)
    (rest : Accounted fits items values errors spent) :
    Accounted fits (item :: items) (fate.value?.toList ++ values) (fate.error?.toList ++ errors)
      (spent + fate.isSpent.toNat) := by
  obtain ⟨fates, aligned, rfl, sameErrors, rfl⟩ := rest
  refine ⟨fate :: fates, List.Forall₂.cons fitting aligned, Fate.values_cons, ?_,
    Fate.spentCount_cons⟩
  rw [Fate.errors_cons]
  exact sameErrors.append_left _

theorem imp {weaker : α → Fate β → Prop}
    (implies : ∀ item ∈ items, ∀ fate, fits item fate → weaker item fate)
    (accounted : Accounted fits items values errors spent) :
    Accounted weaker items values errors spent := by
  obtain ⟨fates, aligned, rest⟩ := accounted
  refine ⟨fates, ?_, rest⟩
  clear rest
  induction aligned with
  | nil =>
      exact List.Forall₂.nil
  | cons fitting _ inductionHypothesis =>
      refine List.Forall₂.cons (implies _ (List.mem_cons_self ..) _ fitting) ?_
      exact inductionHypothesis fun item member =>
        implies item (List.mem_cons_of_mem _ member)

theorem collectAll {results : List (Except RoutingError β)}
    (aligned : List.Forall₂ (fun item result => fits item (.ofExcept result)) items results) :
    Accounted fits items (Traced.collectAll results).value (Traced.failures results) 0 := by
  refine ⟨results.map Fate.ofExcept, ?_, Fate.values_map_ofExcept results,
    .of_eq (Fate.errors_map_ofExcept results), Fate.spentCount_map_ofExcept results⟩
  exact List.forall₂_map_right_iff.mpr aligned

theorem collectAll_map (step : α → Except RoutingError β) (items : List α) :
    Accounted (fun item fate => fate = .ofExcept (step item)) items
      (Traced.collectAll (items.map step)).value (Traced.failures (items.map step)) 0 := by
  apply Accounted.collectAll
  rw [List.forall₂_map_right_iff, List.forall₂_same]
  intro item _
  rfl

theorem exists_merged {second : β → Fate γ → Prop} {fates : List (Fate β)}
    {later : List (Fate γ)} (aligned : List.Forall₂ fits items fates)
    (laterAligned : List.Forall₂ second (Fate.values fates) later) :
    ∃ merged, List.Forall₂ (Fate.Then fits second) items merged ∧
      Fate.values merged = Fate.values later ∧
      (Fate.errors merged).Perm (Fate.errors fates ++ Fate.errors later) ∧
      Fate.spentCount merged = Fate.spentCount fates + Fate.spentCount later := by
  induction aligned generalizing later with
  | nil =>
      cases laterAligned
      exact ⟨[], List.Forall₂.nil, rfl, List.Perm.refl [], rfl⟩
  | @cons item fate _ restFates fitting _ inductionHypothesis =>
      cases fate with
      | kept value =>
          cases laterAligned with
          | @cons _ next _ restLater nextFits restAligned =>
              obtain ⟨merged, mergedAligned, sameValues, sameErrors, sameSpent⟩ :=
                inductionHypothesis restAligned
              refine ⟨next :: merged, .cons (.kept fitting nextFits) mergedAligned, ?_, ?_, ?_⟩
              · simp only [Fate.values_cons, sameValues]
              · simp only [Fate.errors_cons, Fate.error?, Option.toList_none, List.nil_append]
                refine (sameErrors.append_left _).trans ?_
                rw [← List.append_assoc, ← List.append_assoc]
                exact List.perm_append_comm.append_right _
              · simp only [Fate.spentCount_cons, Fate.isSpent, sameSpent, Bool.toNat_false]
                omega
      | failed error =>
          obtain ⟨merged, mergedAligned, sameValues, sameErrors, sameSpent⟩ :=
            inductionHypothesis laterAligned
          refine ⟨.failed error :: merged, .cons (.failed fitting) mergedAligned, ?_, ?_, ?_⟩
          · simpa using sameValues
          · simpa using sameErrors
          · simpa using sameSpent
      | spent =>
          obtain ⟨merged, mergedAligned, sameValues, sameErrors, sameSpent⟩ :=
            inductionHypothesis laterAligned
          refine ⟨.spent :: merged, .cons (.spent fitting) mergedAligned, ?_, ?_, ?_⟩
          · simpa using sameValues
          · simpa using sameErrors
          · simp only [Fate.spentCount_cons, Fate.isSpent, sameSpent, Bool.toNat_true]
            omega

theorem comp {second : β → Fate γ → Prop} {results : List γ}
    {laterErrors : List RoutingError} {laterSpent : Nat}
    (accounted : Accounted fits items values errors spent)
    (later : Accounted second values results laterErrors laterSpent) :
    Accounted (Fate.Then fits second) items results (errors ++ laterErrors)
      (spent + laterSpent) := by
  obtain ⟨fates, aligned, rfl, sameErrors, rfl⟩ := accounted
  obtain ⟨laterFates, laterAligned, rfl, sameLaterErrors, rfl⟩ := later
  obtain ⟨merged, mergedAligned, sameValues, mergedErrors, sameSpent⟩ :=
    exists_merged aligned laterAligned
  exact ⟨merged, mergedAligned, sameValues,
    mergedErrors.trans (sameErrors.append sameLaterErrors), sameSpent⟩

/-- The fates of two halves of a list make the fates of the list. -/
theorem exists_interleaved {test : α → Bool} {passed others : List (Fate β)}
    (passedAligned : List.Forall₂ fits (items.filter test) passed)
    (othersAligned : List.Forall₂ fits (items.filter fun item => !test item) others) :
    ∃ fates, List.Forall₂ (Fate.Paired fits) items fates ∧
      ((Fate.values fates).filter fun pair => test pair.1).map Prod.snd = Fate.values passed ∧
      ((Fate.values fates).filter fun pair => !test pair.1).map Prod.snd = Fate.values others ∧
      (Fate.errors fates).Perm (Fate.errors passed ++ Fate.errors others) ∧
      Fate.spentCount fates = Fate.spentCount passed + Fate.spentCount others := by
  induction items generalizing passed others with
  | nil =>
      cases passedAligned
      cases othersAligned
      exact ⟨[], List.Forall₂.nil, rfl, rfl, List.Perm.refl [], rfl⟩
  | cons item rest inductionHypothesis =>
      cases side : test item with
      | true =>
          rw [List.filter_cons_of_pos side] at passedAligned
          rw [List.filter_cons_of_neg (by simp [side])] at othersAligned
          cases passedAligned with
          | @cons _ fate _ restPassed fitting restAligned =>
              obtain ⟨fates, aligned, samePassed, sameOthers, sameErrors, sameSpent⟩ :=
                inductionHypothesis restAligned othersAligned
              refine ⟨fate.map (Prod.mk item) :: fates, .cons ⟨fate, fitting, rfl⟩ aligned,
                ?_, ?_, ?_, ?_⟩
              · cases fate <;> simp [side, samePassed]
              · cases fate <;> simp [side, sameOthers]
              · rw [Fate.errors_cons, Fate.errors_cons, Fate.error?_map, List.append_assoc]
                exact sameErrors.append_left _
              · rw [Fate.spentCount_cons, Fate.spentCount_cons, Fate.isSpent_map, sameSpent]
                omega
      | false =>
          rw [List.filter_cons_of_neg (by simp [side])] at passedAligned
          rw [List.filter_cons_of_pos (by simp [side])] at othersAligned
          cases othersAligned with
          | @cons _ fate _ restOthers fitting restAligned =>
              obtain ⟨fates, aligned, samePassed, sameOthers, sameErrors, sameSpent⟩ :=
                inductionHypothesis passedAligned restAligned
              refine ⟨fate.map (Prod.mk item) :: fates, .cons ⟨fate, fitting, rfl⟩ aligned,
                ?_, ?_, ?_, ?_⟩
              · cases fate <;> simp [side, samePassed]
              · cases fate <;> simp [side, sameOthers]
              · rw [Fate.errors_cons, Fate.errors_cons, Fate.error?_map]
                refine (sameErrors.append_left _).trans ?_
                rw [← List.append_assoc, ← List.append_assoc]
                exact List.perm_append_comm.append_right _
              · rw [Fate.spentCount_cons, Fate.spentCount_cons, Fate.isSpent_map, sameSpent]
                omega

/-- Two steps that share the items account for all of them. -/
theorem interleave {test : α → Bool} {others : List β} {otherErrors : List RoutingError}
    {otherSpent : Nat}
    (passed : Accounted fits (items.filter test) values errors spent)
    (rest : Accounted fits (items.filter fun item => !test item) others otherErrors otherSpent) :
    ∃ pairs, Accounted (Fate.Paired fits) items pairs (errors ++ otherErrors)
        (spent + otherSpent) ∧
      (pairs.filter fun pair => test pair.1).map Prod.snd = values ∧
      (pairs.filter fun pair => !test pair.1).map Prod.snd = others := by
  obtain ⟨passedFates, passedAligned, rfl, passedErrors, rfl⟩ := passed
  obtain ⟨otherFates, otherAligned, rfl, sameOtherErrors, rfl⟩ := rest
  obtain ⟨fates, aligned, samePassed, sameOthers, sameErrors, sameSpent⟩ :=
    exists_interleaved passedAligned otherAligned
  exact ⟨Fate.values fates, ⟨fates, aligned, rfl,
    sameErrors.trans (passedErrors.append sameOtherErrors), sameSpent⟩, samePassed, sameOthers⟩

end Accounted

end Crossbar
