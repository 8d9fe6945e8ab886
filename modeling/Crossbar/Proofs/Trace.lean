import Crossbar.Event
import Mathlib.Data.List.Forall2
import Mathlib.Data.List.Perm.Subperm

/-!
# Values, errors and origins of traced work

A traced result is read through two views: its value, and the errors among its
events.  Both follow the steps of the work, so every step of the router is
described by what it returns and by what it rejects.

`List.SublistForall₂ relation results items` says where results come from: every
result is related to an item of its own, and the items keep their order.  Steps
that come after one another compose such origins.
-/

namespace Crossbar

/-! ## Origins -/

section Origins

variable {α β γ : Type} {first : α → β → Prop} {second : β → γ → Prop}

/-- Origins of origins are origins. -/
theorem sublistForall₂_comp {results : List α} {middle : List β} {items : List γ}
    (resultOrigins : List.SublistForall₂ first results middle)
    (middleOrigins : List.SublistForall₂ second middle items) :
    List.SublistForall₂ (fun result item => ∃ origin, first result origin ∧ second origin item)
      results items := by
  induction middleOrigins generalizing results with
  | nil =>
      cases resultOrigins
      exact List.SublistForall₂.nil
  | @cons origin item _ _ related _ inductionHypothesis =>
      cases resultOrigins with
      | nil =>
          exact List.SublistForall₂.nil
      | cons headRelated tailOrigins =>
          exact List.SublistForall₂.cons ⟨origin, headRelated, related⟩
            (inductionHypothesis tailOrigins)
      | cons_right tailOrigins =>
          exact List.SublistForall₂.cons_right (inductionHypothesis tailOrigins)
  | cons_right _ inductionHypothesis =>
      exact List.SublistForall₂.cons_right (inductionHypothesis resultOrigins)

theorem sublistForall₂_imp {weaker : α → β → Prop} {results : List α} {items : List β}
    (implies : ∀ result item, item ∈ items → first result item → weaker result item)
    (origins : List.SublistForall₂ first results items) :
    List.SublistForall₂ weaker results items := by
  induction origins with
  | nil =>
      exact List.SublistForall₂.nil
  | cons related _ inductionHypothesis =>
      refine List.SublistForall₂.cons (implies _ _ (List.mem_cons_self ..) related) ?_
      exact inductionHypothesis fun result item member =>
        implies result item (List.mem_cons_of_mem _ member)
  | cons_right _ inductionHypothesis =>
      refine List.SublistForall₂.cons_right (inductionHypothesis ?_)
      exact fun result item member => implies result item (List.mem_cons_of_mem _ member)

/-- Every result has its origin. -/
theorem exists_origin {results : List α} {items : List β} {result : α}
    (origins : List.SublistForall₂ first results items) (member : result ∈ results) :
    ∃ item ∈ items, first result item := by
  induction origins with
  | nil =>
      cases member
  | @cons head item _ _ related _ inductionHypothesis =>
      rcases List.mem_cons.mp member with rfl | tailMember
      · exact ⟨item, List.mem_cons_self .., related⟩
      · obtain ⟨origin, originMember, originRelated⟩ := inductionHypothesis tailMember
        exact ⟨origin, List.mem_cons_of_mem _ originMember, originRelated⟩
  | cons_right _ inductionHypothesis =>
      obtain ⟨origin, originMember, originRelated⟩ := inductionHypothesis member
      exact ⟨origin, List.mem_cons_of_mem _ originMember, originRelated⟩

theorem sublistForall₂_of_sublist {results : List α} {items more : List β}
    (origins : List.SublistForall₂ first results items) (inside : items.Sublist more) :
    List.SublistForall₂ first results more := by
  obtain ⟨kept, aligned, keptSublist⟩ := List.sublistForall₂_iff.mp origins
  exact List.sublistForall₂_iff.mpr ⟨kept, aligned, keptSublist.trans inside⟩

/-- With as many results as items, every item is the origin of one result. -/
theorem forall₂_of_sublistForall₂ {results : List α} {items : List β}
    (origins : List.SublistForall₂ first results items)
    (sameLength : results.length = items.length) :
    List.Forall₂ first results items := by
  obtain ⟨kept, aligned, keptSublist⟩ := List.sublistForall₂_iff.mp origins
  have keptAll : kept = items := by
    apply keptSublist.eq_of_length
    rw [← aligned.length_eq, sameLength]
  rwa [keptAll] at aligned

/-- Aligned results have their items. -/
theorem exists_item {results : List α} {items : List β} {result : α}
    (aligned : List.Forall₂ first results items) (member : result ∈ results) :
    ∃ item ∈ items, first result item :=
  exists_origin (List.sublistForall₂_iff.mpr ⟨items, aligned, List.Sublist.refl items⟩) member

/-- Aligned items have their results. -/
theorem exists_result {results : List α} {items : List β} {item : β}
    (aligned : List.Forall₂ first results items) (member : item ∈ items) :
    ∃ result ∈ results, first result item := by
  induction aligned with
  | nil =>
      cases member
  | cons related _ inductionHypothesis =>
      rcases List.mem_cons.mp member with rfl | tailMember
      · exact ⟨_, List.mem_cons_self .., related⟩
      · obtain ⟨result, resultMember, resultRelated⟩ := inductionHypothesis tailMember
        exact ⟨result, List.mem_cons_of_mem _ resultMember, resultRelated⟩

/-- An item of an aligned list has its result at the same place. -/
theorem forall₂_split {results : List α} {before after : List β} {item : β}
    (aligned : List.Forall₂ first results (before ++ item :: after)) :
    ∃ resultsBefore result resultsAfter, results = resultsBefore ++ result :: resultsAfter ∧
      List.Forall₂ first resultsBefore before ∧ first result item := by
  have alignedBefore := List.forall₂_take_append results before (item :: after) aligned
  have alignedRest := List.forall₂_drop_append results before (item :: after) aligned
  have whole := (List.take_append_drop before.length results).symm
  generalize results.drop before.length = rest at alignedRest whole
  cases alignedRest with
  | cons related _ => exact ⟨_, _, _, whole, alignedBefore, related⟩

/-- Alignments with the same list in between are composed. -/
theorem forall₂_comp {results : List α} {middle : List β} {items : List γ}
    (resultsAligned : List.Forall₂ first results middle)
    (middleAligned : List.Forall₂ second middle items) :
    List.Forall₂ (fun result item => ∃ origin, first result origin ∧ second origin item)
      results items := by
  induction resultsAligned generalizing items with
  | nil =>
      cases middleAligned
      exact List.Forall₂.nil
  | cons related _ inductionHypothesis =>
      cases middleAligned with
      | cons originRelated restAligned =>
          exact List.Forall₂.cons ⟨_, related, originRelated⟩ (inductionHypothesis restAligned)

/-- What is aligned with items of which a part is taken is aligned with a part. -/
theorem exists_subperm_of_forall₂ {part results : List α} {items : List β}
    (taken : part.Subperm results) (aligned : List.Forall₂ first results items) :
    ∃ itemPart, itemPart.Subperm items ∧ List.Forall₂ first part itemPart := by
  obtain ⟨ordered, reordering, inside⟩ := taken
  obtain ⟨rest, whole⟩ := inside.exists_perm_append
  obtain ⟨itemsInOrder, alignedInOrder, itemsPerm⟩ := List.perm_comp_forall₂ whole.symm aligned
  have alignedFront := List.forall₂_take ordered.length alignedInOrder
  rw [List.take_left] at alignedFront
  obtain ⟨itemPart, alignedPart, partPerm⟩ :=
    List.perm_comp_forall₂ reordering.symm alignedFront
  refine ⟨itemPart, partPerm.subperm.trans ?_, alignedPart⟩
  exact (List.take_sublist ordered.length itemsInOrder).subperm.trans itemsPerm.subperm

end Origins

/-! ## Work that can fail -/

section Failure

variable {ε α β : Type} {error : ε} {result : β} {first : Except ε α} {next : α → Except ε β}

theorem pure_eq_ok_iff {value : β} : (pure value : Except ε β) = .ok result ↔ value = result :=
  ⟨Except.ok.inj, congrArg Except.ok⟩

theorem bind_eq_ok_iff :
    first >>= next = .ok result ↔ ∃ value, first = .ok value ∧ next value = .ok result := by
  cases first with
  | error =>
      exact iff_of_false nofun fun ⟨_, read, _⟩ => nomatch read
  | ok value =>
      constructor
      · exact fun read => ⟨value, rfl, read⟩
      · rintro ⟨_, ⟨⟩, read⟩
        exact read

theorem bind_eq_error_iff :
    first >>= next = .error error ↔
      first = .error error ∨ ∃ value, first = .ok value ∧ next value = .error error := by
  cases first with
  | error other =>
      refine ⟨fun failed => .inl (congrArg Except.error (Except.error.inj failed)), ?_⟩
      rintro (⟨⟨⟩⟩ | ⟨_, read, _⟩)
      · rfl
      · cases read
  | ok value =>
      constructor
      · exact fun failed => .inr ⟨value, rfl, failed⟩
      · rintro (⟨⟨⟩⟩ | ⟨_, ⟨⟩, failed⟩)
        exact failed

theorem bind_ne_error (firstDiffers : first ≠ .error error)
    (nextDiffers : ∀ value, next value ≠ .error error) : first >>= next ≠ .error error := by
  intro failed
  rcases bind_eq_error_iff.mp failed with here | ⟨value, _, later⟩
  · exact firstDiffers here
  · exact nextDiffers value later

end Failure

/-! ## Rejections -/

@[simp]
theorem rejections_append (first second : List Event) :
    rejections (first ++ second) = rejections first ++ rejections second :=
  List.filterMap_append

namespace Traced

variable {α β : Type}

@[simp]
theorem value_pure (value : α) : (pure value : Traced α).value = value :=
  rfl

@[simp]
theorem errors_pure (value : α) : (pure value : Traced α).errors = [] :=
  rfl

@[simp]
theorem value_of (value : α) : (of value).value = value :=
  rfl

@[simp]
theorem errors_of (value : α) : (of value).errors = [] :=
  rfl

@[simp]
theorem value_bind (first : Traced α) (next : α → Traced β) :
    (first >>= next).value = (next first.value).value :=
  rfl

@[simp]
theorem errors_bind (first : Traced α) (next : α → Traced β) :
    (first >>= next).errors = first.errors ++ (next first.value).errors :=
  rejections_append first.events (next first.value).events

@[simp]
theorem events_pure (value : α) : (pure value : Traced α).events = [] :=
  rfl

@[simp]
theorem events_bind (first : Traced α) (next : α → Traced β) :
    (first >>= next).events = first.events ++ (next first.value).events :=
  rfl

@[simp]
theorem events_emit (event : Event) : (emit event).events = [event] :=
  rfl

/-- A result is its value and its events. -/
theorem eq_of_value_events {first second : Traced α} (sameValue : first.value = second.value)
    (sameEvents : first.events = second.events) : first = second := by
  cases first
  cases second
  exact congrArg₂ Traced.mk sameValue sameEvents

@[simp]
theorem errors_emit_rejected (error : RoutingError) :
    (emit (.rejected error)).errors = [error] :=
  rfl

/-- Only rejections leave an error. -/
theorem errors_emit {event : Event} (noRejection : event.rejection? = none) :
    (emit event).errors = [] := by
  simp [errors, emit, rejections, noRejection]

/-! ## Collected results -/

/-- The errors among results, in order. -/
def failures (results : List (Except RoutingError α)) : List RoutingError :=
  results.filterMap fun
    | .ok _ => none
    | .error error => some error

@[simp]
theorem failures_nil : failures ([] : List (Except RoutingError α)) = [] :=
  rfl

@[simp]
theorem failures_ok_cons (value : α) (results : List (Except RoutingError α)) :
    failures (.ok value :: results) = failures results :=
  rfl

@[simp]
theorem failures_error_cons (error : RoutingError) (results : List (Except RoutingError α)) :
    failures (.error error :: results) = error :: failures results :=
  rfl

theorem failures_append (first second : List (Except RoutingError α)) :
    failures (first ++ second) = failures first ++ failures second :=
  List.filterMap_append

theorem value_collectAll_append (first second : List (Except RoutingError α)) :
    (collectAll (first ++ second)).value = (collectAll first).value ++ (collectAll second).value :=
  List.filterMap_append

theorem mem_failures {results : List (Except RoutingError α)} {error : RoutingError} :
    error ∈ failures results ↔ .error error ∈ results := by
  induction results with
  | nil =>
      simp
  | cons result rest inductionHypothesis =>
      cases result with
      | ok value =>
          simp [inductionHypothesis]
      | error found =>
          simp [inductionHypothesis]

@[simp]
theorem errors_collectAll (results : List (Except RoutingError α)) :
    (collectAll results).errors = failures results := by
  induction results with
  | nil =>
      rfl
  | cons result rest inductionHypothesis =>
      cases result with
      | ok value =>
          exact inductionHypothesis
      | error found =>
          exact congrArg (found :: ·) inductionHypothesis

@[simp]
theorem value_collectAll_nil : (collectAll ([] : List (Except RoutingError α))).value = [] :=
  rfl

@[simp]
theorem value_collectAll_ok_cons (value : α) (results : List (Except RoutingError α)) :
    (collectAll (.ok value :: results)).value = value :: (collectAll results).value :=
  rfl

@[simp]
theorem value_collectAll_error_cons (error : RoutingError)
    (results : List (Except RoutingError α)) :
    (collectAll (.error error :: results)).value = (collectAll results).value :=
  rfl

@[simp]
theorem value_collect (result : Except RoutingError α) :
    (collect result).value = result.toOption := by
  cases result <;> rfl

@[simp]
theorem errors_collect (result : Except RoutingError α) :
    (collect result).errors = failures [result] := by
  cases result <;> rfl

/-- The successes of a step stem from the items it was applied to. -/
theorem collectAll_map_origins (step : β → Except RoutingError α) (items : List β) :
    List.SublistForall₂ (fun result item => step item = .ok result)
      (collectAll (items.map step)).value items := by
  induction items with
  | nil =>
      exact List.SublistForall₂.nil
  | cons item rest inductionHypothesis =>
      rw [List.map_cons]
      cases outcome : step item with
      | ok value =>
          exact List.SublistForall₂.cons outcome inductionHypothesis
      | error error =>
          exact List.SublistForall₂.cons_right inductionHypothesis

/-- A step that never fails is a map. -/
theorem value_collectAll_map_ok (step : β → α) (items : List β) :
    (collectAll (items.map fun item => .ok (step item))).value = items.map step := by
  induction items with
  | nil =>
      rfl
  | cons item rest inductionHypothesis =>
      simp [inductionHypothesis]

theorem failures_map_ok (step : β → α) (items : List β) :
    failures (items.map fun item => .ok (step item)) = [] := by
  induction items with
  | nil =>
      rfl
  | cons item rest inductionHypothesis =>
      simpa using inductionHypothesis

/-! ### Successes that are changed -/

theorem failures_map_map (change : β → α) (results : List (Except RoutingError β)) :
    failures (results.map (Except.map change)) = failures results := by
  induction results with
  | nil => rfl
  | cons result rest inductionHypothesis => cases result <;> simp [Except.map, inductionHypothesis]

theorem value_collectAll_map (change : β → α) (results : List (Except RoutingError β)) :
    (collectAll (results.map (Except.map change))).value =
      (collectAll results).value.map change := by
  induction results with
  | nil => rfl
  | cons result rest inductionHypothesis => cases result <;> simp [Except.map, inductionHypothesis]

end Traced

end Crossbar
