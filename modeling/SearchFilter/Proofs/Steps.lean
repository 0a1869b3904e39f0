import SearchFilter.Diagnosed
import Mathlib.Data.List.Forall2

/-!
# Laws of compilation steps

A check fails or gives a value; a diagnosed step gives warnings with the value. These laws take a
finished computation apart into the steps that it was made of, so that later proofs never look
inside a bind. A traversal that finishes has finished at every item, and a traversal of diagnosed
steps has raised the warnings of its items in order.
-/

namespace SearchFilter

namespace Check

universe u
variable {ε α β γ : Type u}

/-- A sequence of two checks passes exactly when both do. -/
theorem bind_eq_ok_iff (first : Except ε α) (second : α → Except ε β) (result : β) :
    (first >>= second) = .ok result ↔ ∃ value, first = .ok value ∧ second value = .ok result := by
  cases first with
  | error error => simp [bind, Except.bind]
  | ok value => simp [bind, Except.bind]

/-- A changed check passes exactly if the check does, with the changed value. -/
theorem map_eq_ok_iff (check : Except ε α) (change : α → β) (result : β) :
    check.map change = .ok result ↔ ∃ value, check = .ok value ∧ change value = result := by
  cases check with
  | error error => simp [Except.map]
  | ok value => simp [Except.map]

/-- Returning a value passes with that value. -/
@[simp] theorem pure_eq_ok_iff (value result : α) :
    (pure value : Except ε α) = .ok result ↔ value = result := by
  simp [pure, Except.pure]

/-- A traversal passes exactly when every item does, with the results in order. -/
theorem mapM_eq_ok_iff (check : α → Except ε β) (items : List α) (results : List β) :
    items.mapM check = .ok results ↔
      List.Forall₂ (fun item result => check item = .ok result) items results := by
  induction items generalizing results with
  | nil => simp [pure, Except.pure, eq_comm]
  | cons item rest inductionHypothesis =>
    rw [List.mapM_cons, bind_eq_ok_iff, List.forall₂_cons_left_iff]
    constructor
    · rintro ⟨result, passed, remaining⟩
      obtain ⟨others, othersPassed, same⟩ := (bind_eq_ok_iff _ _ _).mp remaining
      exact ⟨result, others, passed, (inductionHypothesis others).mp othersPassed,
        ((pure_eq_ok_iff _ _).mp same).symm⟩
    · rintro ⟨result, others, passed, othersPassed, rfl⟩
      refine ⟨result, passed, (bind_eq_ok_iff _ _ _).mpr ⟨others, ?_, rfl⟩⟩
      exact (inductionHypothesis others).mpr othersPassed

/-- Every result of a traversal is the result of an item. -/
theorem exists_of_mem_of_mapM_eq_ok (check : α → Except ε β) (items : List α) (results : List β)
    (passed : items.mapM check = .ok results) (result : β) (member : result ∈ results) :
    ∃ item ∈ items, check item = .ok result := by
  have pointwise := (mapM_eq_ok_iff _ _ _).mp passed
  clear passed
  induction pointwise with
  | nil => cases member
  | cons accepted _ inductionHypothesis =>
    obtain rfl | later := List.mem_cons.mp member
    · exact ⟨_, List.mem_cons_self, accepted⟩
    · obtain ⟨item, itemMember, checked⟩ := inductionHypothesis later
      exact ⟨item, List.mem_cons_of_mem _ itemMember, checked⟩

/-- If a check accepts an item only as the spelling of its result, a traversal accepts the spellings
of its results. -/
theorem eq_map_of_mapM_eq_ok (check : α → Except ε β) (spelled : β → α)
    (each : ∀ item result, check item = .ok result → item = spelled result) (items : List α)
    (results : List β) (passed : items.mapM check = .ok results) : items = results.map spelled := by
  have pointwise := (mapM_eq_ok_iff _ _ _).mp passed
  clear passed
  induction pointwise with
  | nil => rfl
  | cons accepted _ inductionHypothesis =>
    rw [List.map_cons, each _ _ accepted, inductionHypothesis]

/-- What is read one by one is read in a row. -/
theorem mapM_map_of_forall {check : β → Except ε γ} {written : α → β} {result : α → γ}
    {items : List α} (each : ∀ item ∈ items, check (written item) = .ok (result item)) :
    (items.map written).mapM check = .ok (items.map result) := by
  rw [mapM_eq_ok_iff, List.forall₂_map_left_iff, List.forall₂_map_right_iff, List.forall₂_same]
  exact each

/-- A traversal of spellings gives what they spell. -/
theorem mapM_map_eq_ok (check : α → Except ε β) (spelled : β → α)
    (each : ∀ result, check (spelled result) = .ok result) (results : List β) :
    (results.map spelled).mapM check = .ok results := by
  have read : (results.map spelled).mapM check = .ok (results.map id) :=
    mapM_map_of_forall fun result _ => each result
  rwa [List.map_id] at read

/-- If a check accepts exactly the spellings of results, then in a list that it accepts another
result can be spelled in the place of one. -/
theorem mapM_replaced (check : α → Except ε β) (spelled : β → α)
    (each : ∀ item result, check item = .ok result ↔ item = spelled result) (before after : List α)
    (value : β) (results : List β)
    (passed : (before ++ spelled value :: after).mapM check = .ok results) :
    ∃ earlier later, results = earlier ++ value :: later ∧
      ∀ other, (before ++ spelled other :: after).mapM check = .ok (earlier ++ other :: later) := by
  have spelling := eq_map_of_mapM_eq_ok check spelled (fun item result => (each item result).mp) _ _
    passed
  obtain ⟨earlier, rest, rfl, rfl, restSpelling⟩ := List.map_eq_append_iff.mp spelling.symm
  obtain ⟨middle, later, rfl, middleSpelling, rfl⟩ := List.map_eq_cons_iff.mp restSpelling
  have middlePasses := (each _ middle).mpr middleSpelling.symm
  rw [(each _ value).mpr rfl] at middlePasses
  obtain rfl := Except.ok.inj middlePasses
  refine ⟨earlier, later, rfl, fun other => ?_⟩
  have again := mapM_map_eq_ok check spelled (fun result => (each _ result).mpr rfl)
    (earlier ++ other :: later)
  simpa using again

end Check

namespace Check

variable {α β : Type}

/-- Whether a check passes only with results that have a property. -/
def Ensures (check : Except CompileError α) (property : α → Prop) : Prop :=
  ∀ value, check = .ok value → property value

namespace Ensures

variable {property : α → Prop} {later : β → Prop}

/-- A value that is there has the property that it has. -/
theorem of_ok (value : α) (holds : property value) : Ensures (.ok value) property := by
  intro result same
  exact Except.ok.inj same ▸ holds

/-- A check that fails ensures everything of its results. -/
theorem of_error (error : CompileError) : Ensures (.error error) property := by
  intro result passed
  cases passed

/-- Checks in sequence ensure what the second one does for every result that the first one
ensures. -/
theorem bind (check : Except CompileError α) (next : α → Except CompileError β)
    (first : Ensures check property)
    (second : ∀ value, property value → Ensures (next value) later) :
    Ensures (check >>= next) later := by
  intro result passed
  obtain ⟨value, checked, last⟩ := (bind_eq_ok_iff _ _ _).mp passed
  exact second value (first value checked) result last

end Ensures

end Check

namespace Diagnosed

variable {α β : Type}

/-- Whether a step is done, whatever its result. -/
def Succeeds (step : Diagnosed α) : Prop := ∃ value warnings, step = .done value warnings

/-- A check is done exactly when it passes, and raises nothing. -/
@[simp] theorem lift_eq_done_iff (check : Except CompileError α) (value : α)
    (warnings : List Warning) :
    lift check = .done value warnings ↔ check = .ok value ∧ warnings = [] := by
  cases check with
  | error error => simp [lift]
  | ok result => simp [lift, eq_comm]

/-- A check that passes goes on with its value. -/
@[simp] theorem lift_ok_bind (value : α) (second : α → Diagnosed β) :
    (lift (.ok value) >>= second) = second value := by
  change andThen (.done value []) second = second value
  cases next : second value <;> simp [andThen, next]

/-- A single check whose result is put into its place is done exactly when it passes. -/
theorem lift_bind_pure_eq_done_iff (check : Except CompileError α) (change : α → β) (result : β)
    (warnings : List Warning) :
    lift (check >>= fun value => pure (change value)) = .done result warnings ↔
      ∃ value, check = .ok value ∧ change value = result ∧ warnings = [] := by
  cases check with
  | error error => simp [bind, Except.bind]
  | ok value => simp [bind, Except.bind, pure, Except.pure]

/-- Two checks one after the other, of which the result of the second one is put into its place. -/
theorem lift_bind_bind_pure_eq_done_iff {γ : Type} (check : Except CompileError α)
    (next : α → Except CompileError γ) (change : γ → β) (result : β) (warnings : List Warning) :
    lift (check >>= fun value => next value >>= fun outcome => pure (change outcome)) =
        .done result warnings ↔
      ∃ value outcome, check = .ok value ∧ next value = .ok outcome ∧ change outcome = result ∧
        warnings = [] := by
  cases check with
  | error error => simp [bind, Except.bind]
  | ok value =>
    refine (lift_bind_pure_eq_done_iff (next value) change result warnings).trans ?_
    simp

/-- Steps obey the laws of a monad: warnings are appended, so the order of binding does not
matter. -/
instance : LawfulMonad Diagnosed := LawfulMonad.mk' Diagnosed
  (by
    intro α step
    cases step with
    | failed error => rfl
    | done value warnings =>
      change andThen (.done value warnings) (fun value => .done (id value) []) = _
      simp [andThen])
  (by
    intro α β value step
    exact lift_ok_bind value step)
  (by
    intro α β γ first second third
    cases first with
    | failed error => rfl
    | done value warnings =>
      change andThen (andThen (.done value warnings) second) third =
        andThen (.done value warnings) fun value => andThen (second value) third
      cases next : second value with
      | failed error => simp [andThen, next]
      | done result later =>
        cases last : third result <;> simp [andThen, next, last])

/-- A change of the result leaves the warnings as they are. -/
theorem map_eq_done_iff (step : Diagnosed α) (change : α → β) (result : β)
    (warnings : List Warning) :
    change <$> step = .done result warnings ↔
      ∃ value, step = .done value warnings ∧ change value = result := by
  rw [map_eq_pure_bind, bind_eq_done_iff]
  constructor
  · rintro ⟨value, earlier, later, done, last, rfl⟩
    obtain ⟨rfl, rfl⟩ := Diagnosed.done.inj last
    exact ⟨value, by simpa using done, rfl⟩
  · rintro ⟨value, done, rfl⟩
    exact ⟨value, warnings, [], done, rfl, by simp⟩

/-- Returning a value is done with it and without warnings. -/
theorem pure_eq_done_iff (value result : α) (warnings : List Warning) :
    (pure value : Diagnosed α) = .done result warnings ↔ value = result ∧ warnings = [] := by
  simp [eq_comm]

/-- A traversal of at least one item is done exactly when the first step and the others are. -/
theorem mapM_cons_eq_done_iff (step : α → Diagnosed β) (item : α) (rest : List α)
    (results : List β) (warnings : List Warning) :
    (item :: rest).mapM step = .done results warnings ↔
      ∃ result earlier others later, step item = .done result earlier ∧
        rest.mapM step = .done others later ∧ results = result :: others ∧
          warnings = earlier ++ later := by
  rw [List.mapM_cons, bind_eq_done_iff]
  constructor
  · rintro ⟨result, earlier, remaining, done, following, rfl⟩
    obtain ⟨others, later, last, othersDone, finished, rfl⟩ :=
      (bind_eq_done_iff _ _ _ _).mp following
    obtain ⟨rfl, rfl⟩ := (pure_eq_done_iff _ _ _).mp finished
    exact ⟨result, earlier, others, later, done, othersDone, rfl, by simp⟩
  · rintro ⟨result, earlier, others, later, done, othersDone, rfl, rfl⟩
    refine ⟨result, earlier, later, done, (bind_eq_done_iff _ _ _ _).mpr ?_, rfl⟩
    exact ⟨others, later, [], othersDone, rfl, by simp⟩

/-- The results of a traversal are the results of its steps, one for one. -/
theorem forall₂_of_mapM_eq_done (step : α → Diagnosed β) (items : List α) (results : List β)
    (warnings : List Warning) (done : items.mapM step = .done results warnings) :
    List.Forall₂ (fun item result => ∃ raised, step item = .done result raised) items results := by
  induction items generalizing results warnings with
  | nil =>
    obtain ⟨rfl, -⟩ := (pure_eq_done_iff _ _ _).mp done
    exact .nil
  | cons item rest inductionHypothesis =>
    obtain ⟨result, earlier, others, later, first, second, rfl, -⟩ :=
      (mapM_cons_eq_done_iff _ _ _ _ _).mp done
    exact .cons ⟨earlier, first⟩ (inductionHypothesis others later second)

/-- A changed step succeeds exactly if the step does. -/
theorem succeeds_map_iff (step : Diagnosed α) (change : α → β) :
    (change <$> step).Succeeds ↔ step.Succeeds := by
  constructor
  · rintro ⟨result, warnings, done⟩
    obtain ⟨value, given, _⟩ := (map_eq_done_iff _ _ _ _).mp done
    exact ⟨value, warnings, given⟩
  · rintro ⟨value, warnings, done⟩
    exact ⟨change value, warnings, (map_eq_done_iff _ _ _ _).mpr ⟨value, done, rfl⟩⟩

/-- A check succeeds as a step exactly if it passes. -/
theorem succeeds_lift_iff (check : Except CompileError α) :
    (lift check).Succeeds ↔ ∃ value, check = .ok value := by
  simp [Succeeds]

/-- A step after a check is done exactly when the check passes and the step is done. -/
theorem succeeds_lift_bind_iff (check : Except CompileError Unit) (next : Diagnosed α) :
    (lift check >>= fun _ => next).Succeeds ↔ check = .ok () ∧ next.Succeeds := by
  cases check with
  | error error => simp [lift, Succeeds]
  | ok value => simp

/-- A traversal is done exactly when every item's step is, so success does not depend on the order
of the items. -/
theorem succeeds_mapM_iff (step : α → Diagnosed β) (items : List α) :
    (items.mapM step).Succeeds ↔ ∀ item ∈ items, (step item).Succeeds := by
  induction items with
  | nil => exact ⟨fun _ item member => absurd member List.not_mem_nil, fun _ => ⟨[], [], rfl⟩⟩
  | cons item rest inductionHypothesis =>
    rw [List.forall_mem_cons, ← inductionHypothesis]
    constructor
    · rintro ⟨results, warnings, done⟩
      obtain ⟨result, earlier, others, later, first, second, -, -⟩ :=
        (mapM_cons_eq_done_iff _ _ _ _ _).mp done
      exact ⟨⟨result, earlier, first⟩, ⟨others, later, second⟩⟩
    · rintro ⟨⟨result, earlier, first⟩, ⟨others, later, second⟩⟩
      exact ⟨result :: others, earlier ++ later,
        (mapM_cons_eq_done_iff _ _ _ _ _).mpr
          ⟨result, earlier, others, later, first, second, rfl, rfl⟩⟩

end Diagnosed

end SearchFilter
