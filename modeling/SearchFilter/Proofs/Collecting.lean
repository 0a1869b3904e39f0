import SearchFilter.Proofs.Steps

/-!
# Collecting steps

A step that gives a list is collected over the items of a list: the results are put one after the
other, and so are the warnings. The first item whose step fails decides the error, and the items
after it are not looked at.
-/

namespace SearchFilter.Diagnosed

variable {α β γ : Type}

/-- The error of a step that fails. -/
def error? : Diagnosed α → Option CompileError
  | .failed error => some error
  | .done _ _ => none

/-- The error of a step that fails. -/
@[simp] theorem error?_failed (error : CompileError) :
    (Diagnosed.failed error : Diagnosed α).error? = some error := rfl

/-- A step that is done has no error, whatever it warned of. -/
@[simp] theorem error?_done (value : α) (warnings : List Warning) :
    (Diagnosed.done value warnings).error? = none := rfl

/-- A step with an error is nothing but this error. -/
theorem error?_eq_some_iff (step : Diagnosed α) (error : CompileError) :
    step.error? = some error ↔ step = .failed error := by
  cases step <;> simp [error?]

/-- The steps without an error are those that succeed. -/
theorem error?_eq_none_iff (step : Diagnosed α) : step.error? = none ↔ step.Succeeds := by
  cases step <;> simp [error?, Succeeds]

/-- Changing a result does not change an error. -/
@[simp] theorem error?_map (step : Diagnosed α) (change : α → β) :
    (change <$> step).error? = step.error? := by
  rw [map_eq_pure_bind]
  cases step <;> rfl

/-- A sequence of two steps fails as the first one, or else as the second one on its result. -/
theorem error?_bind (first : Diagnosed α) (second : α → Diagnosed β) :
    (first >>= second).error? =
      match first with
      | .failed error => some error
      | .done value _ => (second value).error? := by
  cases first with
  | failed error => rfl
  | done value warnings =>
    rw [done_bind]
    cases next : second value <;> simp [next]

/-- The error of a sequence depends on the second step only through the errors of that step. -/
theorem error?_bind_congr (first : Diagnosed α) (second other : α → Diagnosed β)
    (same : ∀ value, (second value).error? = (other value).error?) :
    (first >>= second).error? = (first >>= other).error? := by
  rw [error?_bind, error?_bind]
  cases first with
  | failed error => rfl
  | done value warnings => exact same value

/-- The results of a step on the items of a list, one after the other. -/
def collect (step : α → Diagnosed (List β)) (items : List α) : Diagnosed (List β) :=
  List.flatten <$> items.mapM step

section

variable (step : α → Diagnosed (List β))

/-- Over no items nothing is collected. -/
@[simp] theorem collect_nil : collect step [] = .done [] [] := rfl

/-- The first item comes first, with its results and with its warnings. -/
theorem collect_cons (item : α) (rest : List α) :
    collect step (item :: rest) = (do
      let first ← step item
      let others ← collect step rest
      return first ++ others) := by
  simp only [collect, List.mapM_cons, map_eq_pure_bind, bind_assoc, pure_bind, List.flatten_cons]

/-- Over one item the step is taken once. -/
@[simp] theorem collect_singleton (item : α) : collect step [item] = step item := by
  rw [collect_cons, collect_nil, ← pure_eq]
  simp only [pure_bind, List.append_nil, bind_pure]

/-- Items may be collected in two parts, one after the other. -/
theorem collect_append (items others : List α) :
    collect step (items ++ others) = (do
      let first ← collect step items
      let second ← collect step others
      return first ++ second) := by
  simp only [collect, List.mapM_append, map_eq_pure_bind, bind_assoc, pure_bind,
    List.flatten_append]

/-- An item whose step gives nothing and raises nothing can be left out. -/
theorem collect_cons_of_empty (item : α) (rest : List α) (empty : step item = .done [] []) :
    collect step (item :: rest) = collect step rest := by
  rw [collect_cons, empty, ← pure_eq]
  simp only [pure_bind, List.nil_append, bind_pure]

/-- Steps that are themselves collected are collected over all of their items. -/
theorem collect_flatMap (items : List γ) (parts : γ → List α) :
    collect step (items.flatMap parts) = collect (fun item => collect step (parts item)) items := by
  induction items with
  | nil => rfl
  | cons item rest inductionHypothesis =>
    rw [List.flatMap_cons, collect_append, inductionHypothesis, collect_cons]

/-- What the results of a traversal hold is collected as the steps of the traversal are. -/
theorem collect_map (given : α → Diagnosed γ) (held : γ → List β) (items : List α) :
    collect (fun item => held <$> given item) items =
      (fun results => results.flatMap held) <$> items.mapM given := by
  induction items with
  | nil => rfl
  | cons item rest inductionHypothesis =>
    rw [collect_cons, inductionHypothesis, List.mapM_cons]
    simp only [map_eq_pure_bind, bind_assoc, pure_bind, List.flatMap_cons]

/-- What is collected from at least one item are the results of the first one and those of the
others. -/
theorem collect_cons_eq_done (item : α) (rest : List α) (results : List β)
    (warnings : List Warning) (done : collect step (item :: rest) = .done results warnings) :
    ∃ first earlier others later, step item = .done first earlier ∧
      collect step rest = .done others later ∧ results = first ++ others ∧
        warnings = earlier ++ later := by
  rw [collect_cons] at done
  obtain ⟨first, earlier, _, firstDone, remaining, rfl⟩ := (bind_eq_done_iff _ _ _ _).mp done
  obtain ⟨others, later, _, othersDone, last, rfl⟩ := (bind_eq_done_iff _ _ _ _).mp remaining
  obtain ⟨rfl, rfl⟩ := (pure_eq_done_iff _ _ _).mp last
  exact ⟨first, earlier, others, later, firstDone, othersDone, rfl, by simp⟩

/-- Every result that is collected is a result of an item. -/
theorem exists_of_mem_of_collect_eq_done (items : List α) (results : List β)
    (warnings : List Warning) (done : collect step items = .done results warnings) (result : β)
    (member : result ∈ results) :
    ∃ item ∈ items, ∃ part raised, step item = .done part raised ∧ result ∈ part := by
  induction items generalizing results warnings with
  | nil =>
    obtain ⟨rfl, -⟩ := Diagnosed.done.inj done
    cases member
  | cons item rest inductionHypothesis =>
    obtain ⟨first, _, others, _, firstDone, othersDone, rfl, -⟩ :=
      collect_cons_eq_done step item rest results warnings done
    obtain inFirst | inOthers := List.mem_append.mp member
    · exact ⟨item, List.mem_cons_self, first, _, firstDone, inFirst⟩
    · obtain ⟨given, givenMember, found⟩ := inductionHypothesis others _ othersDone inOthers
      exact ⟨given, List.mem_cons_of_mem _ givenMember, found⟩

/-- The error is that of the first item whose step fails. -/
theorem error?_collect (items : List α) :
    (collect step items).error? = items.findSome? fun item => (step item).error? := by
  induction items with
  | nil => rfl
  | cons item rest inductionHypothesis =>
    rw [collect_cons, error?_bind, List.findSome?_cons]
    cases step item with
    | failed error => rfl
    | done first warnings =>
      dsimp only [error?_done]
      rw [← inductionHypothesis, ← map_eq_pure_bind, error?_map]

/-- If it is known of each item what its step gives and raises when it is done, it is known of the
list. -/
theorem collect_eq_done (results : α → List β) (raised : α → List Warning) (items : List α)
    (each : ∀ item ∈ items, ∀ value warnings, step item = .done value warnings →
      value = results item ∧ warnings = raised item)
    (value : List β) (warnings : List Warning) (done : collect step items = .done value warnings) :
    value = items.flatMap results ∧ warnings = items.flatMap raised := by
  induction items generalizing value warnings with
  | nil =>
    obtain ⟨rfl, rfl⟩ := Diagnosed.done.inj done
    exact ⟨rfl, rfl⟩
  | cons item rest inductionHypothesis =>
    obtain ⟨here, later⟩ := List.forall_mem_cons.mp each
    obtain ⟨first, earlier, others, following, firstDone, othersDone, rfl, rfl⟩ :=
      collect_cons_eq_done step item rest value warnings done
    obtain ⟨rfl, rfl⟩ := here first earlier firstDone
    obtain ⟨rfl, rfl⟩ := inductionHypothesis later others following othersDone
    simp

end

end SearchFilter.Diagnosed
