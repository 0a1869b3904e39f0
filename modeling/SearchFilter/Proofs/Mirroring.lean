import SearchFilter.Proofs.Steps

/-!
# Computations that mirror each other

Two specifications that are written differently need not be read and built into the same things.
What can be said of them is said here of computations in general: wherever the first one succeeds
the second one does, its result is related to that of the first, and so are the warnings that it
raises, which are the same ones or the same up to their order. A traversal mirrors another one if
their items do one by one, and a traversal of the same items in another order mirrors it by the
order of its results.
-/

namespace SearchFilter

/-- Two lists that differ in one place are related one by one if their members there are. -/
theorem forall₂_of_replaced {α : Type*} {related : α → α → Prop}
    (refl : ∀ value, related value value) {value other : α} (are : related value other)
    (before after : List α) :
    List.Forall₂ related (before ++ value :: after) (before ++ other :: after) := by
  have unchanged (values : List α) : List.Forall₂ related values values :=
    List.forall₂_same.mpr fun value _ => refl value
  exact List.rel_append (unchanged before) (.cons are (unchanged after))

namespace Check

universe u
variable {ε α β γ δ : Type u}

/-- Where the first check passes the second one does, with a related result. -/
def Mirrored (related : α → β → Prop) (check : Except ε α) (other : Except ε β) : Prop :=
  ∀ value, check = .ok value → ∃ result, other = .ok result ∧ related value result

namespace Mirrored

variable {related : α → β → Prop} {relatedNext : γ → δ → Prop}

/-- A check that fails is mirrored by every other one. -/
theorem of_error (error : ε) (other : Except ε β) : Mirrored related (.error error) other := by
  intro value passed
  cases passed

/-- A check mirrors itself under a relation in which every value is related to itself. -/
theorem refl (same : α → α → Prop) (each : ∀ value, same value value) (check : Except ε α) :
    Mirrored same check check :=
  fun value passed => ⟨value, passed, each value⟩

/-- Two checks that pass mirror each other if their results are related. -/
theorem ok {value : α} {result : β} (are : related value result) :
    Mirrored related (.ok value : Except ε α) (.ok result) := by
  intro given passed
  obtain rfl := Except.ok.inj passed
  exact ⟨result, rfl, are⟩

/-- A weaker relation is mirrored as well. -/
theorem mono {weaker : α → β → Prop} {check : Except ε α} {other : Except ε β}
    (mirrored : Mirrored related check other)
    (weaken : ∀ value result, related value result → weaker value result) :
    Mirrored weaker check other := by
  intro value passed
  obtain ⟨result, otherPassed, are⟩ := mirrored value passed
  exact ⟨result, otherPassed, weaken value result are⟩

/-- Mirroring composes as the relations do. -/
theorem trans {last : α → γ → Prop} {following : β → γ → Prop} {check : Except ε α}
    {other : Except ε β} {another : Except ε γ} (first : Mirrored related check other)
    (second : Mirrored following other another)
    (composed : ∀ value result outcome, related value result → following result outcome →
      last value outcome) :
    Mirrored last check another := by
  intro value passed
  obtain ⟨result, otherPassed, are⟩ := first value passed
  obtain ⟨outcome, anotherPassed, follow⟩ := second result otherPassed
  exact ⟨outcome, anotherPassed, composed value result outcome are follow⟩

/-- Checks in sequence mirror each other if the first ones do, and the second ones do for related
results. -/
theorem bind {check : Except ε α} {other : Except ε β} {next : α → Except ε γ}
    {otherNext : β → Except ε δ} (first : Mirrored related check other)
    (second : ∀ value result, related value result →
      Mirrored relatedNext (next value) (otherNext result)) :
    Mirrored relatedNext (check >>= next) (other >>= otherNext) := by
  intro outcome passed
  obtain ⟨value, checked, last⟩ := (bind_eq_ok_iff _ _ _).mp passed
  obtain ⟨result, otherChecked, are⟩ := first value checked
  obtain ⟨otherOutcome, otherLast, outcomesAre⟩ := second value result are outcome last
  exact ⟨otherOutcome, (bind_eq_ok_iff _ _ _).mpr ⟨result, otherChecked, otherLast⟩, outcomesAre⟩

/-- Changing the results on both sides keeps the mirroring if the changes respect the relations. -/
theorem map {check : Except ε α} {other : Except ε β} (change : α → γ) (otherChange : β → δ)
    (first : Mirrored related check other)
    (changed : ∀ value result, related value result →
      relatedNext (change value) (otherChange result)) :
    Mirrored relatedNext (check.map change) (other.map otherChange) := by
  intro outcome passed
  obtain ⟨value, checked, rfl⟩ := (map_eq_ok_iff _ _ _).mp passed
  obtain ⟨result, otherChecked, are⟩ := first value checked
  exact ⟨_, (map_eq_ok_iff _ _ _).mpr ⟨result, otherChecked, rfl⟩, changed value result are⟩

/-- Traversals whose items mirror each other one by one. -/
theorem mapM {check : α → Except ε γ} {other : β → Except ε δ} {items : List α} {others : List β}
    (each : List.Forall₂ (fun item given => Mirrored relatedNext (check item) (other given))
      items others) :
    Mirrored (List.Forall₂ relatedNext) (items.mapM check) (others.mapM other) := by
  induction each with
  | nil => exact ok .nil
  | cons first _ inductionHypothesis =>
    rw [List.mapM_cons, List.mapM_cons]
    exact bind first fun _ _ firstAre => bind inductionHypothesis fun _ _ restAre =>
      ok (.cons firstAre restAre)

/-- Traversals of the same results. -/
theorem mapM_eq {check : α → Except ε γ} {other : β → Except ε γ} {items : List α}
    {others : List β}
    (each : List.Forall₂ (fun item given => Mirrored Eq (check item) (other given)) items others) :
    Mirrored Eq (items.mapM check) (others.mapM other) := by
  refine (mapM each).mono fun results otherResults same => ?_
  rwa [List.forall₂_eq_eq_eq] at same

/-- Traversals of lists that differ in one place, if the items there mirror each other. -/
theorem mapM_replaced {same : γ → γ → Prop} (refl : ∀ value, same value value)
    {check : α → Except ε γ} {item other : α} (mirrored : Mirrored same (check item) (check other))
    (before after : List α) :
    Mirrored (List.Forall₂ same) ((before ++ item :: after).mapM check)
      ((before ++ other :: after).mapM check) :=
  mapM (forall₂_of_replaced (fun item => Mirrored.refl same refl (check item)) mirrored before after)

/-- A traversal in another order gives the same results in another order. -/
theorem mapM_perm (check : α → Except ε γ) {items others : List α} (permuted : items.Perm others) :
    Mirrored List.Perm (items.mapM check) (others.mapM check) := by
  induction permuted with
  | nil => exact ok .nil
  | cons item _ inductionHypothesis =>
    rw [List.mapM_cons, List.mapM_cons]
    exact bind (refl Eq (fun _ => rfl) _) fun first _ same =>
      bind inductionHypothesis fun _ _ restPermuted => ok (same ▸ restPermuted.cons first)
  | swap item other rest =>
    intro results passed
    obtain ⟨_, _, first, remaining, rfl⟩ :=
      List.forall₂_cons_left_iff.mp ((mapM_eq_ok_iff _ _ _).mp passed)
    obtain ⟨_, _, second, last, rfl⟩ := List.forall₂_cons_left_iff.mp remaining
    exact ⟨_, (mapM_eq_ok_iff _ _ _).mpr (.cons second (.cons first last)), .swap _ _ _⟩
  | trans _ _ firstHypothesis secondHypothesis =>
    intro results passed
    obtain ⟨between, betweenPassed, firstPermuted⟩ := firstHypothesis results passed
    obtain ⟨others, othersPassed, secondPermuted⟩ := secondHypothesis between betweenPassed
    exact ⟨others, othersPassed, firstPermuted.trans secondPermuted⟩

end Mirrored

end Check

namespace Diagnosed

variable {α β γ δ : Type}

/-! ### Steps with related warnings -/

/-- A relation between lists of warnings that is kept when lists are put together. -/
class Additive (between : List Warning → List Warning → Prop) : Prop where
  nil : between [] []
  append : ∀ {earlier otherEarlier later otherLater}, between earlier otherEarlier →
    between later otherLater → between (earlier ++ later) (otherEarlier ++ otherLater)

/-- Equal warnings put together are equal. -/
instance : Additive Eq where
  nil := rfl
  append same following := same ▸ following ▸ rfl

/-- Warnings that are the same up to their order stay so when they are put together. -/
instance : Additive List.Perm where
  nil := .nil
  append := .append

/-- Where the first step is done the second one is, with a related result and related warnings. -/
def Paired (between : List Warning → List Warning → Prop) (related : α → β → Prop)
    (step : Diagnosed α) (other : Diagnosed β) : Prop :=
  ∀ value warnings, step = .done value warnings →
    ∃ result raised, other = .done result raised ∧ related value result ∧ between warnings raised

namespace Paired

variable {between : List Warning → List Warning → Prop} {related : α → β → Prop}
  {relatedNext : γ → δ → Prop}

/-- A step that fails is paired with every other one. -/
theorem of_failed (error : CompileError) (other : Diagnosed β) :
    Paired between related (.failed error) other := by
  intro value warnings done
  cases done

/-- Two steps that are done are paired if their results are related and so are their warnings. -/
theorem done {value : α} {result : β} {warnings raised : List Warning} (are : related value result)
    (warned : between warnings raised) :
    Paired between related (.done value warnings) (.done result raised) := by
  intro given givenWarnings same
  obtain ⟨rfl, rfl⟩ := Diagnosed.done.inj same
  exact ⟨result, raised, rfl, are, warned⟩

/-- A step is paired with itself under a relation in which every value is related to itself. -/
theorem refl {same : α → α → Prop} (each : ∀ value, same value value) (step : Diagnosed α) :
    Paired Eq same step step :=
  fun value warnings done => ⟨value, warnings, done, each value, rfl⟩

/-- A step is paired with itself. -/
protected theorem rfl {step : Diagnosed α} : Paired Eq Eq step step :=
  refl Eq.refl step

section

variable [Additive between]

/-- Returning related values raises no warning on either side. -/
theorem pure {value : α} {result : β} (are : related value result) :
    Paired between related (Pure.pure value) (Pure.pure result) :=
  done are Additive.nil

/-- Checks that mirror each other are paired as steps, since they raise no warning. -/
theorem lift {check : Except CompileError α} {other : Except CompileError β}
    (first : Check.Mirrored related check other) :
    Paired between related (Diagnosed.lift check) (Diagnosed.lift other) := by
  intro value warnings done
  obtain ⟨passed, rfl⟩ := (lift_eq_done_iff _ _ _).mp done
  obtain ⟨result, otherPassed, are⟩ := first value passed
  exact ⟨result, [], (lift_eq_done_iff _ _ _).mpr ⟨otherPassed, rfl⟩, are, Additive.nil⟩

/-- Steps in sequence are paired if the first ones are, and the second ones are for related results.
Their warnings are put together on both sides. -/
theorem bind {step : Diagnosed α} {other : Diagnosed β} {next : α → Diagnosed γ}
    {otherNext : β → Diagnosed δ} (first : Paired between related step other)
    (second : ∀ value result, related value result →
      Paired between relatedNext (next value) (otherNext result)) :
    Paired between relatedNext (step >>= next) (other >>= otherNext) := by
  intro outcome warnings done
  obtain ⟨value, earlier, later, stepDone, last, rfl⟩ := (bind_eq_done_iff _ _ _ _).mp done
  obtain ⟨result, otherEarlier, otherDone, are, earlierWarned⟩ := first value earlier stepDone
  obtain ⟨otherOutcome, otherLater, otherLast, outcomesAre, laterWarned⟩ :=
    second value result are outcome later last
  exact ⟨otherOutcome, otherEarlier ++ otherLater,
    (bind_eq_done_iff _ _ _ _).mpr ⟨result, otherEarlier, otherLater, otherDone, otherLast, rfl⟩,
    outcomesAre, Additive.append earlierWarned laterWarned⟩

/-- Changing the results on both sides keeps the pairing if the changes respect the relations. -/
theorem map {step : Diagnosed α} {other : Diagnosed β} (change : α → γ) (otherChange : β → δ)
    (first : Paired between related step other)
    (changed : ∀ value result, related value result →
      relatedNext (change value) (otherChange result)) :
    Paired between relatedNext (change <$> step) (otherChange <$> other) := by
  rw [map_eq_pure_bind, map_eq_pure_bind]
  exact bind first fun value result are => pure (changed value result are)

/-- Traversals whose items are paired one by one. -/
theorem mapM {step : α → Diagnosed γ} {other : β → Diagnosed δ} {items : List α} {others : List β}
    (each : List.Forall₂ (fun item given => Paired between relatedNext (step item) (other given))
      items others) :
    Paired between (List.Forall₂ relatedNext) (items.mapM step) (others.mapM other) := by
  induction each with
  | nil => exact pure .nil
  | cons first _ inductionHypothesis =>
    rw [List.mapM_cons, List.mapM_cons]
    exact bind first fun _ _ firstAre => bind inductionHypothesis fun _ _ restAre =>
      pure (.cons firstAre restAre)

end

end Paired

/-! ### Steps with the same warnings up to their order -/

/-- Where the first step is done the second one is, with a related result and the same warnings up to
their order. -/
def Mirrored (related : α → β → Prop) (step : Diagnosed α) (other : Diagnosed β) : Prop :=
  ∀ value warnings, step = .done value warnings →
    ∃ result raised, other = .done result raised ∧ related value result ∧ warnings.Perm raised

namespace Mirrored

variable {related : α → β → Prop} {relatedNext : γ → δ → Prop}

/-- A step that fails is mirrored by every other one. -/
theorem of_failed (error : CompileError) (other : Diagnosed β) :
    Mirrored related (.failed error) other :=
  Paired.of_failed error other

/-- A step mirrors itself under a relation in which every value is related to itself. -/
theorem refl (same : α → α → Prop) (each : ∀ value, same value value) (step : Diagnosed α) :
    Mirrored same step step :=
  fun value warnings done => ⟨value, warnings, done, each value, .refl _⟩

/-- Two steps that are done mirror each other if their results are related and their warnings are
the same up to order. -/
theorem done {value : α} {result : β} {warnings raised : List Warning} (are : related value result)
    (permuted : warnings.Perm raised) :
    Mirrored related (.done value warnings) (.done result raised) :=
  Paired.done are permuted

/-- Checks that mirror each other do so as steps. -/
theorem lift {check : Except CompileError α} {other : Except CompileError β}
    (first : Check.Mirrored related check other) :
    Mirrored related (Diagnosed.lift check) (Diagnosed.lift other) :=
  Paired.lift first

/-- Mirroring composes as the relations do, and reordering the warnings twice is reordering them. -/
theorem trans {last : α → γ → Prop} {following : β → γ → Prop} {step : Diagnosed α}
    {other : Diagnosed β} {another : Diagnosed γ} (first : Mirrored related step other)
    (second : Mirrored following other another)
    (composed : ∀ value result outcome, related value result → following result outcome →
      last value outcome) :
    Mirrored last step another := by
  intro value warnings done
  obtain ⟨result, raised, otherDone, are, permuted⟩ := first value warnings done
  obtain ⟨outcome, ultimate, anotherDone, follow, again⟩ := second result raised otherDone
  exact ⟨outcome, ultimate, anotherDone, composed value result outcome are follow,
    permuted.trans again⟩

/-- Steps in sequence mirror each other if the first ones do, and the second ones do for related
results. -/
theorem bind {step : Diagnosed α} {other : Diagnosed β} {next : α → Diagnosed γ}
    {otherNext : β → Diagnosed δ} (first : Mirrored related step other)
    (second : ∀ value result, related value result →
      Mirrored relatedNext (next value) (otherNext result)) :
    Mirrored relatedNext (step >>= next) (other >>= otherNext) :=
  Paired.bind first second

/-- Changing the results on both sides keeps the mirroring if the changes respect the relations. -/
theorem map {step : Diagnosed α} {other : Diagnosed β} (change : α → γ) (otherChange : β → δ)
    (first : Mirrored related step other)
    (changed : ∀ value result, related value result →
      relatedNext (change value) (otherChange result)) :
    Mirrored relatedNext (change <$> step) (otherChange <$> other) :=
  Paired.map change otherChange first changed

/-- Traversals whose items mirror each other one by one. -/
theorem mapM {step : α → Diagnosed γ} {other : β → Diagnosed δ} {items : List α} {others : List β}
    (each : List.Forall₂ (fun item given => Mirrored relatedNext (step item) (other given))
      items others) :
    Mirrored (List.Forall₂ relatedNext) (items.mapM step) (others.mapM other) :=
  Paired.mapM each

/-- Traversals of lists that differ in one place, if the items there mirror each other. -/
theorem mapM_replaced {same : γ → γ → Prop} (refl : ∀ value, same value value)
    {step : α → Diagnosed γ} {item other : α} (mirrored : Mirrored same (step item) (step other))
    (before after : List α) :
    Mirrored (List.Forall₂ same) ((before ++ item :: after).mapM step)
      ((before ++ other :: after).mapM step) :=
  mapM (forall₂_of_replaced (fun item => Mirrored.refl same refl (step item)) mirrored before after)

/-- A traversal in another order gives the same results and raises the same warnings, both in another
order. -/
theorem mapM_perm (step : α → Diagnosed γ) {items others : List α} (permuted : items.Perm others) :
    Mirrored List.Perm (items.mapM step) (others.mapM step) := by
  induction permuted with
  | nil => exact done .nil .nil
  | cons item _ inductionHypothesis =>
    rw [List.mapM_cons, List.mapM_cons]
    exact bind (refl Eq (fun _ => rfl) _) fun first _ same =>
      bind inductionHypothesis fun _ _ restPermuted => done (same ▸ restPermuted.cons first) .nil
  | swap item other rest =>
    intro results warnings finished
    obtain ⟨first, earlier, _, _, firstDone, remaining, rfl, rfl⟩ :=
      (mapM_cons_eq_done_iff _ _ _ _ _).mp finished
    obtain ⟨second, between, following, later, secondDone, last, rfl, rfl⟩ :=
      (mapM_cons_eq_done_iff _ _ _ _ _).mp remaining
    have swapped := (mapM_cons_eq_done_iff step _ _ _ _).mpr ⟨second, between, _, _, secondDone,
      (mapM_cons_eq_done_iff step _ _ _ _).mpr
        ⟨first, earlier, following, later, firstDone, last, rfl, rfl⟩, rfl, rfl⟩
    refine ⟨_, _, swapped, .swap _ _ _, ?_⟩
    rw [← List.append_assoc, ← List.append_assoc]
    exact List.perm_append_comm.append_right later
  | trans _ _ firstHypothesis secondHypothesis =>
    intro results warnings finished
    obtain ⟨middle, raised, middleDone, firstPermuted, firstRaised⟩ :=
      firstHypothesis results warnings finished
    obtain ⟨last, lastRaised, lastDone, secondPermuted, secondRaised⟩ :=
      secondHypothesis middle raised middleDone
    exact ⟨last, lastRaised, lastDone, firstPermuted.trans secondPermuted,
      firstRaised.trans secondRaised⟩

end Mirrored

end Diagnosed

end SearchFilter
