import SearchFilter.Diagnostics

/-!
# Compilation steps

A step of compilation either fails with an error, and then nothing else of it counts, or is done
with a result and the warnings raised on the way. Steps in sequence raise their warnings in
sequence.
-/

namespace SearchFilter

/-- The outcome of a step of compilation. -/
inductive Diagnosed (α : Type)
  | failed (error : CompileError)
  | done (value : α) (warnings : List Warning)

namespace Diagnosed

variable {α β : Type}

/-- A check that raises no warning. -/
def lift : Except CompileError α → Diagnosed α
  | .ok value => .done value []
  | .error error => .failed error

/-- The second step gets the result of the first one; its warnings come after. -/
def andThen (first : Diagnosed α) (second : α → Diagnosed β) : Diagnosed β :=
  match first with
  | .failed error => .failed error
  | .done value earlier =>
    match second value with
    | .failed error => .failed error
    | .done result later => .done result (earlier ++ later)

/-- A step that only returns a value raises no warning. -/
instance : Monad Diagnosed where
  pure value := .done value []
  bind := andThen

/-- Returning a value raises no warning. -/
@[simp] theorem pure_eq (value : α) : (pure value : Diagnosed α) = .done value [] := rfl

/-- After a failure the next step is not taken. -/
@[simp] theorem failed_bind (error : CompileError) (second : α → Diagnosed β) :
    (Diagnosed.failed error >>= second) = .failed error := rfl

/-- The warnings of a sequence are those of its first step followed by those of its second, as long
as the second does not fail. -/
theorem done_bind (value : α) (earlier : List Warning) (second : α → Diagnosed β) :
    (Diagnosed.done value earlier >>= second) =
      match second value with
      | .failed error => .failed error
      | .done result later => .done result (earlier ++ later) := rfl

/-- A sequence of two steps is done exactly when both are, with the warnings of both in order. -/
theorem bind_eq_done_iff (first : Diagnosed α) (second : α → Diagnosed β) (result : β)
    (warnings : List Warning) :
    (first >>= second) = .done result warnings ↔
      ∃ value earlier later, first = .done value earlier ∧ second value = .done result later ∧
        warnings = earlier ++ later := by
  cases first with
  | failed error => simp
  | done value earlier =>
    rw [done_bind]
    cases next : second value with
    | failed error =>
      simp only [reduceCtorEq, false_iff, not_exists, not_and]
      intro other given later same done
      cases same
      rw [next] at done
      cases done
    | done output later =>
      simp only [Diagnosed.done.injEq]
      constructor
      · rintro ⟨rfl, rfl⟩
        exact ⟨value, earlier, later, ⟨rfl, rfl⟩, next, rfl⟩
      · rintro ⟨other, given, rest, ⟨rfl, rfl⟩, done, rfl⟩
        rw [next] at done
        cases done
        exact ⟨rfl, rfl⟩

end Diagnosed

end SearchFilter
