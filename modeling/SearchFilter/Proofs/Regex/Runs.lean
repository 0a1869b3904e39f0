import SearchFilter.Proofs.Regex.Tokens

/-!
# Runs of the reader

The reader of regular expressions goes through a text step by step. A run is a number of its steps,
from one progress to another. The reader finds an expression exactly if a run goes through the whole
text and leaves no group open.
-/

namespace SearchFilter.Regex

/-! ### Single steps -/

/-- Behind skipped blanks there is nothing more to skip. -/
theorem skipBlanks_skipBlanks (inComment : Bool) (text : List Char) :
    skipBlanks false (skipBlanks inComment text) = skipBlanks inComment text := by
  induction text generalizing inComment with
  | nil => rfl
  | cons c rest inductionHypothesis =>
    simp only [skipBlanks]
    split
    · exact inductionHypothesis _
    · split
      · exact inductionHypothesis _
      · split
        · exact inductionHypothesis _
        · simp_all [skipBlanks]

/-- What is ignored is skipped once. -/
theorem skip_skip (spaced : Bool) (text : List Char) :
    skip spaced (skip spaced text) = skip spaced text := by
  cases spaced with
  | false => rfl
  | true => exact skipBlanks_skipBlanks false text

namespace Progress

variable {progress : Progress} {text : List Char} {fuel : Nat} {tree : Tree}

/-- The reader may skip what is ignored before it starts. -/
theorem read?_skip :
    read? fuel progress (skip progress.spaced text) = read? fuel progress text := by
  cases fuel with
  | zero => rfl
  | succ fuel => simp only [read?, skip_skip]

/-- At its end an expression is what the outermost level holds. -/
theorem read?_nil (atEnd : skip progress.spaced text = [])
    (reads : read? fuel progress text = some tree) :
    progress.outer = [] ∧ tree = progress.body := by
  cases fuel with
  | zero => cases reads
  | succ fuel =>
    simp only [read?, atEnd] at reads
    split at reads
    · rename_i isEmpty
      exact ⟨List.isEmpty_iff.mp isEmpty, (Option.some.inj reads).symm⟩
    · cases reads

/-- Before its end an expression is read by a step and by what follows. -/
theorem read?_cons {c : Char} {rest : List Char} (next : skip progress.spaced text = c :: rest)
    (reads : read? fuel progress text = some tree) :
    ∃ found less, progress.step? (c :: rest) = some found ∧
      read? less found.1 found.2 = some tree := by
  cases fuel with
  | zero => cases reads
  | succ fuel =>
    simp only [read?, next] at reads
    obtain ⟨found, steps, further⟩ := Option.bind_eq_some_iff.mp reads
    exact ⟨found, fuel, steps, further⟩

/-- The same for a step that is known. -/
theorem read?_step {c : Char} {rest after : List Char} {next : Progress}
    (steps : progress.step? (c :: rest) = some (next, after))
    (starts : skip progress.spaced (c :: rest) = c :: rest)
    (reads : read? fuel progress (c :: rest) = some tree) :
    ∃ less, read? less next after = some tree := by
  obtain ⟨found, less, found_, further⟩ := read?_cons starts reads
  rw [steps] at found_
  cases found_
  exact ⟨less, further⟩

end Progress

/-! ### Runs -/

namespace Progress

/-- Whether a number of steps takes the reader from one progress, with a text left, to another. -/
inductive Reaches : Nat → Progress → List Char → Progress → List Char → Prop
  | here (progress : Progress) (text : List Char) : Reaches 0 progress text progress text
  | step {count : Nat} {progress next last : Progress} {text rest after final : List Char} {c : Char}
    (starts : skip progress.spaced text = c :: rest)
    (steps : progress.step? (c :: rest) = some (next, after))
    (further : Reaches count next after last final) : Reaches (count + 1) progress text last final

namespace Reaches

variable {count more : Nat} {progress middle last : Progress} {text between final : List Char}

/-- A run of one step through a text that does not start with something ignored. -/
theorem single {c : Char} {rest : List Char} (steps : progress.step? (c :: rest) = some (last, final))
    (starts : skip progress.spaced (c :: rest) = c :: rest) :
    Reaches 1 progress (c :: rest) last final :=
  .step starts steps (.here last final)

/-- A run goes on with another one that starts where it ends. -/
theorem trans (first : Reaches count progress text middle between)
    (second : Reaches more middle between last final) :
    Reaches (more + count) progress text last final := by
  induction first with
  | here => exact second
  | step starts steps _ inductionHypothesis => exact .step starts steps (inductionHypothesis second)

/-- What the reader finds from the start of a run it finds from its end, with as much less fuel. -/
theorem read?_eq (run : Reaches count progress text last final) (fuel : Nat) :
    read? (fuel + count) progress text = read? fuel last final := by
  induction run with
  | here => rfl
  | step starts steps _ inductionHypothesis =>
    rw [← inductionHypothesis, ← Nat.add_assoc]
    simp only [read?, starts, steps, Option.bind_eq_bind, Option.bind_some]

/-- An expression that is found from the start of a run is found from its end. -/
theorem read?_of (run : Reaches count progress text last final) {fuel : Nat} {tree : Tree}
    (reads : read? fuel progress text = some tree) :
    ∃ less, read? less last final = some tree := by
  induction run generalizing fuel with
  | here => exact ⟨fuel, reads⟩
  | step starts steps _ inductionHypothesis =>
    obtain ⟨found, less, stepsAlso, further⟩ := read?_cons starts reads
    cases steps.symm.trans stepsAlso
    exact inductionHypothesis further

end Reaches

/-- The reader finds an expression exactly if a run within the fuel ends where nothing is left to
read and no group is open. -/
theorem read?_eq_some_iff {fuel : Nat} {progress : Progress} {text : List Char} {tree : Tree} :
    read? fuel progress text = some tree ↔
      ∃ count last final, count < fuel ∧ Reaches count progress text last final ∧
        skip last.spaced final = [] ∧ last.outer = [] ∧ last.body = tree := by
  constructor
  · intro reads
    induction fuel generalizing progress text with
    | zero => cases reads
    | succ fuel inductionHypothesis =>
      cases next : skip progress.spaced text with
      | nil =>
        obtain ⟨closed, rfl⟩ := read?_nil next reads
        exact ⟨0, progress, text, Nat.succ_pos fuel, .here progress text, next, closed, rfl⟩
      | cons c rest =>
        simp only [read?, next] at reads
        obtain ⟨⟨following, after⟩, steps, further⟩ := Option.bind_eq_some_iff.mp reads
        obtain ⟨count, last, final, within, run, atEnd, closed, body⟩ := inductionHypothesis further
        exact ⟨count + 1, last, final, Nat.succ_lt_succ within, .step next steps run, atEnd, closed,
          body⟩
  · rintro ⟨count, last, final, within, run, atEnd, closed, rfl⟩
    obtain ⟨less, rfl⟩ := Nat.exists_eq_add_of_lt within
    have reads : read? (less + 1) last final = some last.body := by
      simp only [read?, atEnd, closed, List.isEmpty_nil, if_true]
    rw [← reads, ← run.read?_eq (less + 1)]
    congr 1
    omega

end Progress

end SearchFilter.Regex
