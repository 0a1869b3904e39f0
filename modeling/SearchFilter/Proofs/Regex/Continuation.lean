import SearchFilter.Regex.Bracket
import Mathlib.Data.Set.Defs

/-!
# Reading on past the end of a text

A reader that is done with the start of a text does the same when more text follows, if what follows
cannot be taken for a part of what was read. The endings that matter here start with a parenthesis
or an anchor, which ends every item. There is one exception: where blanks are ignored, a comment at
the end of the text takes the ending in.
-/

namespace SearchFilter.Regex

/-- The signs that endings start with. -/
def isEndingSign (c : Char) : Bool := c = ')' || c = '$' || c = '\\'

/-- The texts that may follow. A comment before them does not end in them. -/
def endings : Set (List Char) :=
  { ending | (∃ sign rest, ending = sign :: rest ∧ isEndingSign sign = true) ∧ '\n' ∉ ending }

/-- An ending starts with a sign that ends every item. -/
theorem ending_eq_cons {ending : List Char} (isEnding : ending ∈ endings) :
    ∃ sign rest, ending = sign :: rest ∧ isEndingSign sign = true := isEnding.1

/-- There are three signs that an ending can start with. -/
theorem eq_of_isEndingSign {c : Char} (isSign : isEndingSign c = true) :
    c = ')' ∨ c = '$' ∨ c = '\\' := by
  simpa [isEndingSign, or_assoc] using isSign

/-- No sign of an ending is white space, so skipping stops in front of it. -/
theorem not_isWhiteSpace_of_sign {c : Char} (isSign : isEndingSign c = true) :
    Text.isWhiteSpace c = false := by
  obtain rfl | rfl | rfl := eq_of_isEndingSign isSign <;> decide

/-- How a text goes on when an ending follows: with what is left of the text and then the ending, or
with nothing, where a comment has taken in all of it. -/
def Continues (left : List Char) (text : List Char → List Char) : Prop :=
  (∀ ending ∈ endings, text ending = left ++ ending) ∨
    left = [] ∧ ∀ ending ∈ endings, text ending = []

/-- Whether what a reader finds in a text is found as well when an ending follows. -/
def Extends {α : Type} (found : Option (α × List Char))
    (extended : List Char → Option (α × List Char)) : Prop :=
  ∀ value left, found = some (value, left) → ∃ text, Continues left text ∧
    ∀ ending ∈ endings, extended ending = some (value, text ending)

/-- Whether a reader finds the same in every text when an ending follows. -/
def Steady {α : Type} (read : List Char → Option (α × List Char)) : Prop :=
  ∀ left text, Continues left text → Extends (read left) fun ending => read (text ending)

/-- Where the ending is appended the text goes on with it. -/
theorem Continues.append (left : List Char) : Continues left (left ++ ·) := .inl fun _ _ => rfl

/-- Nothing but an ending follows a text that has something left. -/
theorem Continues.of_cons {c : Char} {left : List Char} {text : List Char → List Char}
    (continues : Continues (c :: left) text) (ending : List Char) (isEnding : ending ∈ endings) :
    text ending = c :: (left ++ ending) := by
  obtain kept | ⟨none, -⟩ := continues
  · exact kept ending isEnding
  · cases none

/-- Where nothing of a text is left, nothing follows or a sign that ends every item. -/
theorem Continues.starts {text : List Char → List Char} (continues : Continues [] text)
    (ending : List Char) (isEnding : ending ∈ endings) :
    text ending = [] ∨ ∃ sign rest, text ending = sign :: rest ∧ isEndingSign sign = true := by
  obtain kept | ⟨-, taken⟩ := continues
  · obtain ⟨sign, rest, rfl, isSign⟩ := ending_eq_cons isEnding
    exact .inr ⟨sign, rest, kept _ isEnding, isSign⟩
  · exact .inl (taken ending isEnding)

/-- Where nothing is left the ending may be gone, taken in by a comment. -/
theorem Continues.nothing : Continues [] fun _ => [] := .inr ⟨rfl, fun _ _ => rfl⟩

/-- A change that commutes with appending keeps what goes on. -/
theorem Continues.step {left : List Char} {text : List Char → List Char}
    (continues : Continues left text) (change : List Char → List Char)
    (append : ∀ left, Continues (change left) fun ending => change (left ++ ending))
    (nothing : change [] = []) :
    Continues (change left) fun ending => change (text ending) := by
  obtain kept | ⟨rfl, taken⟩ := continues
  · obtain further | ⟨none, allTaken⟩ := append left
    · exact .inl fun ending isEnding => by simp only [kept ending isEnding, further ending isEnding]
    · exact .inr ⟨none, fun ending isEnding => by
        simp only [kept ending isEnding, allTaken ending isEnding]⟩
  · exact .inr ⟨nothing, fun ending isEnding => by simp only [taken ending isEnding, nothing]⟩

namespace Extends

variable {α β : Type} {found : Option (α × List Char)}
  {extended : List Char → Option (α × List Char)}

/-- Of a reader that has found nothing nothing is asked. -/
theorem of_none : Extends (none : Option (α × List Char)) extended := by
  intro value left isFound
  cases isFound

/-- A reader that has found a value extends if what it leaves goes on. -/
theorem of_some (value : α) {left : List Char} {text : List Char → List Char}
    (continues : Continues left text) :
    Extends (some (value, left)) fun ending => some (value, text ending) := by
  intro given rest isFound
  cases isFound
  exact ⟨text, continues, fun _ _ => rfl⟩

/-- Extending depends on the reader only through what it finds before an ending. -/
theorem congr {other : List Char → Option (α × List Char)} (extend : Extends found extended)
    (same : ∀ ending ∈ endings, other ending = extended ending) : Extends found other := by
  intro value left isFound
  obtain ⟨text, continues, finds⟩ := extend value left isFound
  exact ⟨text, continues, fun ending isEnding =>
    (same ending isEnding).trans (finds ending isEnding)⟩

/-- What is done next may depend on the ending as well. -/
theorem bind_extends {next : α → List Char → Option (β × List Char)}
    {extendedNext : List Char → α → List Char → Option (β × List Char)}
    (first : Extends found extended)
    (extend : ∀ value left text, Continues left text →
      Extends (next value left) fun ending => extendedNext ending value (text ending)) :
    Extends (found.bind fun result => next result.1 result.2)
      fun ending => (extended ending).bind fun result => extendedNext ending result.1 result.2 := by
  intro result rest isFound
  obtain ⟨⟨value, left⟩, rfl, nextFound⟩ := Option.bind_eq_some_iff.mp isFound
  obtain ⟨text, continues, finds⟩ := first value left rfl
  obtain ⟨after, follows, nextFinds⟩ := extend value left text continues result rest nextFound
  refine ⟨after, follows, fun ending isEnding => ?_⟩
  simp only [finds ending isEnding, Option.bind_some]
  exact nextFinds ending isEnding

/-- Readers in sequence extend if the first one does and the second one is steady. -/
theorem bind {next : α → List Char → Option (β × List Char)} (first : Extends found extended)
    (steady : ∀ value, Steady (next value)) :
    Extends (found.bind fun result => next result.1 result.2)
      fun ending => (extended ending).bind fun result => next result.1 result.2 :=
  first.bind_extends steady

/-- Changing what is found keeps the text that is left. -/
theorem map (change : α → β) (first : Extends found extended) :
    Extends (found.map fun result => (change result.1, result.2))
      fun ending => (extended ending).map fun result => (change result.1, result.2) := by
  intro result rest isFound
  obtain ⟨⟨value, left⟩, rfl, same⟩ := Option.map_eq_some_iff.mp isFound
  obtain ⟨text, continues, finds⟩ := first value left rfl
  cases same
  exact ⟨text, continues, fun ending isEnding => by simp only [finds ending isEnding]; rfl⟩

end Extends

/-- A reader is steady if it finds the same in a text and in the text with an ending, and leaves
nothing where it is given nothing. -/
theorem Steady.of_append {α : Type} {read : List Char → Option (α × List Char)}
    (append : ∀ left, Extends (read left) fun ending => read (left ++ ending))
    (nothing : ∀ value rest, read [] = some (value, rest) → rest = []) : Steady read := by
  rintro left text (kept | ⟨rfl, taken⟩)
  · exact (append left).congr fun ending isEnding => by simp only [kept ending isEnding]
  · intro value rest isFound
    obtain rfl := nothing value rest isFound
    exact ⟨fun _ => [], .nothing, fun ending isEnding => by
      simp only [taken ending isEnding, isFound]⟩

/-- A reader that finds nothing in nothing is looked at where something is left. -/
theorem Steady.of_cons {α : Type} {read : List Char → Option (α × List Char)}
    (nothing : read [] = none)
    (cons : ∀ c rest, Extends (read (c :: rest)) fun ending => read (c :: (rest ++ ending))) :
    Steady read := by
  refine .of_append (fun left => ?_) fun value rest isFound => ?_
  · cases left with
    | nil =>
      rw [nothing]
      exact .of_none
    | cons c rest => exact cons c rest
  · rw [nothing] at isFound
    cases isFound

/-- A reader that takes nothing is steady. -/
theorem Steady.pure {α : Type} (value : α) : Steady fun text => some (value, text) :=
  fun _ _ continues => .of_some value continues

/-- A reader that finds nothing is steady. -/
theorem Steady.refused {α : Type} : Steady fun _ => (none : Option (α × List Char)) :=
  fun _ _ _ => .of_none

/-! ### What is ignored -/

/-- A comment that does not end takes in everything. -/
theorem skipBlanks_comment {text : List Char} (oneLine : '\n' ∉ text) :
    skipBlanks true text = [] := by
  induction text with
  | nil => rfl
  | cons c rest inductionHypothesis =>
    obtain ⟨notHere, notLater⟩ := not_or.mp (mt List.mem_cons.mpr oneLine)
    simpa [skipBlanks, Ne.symm notHere] using inductionHypothesis notLater

/-- Blanks are skipped up to the ending. A comment at the end of the text is the exception, which
takes the ending in. -/
theorem skipBlanks_continues (inComment : Bool) (left : List Char) :
    Continues (skipBlanks inComment left) fun ending => skipBlanks inComment (left ++ ending) := by
  induction left generalizing inComment with
  | nil =>
    cases inComment with
    | false =>
      refine .inl fun ending isEnding => ?_
      obtain ⟨sign, rest, rfl, isSign⟩ := ending_eq_cons isEnding
      have noComment : sign ≠ '#' := by rintro rfl; exact absurd isSign (by decide)
      simp [skipBlanks, not_isWhiteSpace_of_sign isSign, noComment]
    | true =>
      exact .inr ⟨rfl, fun ending isEnding => skipBlanks_comment isEnding.2⟩
  | cons c rest inductionHypothesis =>
    simp only [List.cons_append, skipBlanks]
    split
    · exact inductionHypothesis _
    · split
      · exact inductionHypothesis _
      · split
        · exact inductionHypothesis _
        · exact .append (c :: rest)

/-- What is ignored is skipped up to the ending, or with it in a comment. -/
theorem skip_continues (spaced : Bool) {left : List Char} {text : List Char → List Char}
    (continues : Continues left text) :
    Continues (skip spaced left) fun ending => skip spaced (text ending) := by
  refine continues.step (skip spaced) (fun left => ?_) (by cases spaced <;> rfl)
  cases spaced with
  | false => exact .append left
  | true => exact skipBlanks_continues false left

end SearchFilter.Regex
