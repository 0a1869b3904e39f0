import SearchFilter.Proofs.Regex.Remainders

/-!
# Items before the closing signs

Where a pattern breaks off within an item, the signs that the engine writes after it may complete
the item: a backslash takes the parenthesis for a literal. Then the parenthesis is used up. Most
items are not completed at all, since they end with a sign that is not among the closing ones.
-/

namespace SearchFilter.Regex

/-- The signs that the engine writes after a pattern. -/
abbrev closing : List Char := [')', '$']

/-- The closing signs are an ending. -/
theorem closing_mem : closing ∈ endings := ⟨⟨')', ['$'], rfl, rfl⟩, by decide⟩

/-- How a text goes on before the closing signs: with them, or with nothing, where a comment has
taken them in. -/
def Closed (left text : List Char) : Prop := text = left ++ closing ∨ left = [] ∧ text = []

/-- A text that goes on with any ending goes on with the closing signs. -/
theorem Continues.closed {left : List Char} {text : List Char → List Char}
    (continues : Continues left text) : Closed left (text closing) :=
  continues.imp (fun kept => kept closing closing_mem)
    fun ⟨noneLeft, taken⟩ => ⟨noneLeft, taken closing closing_mem⟩

namespace Closed

variable {left text : List Char}

/-- A text with the closing signs behind it is closed. -/
theorem append (left : List Char) : Closed left (left ++ closing) := .inl rfl

/-- A closed text is one that goes on with the closing signs. -/
theorem continues (closed : Closed left text) :
    ∃ going, Continues left going ∧ going closing = text := by
  obtain rfl | ⟨rfl, rfl⟩ := closed
  · exact ⟨_, .append left, rfl⟩
  · exact ⟨_, .nothing, rfl⟩

/-- Skipping what is ignored keeps a text closed. -/
theorem skip (closed : Closed left text) (spaced : Bool) :
    Closed (Regex.skip spaced left) (Regex.skip spaced text) := by
  obtain ⟨going, continues, rfl⟩ := closed.continues
  exact (skip_continues spaced continues).closed

/-- A closed text of which something is left has the closing signs behind it. -/
theorem of_cons {c : Char} (closed : Closed (c :: left) text) : text = c :: (left ++ closing) := by
  obtain kept | ⟨none, -⟩ := closed
  · exact kept
  · cases none

/-- Where nothing is left the closing signs are there or have been taken in. -/
theorem of_nil (closed : Closed [] text) : text = [] ∨ text = closing := by
  obtain kept | ⟨-, taken⟩ := closed
  · exact .inr kept
  · exact .inl taken

end Closed

variable {α β : Type}

/-- What is found in a text is found before the closing signs, and leaves the same. -/
theorem Extends.closed {found : Option (α × List Char)}
    {extended : List Char → Option (α × List Char)} (extends_ : Extends found extended) {value : α}
    {left : List Char} (isFound : found = some (value, left)) :
    ∃ text, Closed left text ∧ extended closing = some (value, text) := by
  obtain ⟨text, continues, finds⟩ := extends_ value left isFound
  exact ⟨_, continues.closed, finds closing closing_mem⟩

/-- A steady reader finds the same in a closed text, and leaves it closed. -/
theorem Steady.closed {read : List Char → Option (α × List Char)} (steady : Steady read)
    {left text rest : List Char} {value : α} (closed : Closed left text)
    (isFound : read left = some (value, rest)) :
    ∃ after, Closed rest after ∧ read text = some (value, after) := by
  obtain ⟨going, continues, rfl⟩ := closed.continues
  exact (steady _ _ continues).closed isFound

/-- Whether a reader that finds nothing in a text finds nothing before the closing signs either. -/
def Refuses (read : List Char → Option (α × List Char)) : Prop :=
  ∀ left text, Closed left text → read left = none → read text = none

/-- Readers in sequence refuse a closed text where they refuse the text without the signs. -/
theorem Refuses.bind {read : List Char → Option (α × List Char)}
    {next : α → List Char → Option (β × List Char)} (first : Refuses read) (steady : Steady read)
    (second : ∀ value, Refuses (next value)) :
    Refuses fun text => (read text).bind fun result => next result.1 result.2 := by
  intro left text closed refused
  cases found : read left with
  | none =>
    simp only [first left text closed found, Option.bind_none]
  | some result =>
    obtain ⟨after, closedAfter, finds⟩ := steady.closed closed found
    simp only [found, Option.bind_some] at refused
    simp only [finds, Option.bind_some]
    exact second result.1 result.2 after closedAfter refused

/-! ### Items -/

/-- Digits of a fixed number that are cut off are not completed: no closing sign is one. -/
theorem readHexDigits_refuses (spaced : Bool) (count value : Nat) :
    Refuses (readHexDigits spaced value count) := by
  induction count generalizing value with
  | zero => exact fun _ _ _ refused => by cases refused
  | succ count inductionHypothesis =>
    intro left text closed refused
    cases left with
    | nil => obtain rfl | rfl := closed.of_nil <;> rfl
    | cons c rest =>
      obtain rfl := closed.of_cons
      simp only [readHexDigits] at refused ⊢
      cases isDigit : hexValue? c with
      | none => rfl
      | some digit =>
        rw [isDigit] at refused
        exact inductionHypothesis _ _ _ ((Closed.append rest).skip spaced) refused

/-- A number between braces that is cut off is not completed. Both readers see the same text up to
the signs, so their fuel need not be the same. -/
theorem readBracedHex_refuses (spaced : Bool) (value : Nat) (anyDigit : Bool) (fuel more : Nat)
    {left text : List Char} (closed : Closed left text) (enough : left.length < fuel)
    (refused : readBracedHex spaced value anyDigit fuel left = none) :
    readBracedHex spaced value anyDigit more text = none := by
  induction more generalizing value anyDigit fuel left text with
  | zero => rfl
  | succ more inductionHypothesis =>
    cases left with
    | nil => obtain rfl | rfl := closed.of_nil <;> rfl
    | cons c rest =>
      obtain rfl := closed.of_cons
      obtain ⟨fuel, rfl⟩ := Nat.exists_eq_succ_of_ne_zero (Nat.ne_of_gt (Nat.zero_lt_of_lt enough))
      simp only [readBracedHex] at refused ⊢
      split_ifs at refused ⊢
      · rfl
      · cases isDigit : hexValue? c with
        | none => rfl
        | some digit =>
          rw [isDigit] at refused
          refine inductionHypothesis _ _ fuel ((Closed.append rest).skip spaced) ?_ refused
          exact Nat.lt_of_le_of_lt (skip_length_le spaced rest) (Nat.lt_of_succ_lt_succ enough)

/-- A code point that is cut off is not completed. -/
theorem readCodePoint_refuses (spaced : Bool) (digits : Nat) :
    Refuses (readCodePoint spaced (digits + 1)) := by
  have literal (code : Nat) (twoDigits : Bool) : Refuses fun text =>
      (do return (⟨← scalar? code, twoDigits⟩, text) : Option (Literal × List Char)) := by
    intro left text closed refused
    cases isScalar : scalar? code with
    | none => rfl
    | some c => simp [isScalar] at refused
  intro left text closed refused
  have skipped := closed.skip spaced
  simp only [readCodePoint] at refused ⊢
  generalize skip spaced left = inner at skipped refused
  generalize skip spaced text = innerText at skipped ⊢
  cases inner with
  | nil => obtain rfl | rfl := skipped.of_nil <;> rfl
  | cons c rest =>
    obtain rfl := skipped.of_cons
    -- In braces the digits may be missing or the code may be none; without braces their number is
    -- fixed.
    by_cases brace : c = '\x7b'
    · subst brace
      have inside := (Closed.append rest).skip spaced
      cases found : readBracedHex spaced 0 false (rest.length + 1) (skip spaced rest) with
      | none =>
        have none := readBracedHex_refuses spaced 0 false (rest.length + 1)
          ((rest ++ closing).length + 1) inside (Nat.lt_succ_of_le (skip_length_le spaced rest)) found
        simp only [none]
        rfl
      | some result =>
        obtain ⟨after, closedAfter, finds⟩ := (readBracedHex_extends spaced (rest.length + 1) 0 false
          (fun ending => (rest ++ ending).length + 1) (fun ending _ => by simp)
          (skip_continues spaced (.append rest))).closed found
        simp only [found] at refused
        simp only [finds]
        exact literal result.1 false _ _ closedAfter refused
    · have unbraced {inner text : List Char} (same : c :: inner = '\x7b' :: text) : False :=
        brace (List.cons.inj same).1
      split at refused
      · rename_i same
        exact (unbraced same).elim
      · split
        · rename_i same
          exact (unbraced same).elim
        · exact (readHexDigits_refuses spaced (digits + 1) 0).bind
            (readHexDigits_steady spaced (digits + 1) 0) (fun code => literal code _) _ _
            (.append (c :: rest)) refused

/-- Without a closing brace no name in braces ends. -/
theorem readBraced_unclosed (spaced : Bool) (fuel : Nat) {text : List Char}
    (unclosed : '\x7d' ∉ text) : readBraced spaced fuel text = none := by
  induction fuel generalizing text with
  | zero => rfl
  | succ fuel inductionHypothesis =>
    cases text with
    | nil => rfl
    | cons c rest =>
      have different : c ≠ '\x7d' := fun same => unclosed (same ▸ List.mem_cons_self)
      have later : '\x7d' ∉ skip spaced rest := fun inside =>
        unclosed (List.mem_cons_of_mem c ((skip_suffix spaced rest).mem inside))
      simp only [readBraced, different, if_false, inductionHypothesis later]
      rfl

/-- A name between braces that is cut off is not completed, since no closing sign is a brace. -/
theorem readBraced_refuses (spaced : Bool) (fuel more : Nat) {left text : List Char}
    (closed : Closed left text) (enough : left.length < fuel)
    (refused : readBraced spaced fuel left = none) : readBraced spaced more text = none := by
  induction more generalizing fuel left text with
  | zero => rfl
  | succ more inductionHypothesis =>
    cases left with
    | nil =>
      apply readBraced_unclosed
      obtain rfl | rfl := closed.of_nil <;> decide
    | cons c rest =>
      obtain rfl := closed.of_cons
      obtain ⟨fuel, rfl⟩ := Nat.exists_eq_succ_of_ne_zero (Nat.ne_of_gt (Nat.zero_lt_of_lt enough))
      simp only [readBraced] at refused ⊢
      split_ifs at refused ⊢
      cases found : readBraced spaced fuel (skip spaced rest) with
      | none =>
        have none := inductionHypothesis fuel ((Closed.append rest).skip spaced)
          (Nat.lt_of_le_of_lt (skip_length_le spaced rest) (Nat.lt_of_succ_lt_succ enough)) found
        rw [none]
        rfl
      | some result => simp [found] at refused

/-- Whether all that is found only before the closing signs leaves at most so many of them. -/
def Cut (most : Nat) (found extended : Option (α × List Char)) : Prop :=
  found = none → ∀ value after, extended = some (value, after) → after.length ≤ most

namespace Cut

variable {most : Nat} {found extended : Option (α × List Char)}

/-- Where nothing is found before the closing signs either, no bound has to hold. -/
theorem of_refused (refused : found = none → extended = none) : Cut most found extended := by
  intro none value after isFound
  rw [refused none] at isFound
  cases isFound

/-- Where something is found without the closing signs, no bound has to hold. -/
theorem of_found (result : α × List Char) : Cut most (some result) extended := nofun

end Cut

/-- A property without braces has a name of one character, which may be the closing parenthesis. -/
theorem readProperty_cut (spaced negated : Bool) {left text : List Char}
    (closed : Closed left text) :
    Cut 1 (readProperty spaced negated left) (readProperty spaced negated text) := by
  have skipped := closed.skip spaced
  simp only [readProperty]
  generalize skip spaced left = inner at skipped ⊢
  generalize skip spaced text = innerText at skipped ⊢
  cases inner with
  | nil =>
    obtain rfl | rfl := skipped.of_nil
    · exact .of_refused fun _ => rfl
    · rintro - value after isFound
      cases isFound
      exact (skip_suffix spaced ['$']).length_le
  | cons c rest =>
    obtain rfl := skipped.of_cons
    by_cases brace : c = '\x7b'
    · subst brace
      refine .of_refused fun refused => ?_
      cases found : readBraced spaced (rest.length + 1) (skip spaced rest) with
      | none =>
        have none := readBraced_refuses spaced (rest.length + 1) ((rest ++ closing).length + 1)
          ((Closed.append rest).skip spaced) (Nat.lt_succ_of_le (skip_length_le spaced rest)) found
        simp only [none]
        rfl
      | some result => simp [found] at refused
    · simp only
      split_ifs
      · exact .of_refused fun _ => rfl
      · exact .of_found _

/-- The name of a boundary that is cut off is not completed. -/
theorem closeBoundary_refuses (name : List Char) :
    Refuses fun text => closeBoundary (name, text) := by
  intro left text closed refused
  cases left with
  | nil => obtain rfl | rfl := closed.of_nil <;> rfl
  | cons c rest =>
    obtain rfl := closed.of_cons
    by_cases brace : c = '\x7d'
    · subst brace
      simp only [closeBoundary] at refused ⊢
      cases named : namedBoundary? name with
      | none => rfl
      | some kind => simp [named] at refused
    · simp [closeBoundary, brace]

/-- A boundary is found only before the closing signs if a brace comes after it and nothing more: as
the parenthesis is no letter of a name, the brace is not taken. -/
theorem readBoundary_cut (spaced : Bool) {left text : List Char} (closed : Closed left text)
    (refused : readBoundary spaced left = none) {kind : Anchor} {after : List Char}
    (isFound : readBoundary spaced text = some (kind, after)) :
    ∃ rest, after = '\x7b' :: rest ∧ skip spaced rest = closing := by
  cases left with
  | nil => cases refused
  | cons c rest =>
    obtain rfl := closed.of_cons
    by_cases brace : c = '\x7b'
    · subst brace
      have skipped := (Closed.append rest).skip spaced
      rw [readBoundary_braced] at refused isFound
      cases inside : skip spaced rest with
      | nil =>
        rw [inside] at skipped
        obtain none | some := skipped.of_nil
        · rw [none] at isFound
          cases isFound
        · rw [some] at isFound
          cases isFound
          exact ⟨_, rfl, some⟩
      | cons d inner =>
        rw [inside] at skipped refused
        rw [skipped.of_cons] at isFound
        dsimp only at refused isFound
        split_ifs at refused isFound
        · have run := spanName_extends spaced d inner
          generalize spanRun isBoundaryLetter spaced (inner.length + 1) (d :: inner) = found
            at refused run
          obtain ⟨after, closedAfter, finds⟩ := run.closed rfl
          have none := closeBoundary_refuses found.1 _ _ closedAfter refused
          rw [Option.some.inj finds] at isFound
          exact absurd (none.symm.trans isFound) nofun
    · have unbraced (text : List Char) : c :: rest ≠ '\x7b' :: text := fun same =>
        brace (List.cons.inj same).1
      rw [readBoundary_unbraced spaced _ unbraced] at refused
      cases refused

/-- What is left of the closing signs where an item is found only before them: less than both, or
both after a brace that belongs to a boundary. -/
inductive Spent (spaced : Bool) : Item → List Char → Prop
  | short {item : Item} {after : List Char} (atMost : after.length ≤ 1) : Spent spaced item after
  | brace {kind : Anchor} {rest : List Char} (nothing : skip spaced rest = closing) :
    Spent spaced (.anchor kind) ('\x7b' :: rest)

/-- Whether an item that is found only before the closing signs has spent them. -/
def SpentBy (spaced : Bool) (found extended : Option (Item × List Char)) : Prop :=
  found = none → ∀ item after, extended = some (item, after) → Spent spaced item after

namespace SpentBy

variable {spaced : Bool} {found extended : Option (Item × List Char)}

/-- What leaves at most one of the closing signs has spent them. -/
theorem of_cut (cut : Cut 1 found extended) : SpentBy spaced found extended :=
  fun refused item after isFound => .short (cut refused item after isFound)

end SpentBy

/-- Changing what is found keeps what is left. -/
theorem Cut.map {most : Nat} {found extended : Option (α × List Char)} (change : α → β)
    (cut : Cut most found extended) :
    Cut most (found.map fun result => (change result.1, result.2))
      (extended.map fun result => (change result.1, result.2)) := by
  intro refused value after isFound
  obtain ⟨result, isResult, same⟩ := Option.map_eq_some_iff.mp isFound
  cases same
  exact cut (Option.map_eq_none_iff.mp refused) _ _ isResult

/-- A reader that is not helped by the closing signs keeps every bound. -/
theorem Refuses.cut {read : List Char → Option (α × List Char)} (refuses : Refuses read)
    {most : Nat} {left text : List Char} (closed : Closed left text) :
    Cut most (read left) (read text) :=
  .of_refused (refuses left text closed)

/-- An escape that is cut off takes a closing sign for its character, is a boundary in front of a
brace, or is refused all the same. -/
theorem readEscape_spent (spaced : Bool) {left text : List Char} (closed : Closed left text) :
    SpentBy spaced (readEscape spaced left) (readEscape spaced text) := by
  cases left with
  | nil =>
    obtain rfl | rfl := closed.of_nil
    · exact .of_cut (.of_refused fun _ => rfl)
    · rintro - item after isFound
      cases isFound
      exact .short (Nat.le_refl 1)
  | cons c rest =>
    obtain rfl := closed.of_cons
    have further := Closed.append rest
    simp only [readEscape]
    split
    · exact .of_cut (.of_found _)
    · split
      any_goals exact SpentBy.of_cut (Cut.of_found _)
      any_goals exact SpentBy.of_cut (Cut.of_refused fun _ => rfl)
      · exact .of_cut (((readCodePoint_refuses spaced 1).cut further).map Item.literal)
      · exact .of_cut (((readCodePoint_refuses spaced 3).cut further).map Item.literal)
      · exact .of_cut (((readCodePoint_refuses spaced 7).cut further).map Item.literal)
      · exact .of_cut ((readProperty_cut spaced false further).map Item.chars)
      · exact .of_cut ((readProperty_cut spaced true further).map Item.chars)
      · intro refused item after isFound
        obtain ⟨result, isResult, same⟩ := Option.map_eq_some_iff.mp isFound
        cases same
        obtain ⟨left, isBrace, nothing⟩ :=
          readBoundary_cut spaced further (Option.map_eq_none_iff.mp refused) isResult
        rw [isBrace]
        exact .brace nothing

/-- An item that is cut off spends the closing signs as its escape does, or is refused all the
same. -/
theorem readItem_spent (spaced : Bool) (c : Char) (rest : List Char) :
    SpentBy spaced (readItem spaced (c :: rest)) (readItem spaced (c :: (rest ++ closing))) := by
  by_cases backslash : c = '\\'
  · subst backslash
    exact readEscape_spent spaced (.append rest)
  · obtain ⟨item, reads⟩ := readItem_unescaped spaced backslash
    rw [reads]
    exact .of_cut (.of_found _)

/-- A member of a class that is cut off spends the closing signs, or is refused all the same. -/
theorem readMember_spent (spaced : Bool) {left text : List Char} (closed : Closed left text) :
    SpentBy spaced (readMember spaced left) (readMember spaced text) := by
  cases left with
  | nil =>
    obtain rfl | rfl := closed.of_nil
    · exact .of_cut (.of_refused fun _ => rfl)
    · rintro - item after isFound
      cases isFound
      exact .short (Nat.le_refl 1)
  | cons c rest =>
    obtain rfl := closed.of_cons
    by_cases backslash : c = '\\'
    · subst backslash
      exact readEscape_spent spaced (.append rest)
    · simp only [readMember]
      exact .of_cut (.of_found _)

/-! ### Counts -/

/-- A count without digits does not get any from the signs. -/
theorem decimal?_refuses (digits : List Char) : Refuses fun rest => decimal? (digits, rest) := by
  intro left text _ refused
  simp only [decimal?] at refused ⊢
  split_ifs at refused ⊢
  rfl

/-- A number in a count that is cut off is not completed. -/
theorem readDecimal_refuses (spaced : Bool) : Refuses (readDecimal spaced) := by
  intro left text closed refused
  obtain ⟨going, continues, rfl⟩ := closed.continues
  have start := dropWhiteSpace_continues continues
  have digits := spanRun_extends Char.isDigit (fun _ => not_isDigit_of_sign) spaced
    ((left.dropWhile Text.isWhiteSpace).length + 1)
    (fun ending => ((going ending).dropWhile Text.isWhiteSpace).length + 1) start
    (Nat.le_succ _) fun ending isEnding => Nat.lt_succ_of_le (start.length_le ending isEnding)
  rw [readDecimal_eq] at refused ⊢
  obtain ⟨after, closedAfter, finds⟩ := digits.closed rfl
  rw [Option.some.inj finds]
  exact decimal?_refuses _ _ _ closedAfter refused

/-- The upper count is not completed by the signs, which have no brace. -/
theorem closeMost_refuses (least most : Nat) :
    Refuses fun text => closeMost least (most, text) := by
  intro left text closed refused
  cases left with
  | nil => obtain rfl | rfl := closed.of_nil <;> rfl
  | cons c rest =>
    obtain rfl := closed.of_cons
    by_cases brace : c = '\x7d'
    · subst brace
      simp only [closeMost] at refused ⊢
      split_ifs at refused ⊢
      rfl
    · simp [closeMost, brace]

/-- The lower count is not completed by the signs, which have neither comma nor brace. -/
theorem closeLeast_refuses (spaced : Bool) (least : Nat) :
    Refuses fun text => closeLeast spaced (least, text) := by
  intro left text closed refused
  cases left with
  | nil => obtain rfl | rfl := closed.of_nil <;> rfl
  | cons c rest =>
    obtain rfl := closed.of_cons
    by_cases brace : c = '\x7d'
    · subst brace
      cases refused
    by_cases comma : c = ','
    · subst comma
      have skipped := (Closed.append rest).skip spaced
      simp only [closeLeast] at refused ⊢
      generalize skip spaced rest = inner at skipped refused
      generalize skip spaced (rest ++ closing) = innerText at skipped ⊢
      have most := (readDecimal_refuses spaced).bind (readDecimal_steady spaced)
        (closeMost_refuses least)
      cases inner with
      | nil =>
        obtain rfl | rfl := skipped.of_nil
        · exact most _ _ skipped refused
        · exact most _ _ skipped refused
      | cons d inner =>
        obtain rfl := skipped.of_cons
        by_cases brace : d = '\x7d'
        · subst brace
          cases refused
        · have unbraced (text other : List Char) : d :: text ≠ '\x7d' :: other := fun same =>
            brace (List.cons.inj same).1
          split at refused
          · exact absurd ‹_› (unbraced _ _)
          · split
            · exact absurd ‹_› (unbraced _ _)
            · exact most _ _ skipped refused
    · simp [closeLeast, brace, comma]

/-- A count that is cut off is not completed. -/
theorem readCount_refuses (spaced : Bool) : Refuses (readCount spaced) := by
  intro left text closed refused
  rw [readCount_eq] at refused ⊢
  exact (readDecimal_refuses spaced).bind (readDecimal_steady spaced) (closeLeast_refuses spaced) _ _
    (closed.skip spaced) refused

end SearchFilter.Regex
