import SearchFilter.Proofs.Regex.Continuation

/-!
# Items do not depend on what follows

The readers of escapes, counts and other single items find the same when an ending follows.
-/

namespace SearchFilter.Regex

/-- Skipping blanks makes no text longer. -/
theorem skipBlanks_length_le (inComment : Bool) (text : List Char) :
    (skipBlanks inComment text).length ≤ text.length := by
  induction text generalizing inComment with
  | nil => simp [skipBlanks]
  | cons c rest inductionHypothesis =>
    simp only [skipBlanks]
    split
    · exact Nat.le_succ_of_le (inductionHypothesis _)
    · split
      · exact Nat.le_succ_of_le (inductionHypothesis _)
      · split
        · exact Nat.le_succ_of_le (inductionHypothesis _)
        · exact Nat.le_refl _

/-- Skipping what is ignored makes no text longer. -/
theorem skip_length_le (spaced : Bool) (text : List Char) :
    (skip spaced text).length ≤ text.length := by
  cases spaced with
  | false => exact Nat.le_refl _
  | true => exact skipBlanks_length_le false text

/-- In an empty text there is nothing to skip. -/
@[simp] theorem skip_nil (spaced : Bool) : skip spaced [] = [] := by cases spaced <;> rfl

/-! ### Code points -/

/-- Digits of a fixed number do not depend on what follows them. -/
theorem readHexDigits_steady (spaced : Bool) (count value : Nat) :
    Steady (readHexDigits spaced value count) := by
  induction count generalizing value with
  | zero =>
    refine .of_append (fun left => ?_) fun _ _ isFound => ?_
    · simp only [readHexDigits]
      exact .of_some value (.append left)
    · cases isFound
      rfl
  | succ count inductionHypothesis =>
    refine .of_append (fun left => ?_) fun _ _ isFound => by cases isFound
    cases left with
    | nil => exact .of_none
    | cons c rest =>
      simp only [List.cons_append, readHexDigits]
      cases hexValue? c with
      | none => exact .of_none
      | some digit => exact inductionHypothesis _ _ _ (skip_continues spaced (.append rest))

/-- A bound on steps that is positive for every ending has a predecessor for each of them. -/
theorem exists_pred_of_le {fuel : Nat} {more : List Char → Nat}
    (enough : ∀ ending ∈ endings, fuel + 1 ≤ more ending) :
    ∃ less : List Char → Nat, (∀ ending ∈ endings, more ending = less ending + 1) ∧
      ∀ ending ∈ endings, fuel ≤ less ending := by
  refine ⟨fun ending => more ending - 1, fun ending isEnding => ?_, fun ending isEnding => ?_⟩
  · exact (Nat.sub_add_cancel (Nat.le_trans (Nat.succ_pos fuel) (enough ending isEnding))).symm
  · exact Nat.le_sub_one_of_lt (enough ending isEnding)

/-- A number between braces ends at its brace, so any fuel that was enough is enough with an
ending. -/
theorem readBracedHex_extends (spaced : Bool) (fuel value : Nat) (anyDigit : Bool)
    (more : List Char → Nat) (enough : ∀ ending ∈ endings, fuel ≤ more ending) {left : List Char}
    {text : List Char → List Char} (continues : Continues left text) :
    Extends (readBracedHex spaced value anyDigit fuel left)
      fun ending => readBracedHex spaced value anyDigit (more ending) (text ending) := by
  induction fuel generalizing value anyDigit more left text with
  | zero => exact .of_none
  | succ fuel inductionHypothesis =>
    obtain ⟨less, same, enoughLess⟩ := exists_pred_of_le enough
    cases left with
    | nil => exact .of_none
    | cons c rest =>
      have skipped := skip_continues spaced (.append rest)
      refine Extends.congr ?_ fun ending isEnding => by
        rw [continues.of_cons ending isEnding, same ending isEnding]
      simp only [readBracedHex]
      split
      · split
        · exact .of_some value skipped
        · exact .of_none
      · cases hexValue? c with
        | none => exact .of_none
        | some digit => exact inductionHypothesis _ _ less enoughLess skipped

/-- Code points do not depend on what follows. -/
theorem readCodePoint_steady (spaced : Bool) (digits : Nat) :
    Steady (readCodePoint spaced (digits + 1)) := by
  have literal (code : Nat) (twoDigits : Bool) : Steady fun text =>
      (do return (⟨← scalar? code, twoDigits⟩, text) : Option (Literal × List Char)) := by
    cases scalar? code with
    | none => exact .refused
    | some c => exact .pure _
  refine .of_append (fun left => ?_) fun _ _ isFound => ?_
  · have skipped := skip_continues spaced (.append left)
    simp only [readCodePoint]
    generalize skip spaced left = rest at skipped ⊢
    cases rest with
    | nil => exact .of_none
    | cons c rest =>
      refine Extends.congr ?_ fun ending isEnding => by rw [skipped.of_cons ending isEnding]
      by_cases brace : c = '\x7b'
      · subst brace
        exact (readBracedHex_extends spaced (rest.length + 1) 0 false
          (fun ending => (rest ++ ending).length + 1) (fun ending _ => by simp)
          (skip_continues spaced (.append rest))).bind fun code => literal code false
      · have unbraced {inner text : List Char} (same : c :: inner = '\x7b' :: text) : False :=
          brace (List.cons.inj same).1
        split
        · rename_i same
          exact (unbraced same).elim
        · refine Extends.congr ?_ fun ending _ => by
            split
            · rename_i same
              exact (unbraced same).elim
            · rfl
          exact (readHexDigits_steady spaced (digits + 1) 0 _ _ (.append (c :: rest))).bind
            fun code => literal code _
  · cases spaced <;> cases isFound

/-! ### Classes by property -/

/-- A name between braces ends at its brace, so any fuel that was enough is enough with an
ending. -/
theorem readBraced_extends (spaced : Bool) (fuel : Nat) (more : List Char → Nat)
    (enough : ∀ ending ∈ endings, fuel ≤ more ending) {left : List Char}
    {text : List Char → List Char} (continues : Continues left text) :
    Extends (readBraced spaced fuel left)
      fun ending => readBraced spaced (more ending) (text ending) := by
  induction fuel generalizing more left text with
  | zero => exact .of_none
  | succ fuel inductionHypothesis =>
    obtain ⟨less, same, enoughLess⟩ := exists_pred_of_le enough
    cases left with
    | nil => exact .of_none
    | cons c rest =>
      refine Extends.congr ?_ fun ending isEnding => by
        rw [continues.of_cons ending isEnding, same ending isEnding]
      simp only [readBraced]
      split
      · exact .of_some [] (.append rest)
      · exact (inductionHypothesis less enoughLess (skip_continues spaced (.append rest))).bind
          fun name => .pure (c :: name)

/-- Classes by property do not depend on what follows. -/
theorem readProperty_steady (spaced negated : Bool) : Steady (readProperty spaced negated) := by
  refine .of_append (fun left => ?_) fun _ _ isFound => ?_
  · have skipped := skip_continues spaced (.append left)
    simp only [readProperty]
    generalize skip spaced left = rest at skipped ⊢
    cases rest with
    | nil => exact .of_none
    | cons c rest =>
      have further := skip_continues spaced (.append rest)
      refine Extends.congr ?_ fun ending isEnding => by rw [skipped.of_cons ending isEnding]
      by_cases brace : c = '\x7b'
      · subst brace
        exact (readBraced_extends spaced (rest.length + 1)
          (fun ending => (rest ++ ending).length + 1) (fun ending _ => by simp) further).bind
          fun name => .pure (CharClass.property (propertyQuery name).1
            (negated != (propertyQuery name).2))
      · simp only
        split
        · exact .of_none
        · exact .of_some _ further
  · cases spaced <;> cases isFound

/-! ### Runs of characters -/

/-- The longest run of characters that belong to something, between which may stand what is ignored,
and what follows them. `fuel` is the length of the text. -/
def spanRun (belongs : Char → Bool) (spaced : Bool) : Nat → List Char → List Char × List Char
  | fuel + 1, c :: rest =>
    if belongs c then
      let (run, rest) := spanRun belongs spaced fuel (skip spaced rest)
      (c :: run, rest)
    else ([], c :: rest)
  | _, text => ([], text)

/-- In an empty text a run is empty. -/
theorem spanRun_nil (belongs : Char → Bool) (spaced : Bool) (fuel : Nat) :
    spanRun belongs spaced fuel [] = ([], []) := by cases fuel <;> rfl

/-- The name of a boundary is a run of its letters. -/
theorem spanBoundary_eq (spaced : Bool) (fuel : Nat) (text : List Char) :
    spanBoundary spaced fuel text = spanRun isBoundaryLetter spaced fuel text := by
  induction fuel generalizing text with
  | zero => cases text <;> rfl
  | succ fuel inductionHypothesis =>
    cases text with
    | nil => rfl
    | cons c rest => simp only [spanBoundary, spanRun, inductionHypothesis]

/-- The digits of a count are a run. -/
theorem spanDigits_eq (spaced : Bool) (fuel : Nat) (text : List Char) :
    spanDigits spaced fuel text = spanRun Char.isDigit spaced fuel text := by
  induction fuel generalizing text with
  | zero => cases text <;> rfl
  | succ fuel inductionHypothesis =>
    cases text with
    | nil => rfl
    | cons c rest => simp only [spanDigits, spanRun, inductionHypothesis]

/-- No sign of an ending continues the name of a boundary. -/
theorem not_isBoundaryLetter_of_sign {c : Char} (isSign : isEndingSign c = true) :
    isBoundaryLetter c = false := by
  obtain rfl | rfl | rfl := eq_of_isEndingSign isSign <;> decide

/-- No sign of an ending continues a number. -/
theorem not_isDigit_of_sign {c : Char} (isSign : isEndingSign c = true) : c.isDigit = false := by
  obtain rfl | rfl | rfl := eq_of_isEndingSign isSign <;> decide

/-- No sign of an ending is taken into a run, if the run may be as long as the text with one more
step for the sign. -/
theorem spanRun_extends (belongs : Char → Bool)
    (quiet : ∀ sign, isEndingSign sign = true → belongs sign = false) (spaced : Bool) (fuel : Nat)
    (more : List Char → Nat) {left : List Char} {text : List Char → List Char}
    (continues : Continues left text) (fits : left.length ≤ fuel)
    (enough : ∀ ending ∈ endings, left.length < more ending) :
    Extends (some (spanRun belongs spaced fuel left))
      fun ending => some (spanRun belongs spaced (more ending) (text ending)) := by
  -- Once the run has used up the text, the sign of the ending does not belong to it.
  have ended (fuel : Nat) {text : List Char → List Char} (continues : Continues [] text)
      (more : List Char → Nat) (positive : ∀ ending ∈ endings, 0 < more ending) :
      Extends (some (spanRun belongs spaced fuel []))
        fun ending => some (spanRun belongs spaced (more ending) (text ending)) := by
    rw [spanRun_nil]
    refine Extends.congr (.of_some [] continues) fun ending isEnding => ?_
    obtain ⟨less, same⟩ := Nat.exists_eq_succ_of_ne_zero (Nat.ne_of_gt (positive _ isEnding))
    obtain nothing | ⟨sign, rest, starts, isSign⟩ := continues.starts ending isEnding
    · rw [nothing, spanRun_nil]
    · simp [same, starts, spanRun, quiet sign isSign]
  induction fuel generalizing more left text with
  | zero =>
    obtain rfl := List.length_eq_zero_iff.mp (Nat.le_zero.mp fits)
    exact ended 0 continues more enough
  | succ fuel inductionHypothesis =>
    cases left with
    | nil => exact ended _ continues more enough
    | cons c rest =>
      obtain ⟨less, same, enoughLess⟩ := exists_pred_of_le enough
      refine Extends.congr ?_ fun ending isEnding => by
        rw [continues.of_cons ending isEnding, same ending isEnding]
      simp only [spanRun]
      split
      · have shorter := skip_length_le spaced rest
        exact (inductionHypothesis less (skip_continues spaced (.append rest))
          (Nat.le_trans shorter (Nat.le_of_succ_le_succ fits))
          (fun ending isEnding => Nat.lt_of_le_of_lt shorter (enoughLess ending isEnding))).map
          (c :: ·)
      · exact .of_some [] (.append (c :: rest))

/-! ### Escapes -/

/-- The boundary whose name stands before a closing brace. -/
def closeBoundary : List Char × List Char → Option (Anchor × List Char)
  | (name, '\x7d' :: after) => (namedBoundary? name).map fun kind => (kind, after)
  | _ => none

/-- A brace behind a boundary starts its name if a letter follows, and a count otherwise. -/
theorem readBoundary_braced (spaced : Bool) (rest : List Char) :
    readBoundary spaced ('\x7b' :: rest) =
      match skip spaced rest with
      | [] => none
      | c :: inner =>
        if isBoundaryLetter c then
          closeBoundary (spanRun isBoundaryLetter spaced (inner.length + 1) (c :: inner))
        else some (.wordBoundary, '\x7b' :: rest) := by
  simp only [readBoundary, spanBoundary_eq]
  rfl

/-- Without a brace behind it a boundary is one between words. -/
theorem readBoundary_unbraced (spaced : Bool) (text : List Char)
    (unbraced : ∀ rest, text ≠ '\x7b' :: rest) :
    readBoundary spaced text = some (.wordBoundary, text) := by
  unfold readBoundary
  split
  · exact absurd rfl (unbraced _)
  · rfl

/-- The name of a boundary ends at its brace. -/
theorem closeBoundary_steady (name : List Char) :
    Steady fun text => closeBoundary (name, text) := by
  refine .of_cons rfl fun c rest => ?_
  by_cases brace : c = '\x7d'
  · subst brace
    simp only [closeBoundary]
    cases namedBoundary? name with
    | none => exact .of_none
    | some kind => exact .of_some kind (.append rest)
  · simp [closeBoundary, brace, Extends.of_none]

/-- An ending does not start with any other sign. -/
theorem ending_ne_cons {ending : List Char} (isEnding : ending ∈ endings) {c : Char}
    (noSign : isEndingSign c = false) (rest : List Char) : ending ≠ c :: rest := by
  obtain ⟨sign, after, rfl, isSign⟩ := ending_eq_cons isEnding
  intro same
  rw [(List.cons.inj same).1, noSign] at isSign
  cases isSign

/-- An ending has at least its sign. -/
theorem length_pos_of_ending {ending : List Char} (isEnding : ending ∈ endings) :
    0 < ending.length := by
  obtain ⟨sign, rest, rfl, -⟩ := ending_eq_cons isEnding
  exact Nat.succ_pos _

/-- No sign of an ending is taken into the name of a boundary. -/
theorem spanName_extends (spaced : Bool) (c : Char) (rest : List Char) :
    Extends (some (spanRun isBoundaryLetter spaced (rest.length + 1) (c :: rest)))
      fun ending => some (spanRun isBoundaryLetter spaced ((rest ++ ending).length + 1)
        (c :: (rest ++ ending))) := by
  refine spanRun_extends isBoundaryLetter (fun _ => not_isBoundaryLetter_of_sign) spaced _
    (fun ending => (rest ++ ending).length + 1) (.append (c :: rest)) (Nat.le_refl _) ?_
  intro ending isEnding
  have positive := length_pos_of_ending isEnding
  simp only [List.length_cons, List.length_append]
  omega

/-- Boundaries do not depend on what follows. No ending starts with a brace. -/
theorem readBoundary_steady (spaced : Bool) : Steady (readBoundary spaced) := by
  refine .of_append (fun left => ?_) fun _ _ isFound => by cases isFound; rfl
  cases left with
  | nil =>
    refine Extends.congr (.of_some Anchor.wordBoundary (.append [])) fun ending isEnding => ?_
    exact readBoundary_unbraced spaced ending fun rest => ending_ne_cons isEnding rfl rest
  | cons c rest =>
    by_cases brace : c = '\x7b'
    · subst brace
      have skipped := skip_continues spaced (.append rest)
      simp only [readBoundary_braced, List.cons_append]
      generalize skip spaced rest = inner at skipped ⊢
      cases inner with
      | nil => exact .of_none
      | cons d inner =>
        refine Extends.congr ?_ fun ending isEnding => by rw [skipped.of_cons ending isEnding]
        dsimp only
        split
        · exact (spanName_extends spaced d inner).bind closeBoundary_steady
        · exact .of_some Anchor.wordBoundary (.append _)
    · have unbraced (rest text : List Char) : c :: rest ≠ '\x7b' :: text := fun same =>
        brace (List.cons.inj same).1
      simp only [List.cons_append, readBoundary_unbraced spaced _ (unbraced _)]
      exact .of_some Anchor.wordBoundary (.append (c :: rest))

/-- Escapes do not depend on what follows. The cases are those of the character behind the
backslash. -/
theorem readEscape_steady (spaced : Bool) : Steady (readEscape spaced) := by
  refine .of_cons rfl fun c rest => ?_
  have after := Continues.append rest
  simp only [readEscape]
  split
  · exact .of_some (Item.literal ⟨c, false⟩) after
  · split
    any_goals exact Extends.of_some _ after
    any_goals exact Extends.of_none
    · exact (readCodePoint_steady spaced 1 _ _ after).map Item.literal
    · exact (readCodePoint_steady spaced 3 _ _ after).map Item.literal
    · exact (readCodePoint_steady spaced 7 _ _ after).map Item.literal
    · exact (readProperty_steady spaced false _ _ after).map Item.chars
    · exact (readProperty_steady spaced true _ _ after).map Item.chars
    · exact (readBoundary_steady spaced _ _ after).map Item.anchor

/-- Without a backslash an item is one character, whatever follows. -/
theorem readItem_unescaped (spaced : Bool) {c : Char} (unescaped : c ≠ '\\') :
    ∃ item, ∀ rest, readItem spaced (c :: rest) = some (item, rest) := by
  by_cases dot : c = '.'
  · exact ⟨.dot, fun rest => by rw [dot]; rfl⟩
  by_cases start : c = '^'
  · exact ⟨.anchor .lineStart, fun rest => by rw [start]; rfl⟩
  by_cases stop : c = '$'
  · exact ⟨.anchor .lineEnd, fun rest => by rw [stop]; rfl⟩
  · exact ⟨.literal ⟨c, false⟩, fun rest => by simp only [readItem]⟩

/-- Single items do not depend on what follows. -/
theorem readItem_steady (spaced : Bool) : Steady (readItem spaced) := by
  refine .of_cons rfl fun c rest => ?_
  by_cases backslash : c = '\\'
  · subst backslash
    exact readEscape_steady spaced _ _ (.append rest)
  · obtain ⟨item, reads⟩ := readItem_unescaped spaced backslash
    simp only [reads]
    exact .of_some item (.append rest)

/-- Members of a class do not depend on what follows. -/
theorem readMember_steady (spaced : Bool) : Steady (readMember spaced) := by
  refine .of_cons rfl fun c rest => ?_
  by_cases backslash : c = '\\'
  · subst backslash
    exact readEscape_steady spaced _ _ (.append rest)
  · simp only [readMember]
    exact .of_some _ (.append rest)

/-! ### Counts -/

/-- A text that goes on is not shorter with an ending. Where a comment has taken the ending in,
nothing was left before either. -/
theorem Continues.length_le {left : List Char} {text : List Char → List Char}
    (continues : Continues left text) (ending : List Char) (isEnding : ending ∈ endings) :
    left.length ≤ (text ending).length := by
  obtain kept | ⟨rfl, -⟩ := continues
  · simp [kept ending isEnding]
  · exact Nat.zero_le _

/-- White space is passed over up to the ending. -/
theorem dropWhiteSpace_append (left : List Char) {ending : List Char}
    (isEnding : ending ∈ endings) :
    (left ++ ending).dropWhile Text.isWhiteSpace = left.dropWhile Text.isWhiteSpace ++ ending := by
  obtain ⟨sign, rest, rfl, isSign⟩ := ending_eq_cons isEnding
  induction left with
  | nil => simp [not_isWhiteSpace_of_sign isSign]
  | cons c left inductionHypothesis =>
    simp only [List.cons_append, List.dropWhile_cons]
    split
    · exact inductionHypothesis
    · rfl

/-- White space is dropped up to the ending, which starts with none. -/
theorem dropWhiteSpace_continues {left : List Char} {text : List Char → List Char}
    (continues : Continues left text) :
    Continues (left.dropWhile Text.isWhiteSpace)
      fun ending => (text ending).dropWhile Text.isWhiteSpace :=
  continues.step (List.dropWhile Text.isWhiteSpace)
    (fun left => .inl fun _ isEnding => dropWhiteSpace_append left isEnding) rfl

/-- The number that a run of digits stands for, if it is in range. -/
def decimal? (found : List Char × List Char) : Option (Nat × List Char) :=
  let value := found.1.foldl (fun value d => value * 10 + (d.toNat - '0'.toNat)) 0
  if found.1.isEmpty || UInt32.size ≤ value then none
  else some (value, found.2.dropWhile Text.isWhiteSpace)

/-- A number in a count is a run of digits with white space around it. -/
theorem readDecimal_eq (spaced : Bool) (text : List Char) :
    readDecimal spaced text =
      decimal? (spanRun Char.isDigit spaced ((text.dropWhile Text.isWhiteSpace).length + 1)
        (text.dropWhile Text.isWhiteSpace)) := by
  simp only [readDecimal, spanDigits_eq]
  rfl

/-- The value of a number does not depend on what follows. -/
theorem decimal?_steady (digits : List Char) : Steady fun rest => decimal? (digits, rest) := by
  intro rest text continues
  simp only [decimal?]
  split
  · exact .of_none
  · exact .of_some _ (dropWhiteSpace_continues continues)

/-- Numbers in counts do not depend on what follows. -/
theorem readDecimal_steady (spaced : Bool) : Steady (readDecimal spaced) := by
  intro left text continues
  have start := dropWhiteSpace_continues continues
  have digits := spanRun_extends Char.isDigit (fun _ => not_isDigit_of_sign) spaced
    ((left.dropWhile Text.isWhiteSpace).length + 1)
    (fun ending => ((text ending).dropWhile Text.isWhiteSpace).length + 1) start
    (Nat.le_succ _) fun ending isEnding => Nat.lt_succ_of_le (start.length_le ending isEnding)
  simp only [readDecimal_eq]
  exact digits.bind decimal?_steady

/-- The end of a count after its upper bound. -/
def closeMost (least : Nat) (found : Nat × List Char) :
    Option ((Nat × Option Nat) × List Char) :=
  match found with
  | (most, '\x7d' :: rest) => if least ≤ most then some ((least, some most), rest) else none
  | _ => none

/-- The rest of a count after its lower bound. -/
def closeLeast (spaced : Bool) (found : Nat × List Char) :
    Option ((Nat × Option Nat) × List Char) :=
  match found.2 with
  | '\x7d' :: rest => some ((found.1, some found.1), rest)
  | ',' :: rest =>
    match skip spaced rest with
    | '\x7d' :: rest => some ((found.1, none), rest)
    | rest => readDecimal spaced rest >>= closeMost found.1
  | _ => none

/-- A count starts with its lower number. -/
theorem readCount_eq (spaced : Bool) (text : List Char) :
    readCount spaced text = readDecimal spaced (skip spaced text) >>= closeLeast spaced := by
  unfold readCount
  congr 1

/-- The upper count ends at its brace. -/
theorem closeMost_steady (least most : Nat) : Steady fun text => closeMost least (most, text) := by
  refine .of_cons rfl fun c rest => ?_
  by_cases brace : c = '\x7d'
  · subst brace
    simp only [closeMost]
    split
    · exact .of_some _ (.append rest)
    · exact .of_none
  · simp [closeMost, brace, Extends.of_none]

/-- The lower count ends at a comma or at a brace, neither of which an ending starts with. -/
theorem closeLeast_steady (spaced : Bool) (least : Nat) :
    Steady fun text => closeLeast spaced (least, text) := by
  refine .of_cons rfl fun c rest => ?_
  by_cases brace : c = '\x7d'
  · subst brace
    exact .of_some (least, some least) (.append rest)
  by_cases comma : c = ','
  · subst comma
    have skipped := skip_continues spaced (.append rest)
    simp only [closeLeast]
    generalize skip spaced rest = inner at skipped ⊢
    cases inner with
    | nil => exact .of_none
    | cons d inner =>
      refine Extends.congr ?_ fun ending isEnding => by rw [skipped.of_cons ending isEnding]
      by_cases brace : d = '\x7d'
      · subst brace
        exact .of_some (least, none) (.append inner)
      · have most := (readDecimal_steady spaced _ _ (.append (d :: inner))).bind
          (closeMost_steady least)
        simpa [brace] using most
  · simp [closeLeast, brace, comma, Extends.of_none]

/-- Counts do not depend on what follows. -/
theorem readCount_steady (spaced : Bool) : Steady (readCount spaced) := by
  intro left text continues
  simp only [readCount_eq]
  exact (readDecimal_steady spaced _ _ (skip_continues spaced continues)).bind
    (closeLeast_steady spaced)

end SearchFilter.Regex
