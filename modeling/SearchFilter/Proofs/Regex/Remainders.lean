import SearchFilter.Proofs.Regex.Tokens

/-!
# What a reader leaves

A reader leaves an end of the text that it is given: it makes up no characters and puts none back.
A token takes the sign that it starts with, so every step of the reader makes the text shorter.
-/

namespace SearchFilter.Regex

/-- Whether what is left after something found is an end of a text. -/
def Leaves {α : Type} (text : List Char) (found : Option (α × List Char)) : Prop :=
  ∀ value rest, found = some (value, rest) → rest <:+ text

namespace Leaves

variable {α β : Type} {text : List Char} {found : Option (α × List Char)}

/-- A reader that finds nothing leaves nothing. -/
theorem of_none : Leaves text (none : Option (α × List Char)) := nofun

/-- A reader leaves what it says that it leaves. -/
theorem of_some (value : α) {rest : List Char} (isEnd : rest <:+ text) :
    Leaves text (some (value, rest)) := by
  intro _ _ same
  cases same
  exact isEnd

/-- A reader that takes nothing leaves the whole text. -/
theorem pure (value : α) (text : List Char) : Leaves text (some (value, text)) :=
  .of_some value (List.suffix_refl text)

/-- What is found without reading leaves the whole text. -/
theorem attach (found : Option α) (text : List Char) :
    Leaves text (found.map fun value => (value, text)) := by
  cases found with
  | none => exact .of_none
  | some value => exact .pure value text

/-- What is left of an end of a text is an end of the text. -/
theorem within {shorter : List Char} (leaves : Leaves shorter found) (isEnd : shorter <:+ text) :
    Leaves text found :=
  fun value rest isFound => (leaves value rest isFound).trans isEnd

/-- Readers in sequence leave an end of what the first one leaves. -/
theorem bind {next : α → List Char → Option (β × List Char)} (first : Leaves text found)
    (second : ∀ value rest, Leaves rest (next value rest)) :
    Leaves text (found.bind fun result => next result.1 result.2) := by
  intro value rest isFound
  obtain ⟨⟨middle, between⟩, isFirst, isSecond⟩ := Option.bind_eq_some_iff.mp isFound
  exact (second middle between value rest isSecond).trans (first middle between isFirst)

/-- Changing what is found leaves the same text. -/
theorem map (change : α → β) (leaves : Leaves text found) :
    Leaves text (found.map fun result => (change result.1, result.2)) := by
  intro value rest isFound
  obtain ⟨⟨given, left⟩, isGiven, same⟩ := Option.map_eq_some_iff.mp isFound
  cases same
  exact leaves given left isGiven

end Leaves

/-! ### What is ignored -/

/-- Skipping blanks leaves an end of the text. -/
theorem skipBlanks_suffix (inComment : Bool) (text : List Char) :
    skipBlanks inComment text <:+ text := by
  induction text generalizing inComment with
  | nil => exact List.suffix_refl []
  | cons c rest inductionHypothesis =>
    have later (inside : Bool) : skipBlanks inside rest <:+ c :: rest :=
      (inductionHypothesis inside).trans (List.suffix_cons c rest)
    simp only [skipBlanks]
    split_ifs
    · exact later _
    · exact later _
    · exact later _
    · exact List.suffix_refl _

/-- Skipping what is ignored leaves an end of the text. -/
theorem skip_suffix (spaced : Bool) (text : List Char) : skip spaced text <:+ text := by
  cases spaced with
  | false => exact List.suffix_refl text
  | true => exact skipBlanks_suffix false text

/-- What follows the first sign that is not ignored. -/
theorem suffix_of_skip {spaced : Bool} {text rest : List Char} {c : Char}
    (next : skip spaced text = c :: rest) : rest <:+ text :=
  (List.suffix_cons c rest).trans (next ▸ skip_suffix spaced text)

/-- What is left behind the first character is an end of the whole text. -/
theorem skip_suffix_cons (spaced : Bool) (c : Char) (rest : List Char) :
    skip spaced rest <:+ c :: rest :=
  (skip_suffix spaced rest).trans (List.suffix_cons c rest)

/-- The mark of a reluctant repetition is the only thing that is skipped. -/
theorem skipLazy_suffix (text : List Char) : skipLazy text <:+ text := by
  unfold skipLazy
  split
  · exact List.suffix_cons _ _
  · exact List.suffix_refl _

/-! ### Items -/

/-- Digits of a fixed number leave an end of the text. -/
theorem readHexDigits_leaves (spaced : Bool) (value count : Nat) (text : List Char) :
    Leaves text (readHexDigits spaced value count text) := by
  induction count generalizing value text with
  | zero => exact .pure value text
  | succ count inductionHypothesis =>
    cases text with
    | nil => exact .of_none
    | cons c rest =>
      rw [readHexDigits]
      cases hexValue? c with
      | none => exact .of_none
      | some digit => exact (inductionHypothesis _ _).within (skip_suffix_cons spaced c rest)

/-- A number between braces leaves an end of the text. -/
theorem readBracedHex_leaves (spaced : Bool) (value : Nat) (anyDigit : Bool) (fuel : Nat)
    (text : List Char) : Leaves text (readBracedHex spaced value anyDigit fuel text) := by
  induction fuel generalizing value anyDigit text with
  | zero => exact .of_none
  | succ fuel inductionHypothesis =>
    cases text with
    | nil => exact .of_none
    | cons c rest =>
      have after := skip_suffix_cons spaced c rest
      rw [readBracedHex]
      split_ifs
      · exact .of_some value after
      · exact .of_none
      · cases hexValue? c with
        | none => exact .of_none
        | some digit => exact (inductionHypothesis _ _ _).within after

/-- A code point leaves an end of the text. -/
theorem readCodePoint_leaves (spaced : Bool) (digits : Nat) (text : List Char) :
    Leaves text (readCodePoint spaced digits text) := by
  have literal (code : Nat) (twoDigits : Bool) (rest : List Char) :
      Leaves rest (do return (⟨← scalar? code, twoDigits⟩, rest) :
        Option (Literal × List Char)) := by
    cases scalar? code with
    | none => exact .of_none
    | some c => exact .pure _ rest
  rw [readCodePoint]
  split
  · rename_i rest next
    have digits := (readBracedHex_leaves spaced 0 false (rest.length + 1) (skip spaced rest)).within
      ((skip_suffix spaced rest).trans (suffix_of_skip next))
    exact digits.bind fun code => literal code false
  · have digits' := (readHexDigits_leaves spaced 0 digits _).within (skip_suffix spaced text)
    exact digits'.bind fun code => literal code _

/-- A name between braces leaves an end of the text. -/
theorem readBraced_leaves (spaced : Bool) (fuel : Nat) (text : List Char) :
    Leaves text (readBraced spaced fuel text) := by
  induction fuel generalizing text with
  | zero => exact .of_none
  | succ fuel inductionHypothesis =>
    cases text with
    | nil => exact .of_none
    | cons c rest =>
      simp only [readBraced]
      split
      · exact .of_some [] (List.suffix_cons c rest)
      · exact ((inductionHypothesis _).within (skip_suffix_cons spaced c rest)).bind
          fun name => .pure (c :: name)

/-- A class by property leaves an end of the text. -/
theorem readProperty_leaves (spaced negated : Bool) (text : List Char) :
    Leaves text (readProperty spaced negated text) := by
  simp only [readProperty]
  split
  · exact .of_none
  · rename_i rest next
    have name := (readBraced_leaves spaced (rest.length + 1) (skip spaced rest)).within
      ((skip_suffix spaced rest).trans (suffix_of_skip next))
    exact name.bind fun name => .pure (CharClass.property (propertyQuery name).1
      (negated != (propertyQuery name).2))
  · rename_i c rest _ next
    split_ifs
    · exact .of_none
    · exact .of_some _ ((skip_suffix spaced rest).trans (suffix_of_skip next))

/-- A run leaves an end of the text. -/
theorem spanRun_suffix (belongs : Char → Bool) (spaced : Bool) (fuel : Nat) (text : List Char) :
    (spanRun belongs spaced fuel text).2 <:+ text := by
  induction fuel generalizing text with
  | zero =>
    cases text <;> exact List.suffix_refl _
  | succ fuel inductionHypothesis =>
    cases text with
    | nil => exact List.suffix_refl []
    | cons c rest =>
      rw [spanRun]
      split_ifs
      · exact (inductionHypothesis _).trans (skip_suffix_cons spaced c rest)
      · exact List.suffix_refl _

/-- The name of a boundary leaves an end of the text. -/
theorem closeBoundary_leaves (name text : List Char) : Leaves text (closeBoundary (name, text)) := by
  unfold closeBoundary
  split
  · rename_i after same
    cases same
    cases namedBoundary? name with
    | none => exact .of_none
    | some kind => exact .of_some kind (List.suffix_cons _ after)
  · exact .of_none

/-- A boundary leaves an end of the text. Where a brace starts a count the whole text is left. -/
theorem readBoundary_leaves (spaced : Bool) (text : List Char) :
    Leaves text (readBoundary spaced text) := by
  by_cases braced : ∃ rest, text = '\x7b' :: rest
  · obtain ⟨rest, rfl⟩ := braced
    rw [readBoundary_braced]
    split
    · exact .of_none
    · rename_i c inner next
      split_ifs
      · have isEnd : c :: inner <:+ '\x7b' :: rest :=
          next ▸ skip_suffix_cons spaced '\x7b' rest
        have run := spanRun_suffix isBoundaryLetter spaced (inner.length + 1) (c :: inner)
        generalize spanRun isBoundaryLetter spaced (inner.length + 1) (c :: inner) = found at run ⊢
        exact (closeBoundary_leaves found.1 found.2).within (run.trans isEnd)
      · exact .pure _ _
  · rw [readBoundary_unbraced spaced text fun rest same => braced ⟨rest, same⟩]
    exact .pure _ text

/-- An escape leaves an end of the text behind its backslash. -/
theorem readEscape_leaves (spaced : Bool) (text : List Char) :
    Leaves text (readEscape spaced text) := by
  cases text with
  | nil => exact .of_none
  | cons c rest =>
    have after := List.suffix_cons c rest
    simp only [readEscape]
    split
    · exact .of_some _ after
    · split
      any_goals exact Leaves.of_some _ after
      any_goals exact Leaves.of_none
      · exact ((readCodePoint_leaves spaced 2 rest).map Item.literal).within after
      · exact ((readCodePoint_leaves spaced 4 rest).map Item.literal).within after
      · exact ((readCodePoint_leaves spaced 8 rest).map Item.literal).within after
      · exact ((readProperty_leaves spaced false rest).map Item.chars).within after
      · exact ((readProperty_leaves spaced true rest).map Item.chars).within after
      · exact ((readBoundary_leaves spaced rest).map Item.anchor).within after

/-- An item takes at least one character. -/
theorem readItem_leaves (spaced : Bool) (c : Char) (rest : List Char) :
    Leaves rest (readItem spaced (c :: rest)) := by
  by_cases backslash : c = '\\'
  · subst backslash
    exact readEscape_leaves spaced rest
  · obtain ⟨item, reads⟩ := readItem_unescaped spaced backslash
    rw [reads]
    exact .pure item rest

/-- A member of a class takes its first character. -/
theorem readMember_leaves (spaced : Bool) (c : Char) (rest : List Char) :
    Leaves rest (readMember spaced (c :: rest)) := by
  by_cases backslash : c = '\\'
  · subst backslash
    exact readEscape_leaves spaced rest
  · simp only [readMember]
    exact .of_some _ (List.suffix_refl rest)

/-! ### Counts -/

/-- A number in a count leaves an end of the text. -/
theorem readDecimal_leaves (spaced : Bool) (text : List Char) :
    Leaves text (readDecimal spaced text) := by
  have start := List.dropWhile_suffix (l := text) Text.isWhiteSpace
  have run := spanRun_suffix Char.isDigit spaced ((text.dropWhile Text.isWhiteSpace).length + 1)
    (text.dropWhile Text.isWhiteSpace)
  rw [readDecimal_eq]
  generalize spanRun _ _ _ _ = found at run ⊢
  unfold decimal?
  dsimp only
  split_ifs
  · exact .of_none
  · exact .of_some _ (((List.dropWhile_suffix _).trans run).trans start)

/-- The end of an upper count leaves an end of the text. -/
theorem closeMost_leaves (least most : Nat) (text : List Char) :
    Leaves text (closeMost least (most, text)) := by
  unfold closeMost
  split
  · rename_i same
    cases same
    split_ifs
    · exact .of_some _ (List.suffix_cons _ _)
    · exact .of_none
  · exact .of_none

/-- The end of a lower count leaves an end of the text. -/
theorem closeLeast_leaves (spaced : Bool) (least : Nat) (text : List Char) :
    Leaves text (closeLeast spaced (least, text)) := by
  unfold closeLeast
  split
  · rename_i same
    dsimp only at same
    subst same
    exact .of_some _ (List.suffix_cons _ _)
  · rename_i rest same
    dsimp only at same
    subst same
    split
    · rename_i next
      exact .of_some _ ((suffix_of_skip next).trans (List.suffix_cons _ rest))
    · exact ((readDecimal_leaves spaced _).bind (closeMost_leaves least)).within
        (skip_suffix_cons spaced _ rest)
  · exact .of_none

/-- A count leaves an end of the text. -/
theorem readCount_leaves (spaced : Bool) (text : List Char) :
    Leaves text (readCount spaced text) := by
  rw [readCount_eq]
  exact ((readDecimal_leaves spaced _).within (skip_suffix spaced text)).bind
    (closeLeast_leaves spaced)

/-! ### Bracketed classes -/

/-- The start of a class leaves an end of the text. -/
theorem openBracket_suffix (spaced : Bool) (text : List Char) :
    (openBracket spaced text).2 <:+ text := by
  have negation : (openNegation spaced text).2 <:+ text := by
    unfold openNegation
    split
    · rename_i rest next
      exact (skip_suffix spaced rest).trans (suffix_of_skip next)
    · exact skip_suffix spaced text
  have level (negated : Bool) (hyphens : List CharClass) (rest : List Char) :
      (openLevel spaced negated (hyphens, rest)).2 <:+ rest := by
    unfold openLevel
    split
    · rename_i after same
      cases same
      exact skip_suffix_cons spaced _ after
    · rename_i same
      cases same
      exact List.suffix_refl _
  have whole : openBracket spaced text =
      openLevel spaced (openNegation spaced text).1
        (spanHyphens spaced ((openNegation spaced text).2.length + 1)
          (openNegation spaced text).2) := rfl
  rw [whole, spanHyphens_eq]
  exact ((level _ _ _).trans (spanRun_suffix _ _ _ _)).trans negation

/-- A named class leaves an end of the text. -/
theorem readPosix_leaves (text : List Char) : Leaves text (readPosix text) := by
  have named (found : Bool × List Char) : Leaves found.2 (namedClass? found) := by
    unfold namedClass?
    split
    · rename_i after next
      have isEnd : after <:+ found.2 := by
        have tail : after <:+ ':' :: ']' :: after :=
          (List.suffix_cons _ after).trans (List.suffix_cons _ _)
        exact tail.trans (next ▸ List.dropWhile_suffix _)
      cases PosixClass.ofName? (found.2.takeWhile fun c => c ≠ ':') with
      | none => exact .of_none
      | some name => exact .of_some _ isEnd
    · exact .of_none
  have negation (rest : List Char) : (namedNegation rest).2 <:+ rest := by
    unfold namedNegation
    split
    · exact List.suffix_cons _ _
    · exact List.suffix_refl _
  by_cases colon : ∃ rest, text = ':' :: rest
  · obtain ⟨rest, rfl⟩ := colon
    rw [readPosix_colon]
    exact (named _).within ((negation rest).trans (List.suffix_cons _ rest))
  · have none : readPosix text = none := by
      unfold readPosix
      split
      · exact absurd ⟨_, rfl⟩ colon
      · rfl
    rw [none]
    exact .of_none

/-- The end of a range leaves an end of the text. -/
theorem closeRange_leaves (spaced : Bool) (first : Item) (text : List Char) :
    Leaves text (closeRange spaced (first, text)) := by
  have isEnd := skip_suffix spaced text
  cases next : skip spaced text with
  | nil =>
    rw [closeRange_nil first next]
    exact .of_none
  | cons c rest =>
    rw [next] at isEnd
    by_cases hyphen : c = '-'
    · subst hyphen
      rw [closeRange_hyphen first next]
      split_ifs
      · exact (Leaves.attach _ _).within isEnd
      · cases following : skip spaced rest with
        | nil => exact .of_none
        | cons d inner =>
          have inside := (suffix_of_skip following).trans (suffix_of_skip next)
          exact ((readMember_leaves spaced d inner).within inside).bind fun last =>
            .attach (rangeOf? first last)
    · rw [closeRange_member first hyphen next]
      exact (Leaves.attach _ _).within isEnd

/-- A range takes its first character. -/
theorem readRange_leaves (spaced : Bool) (c : Char) (rest : List Char) :
    Leaves rest (readRange spaced (c :: rest)) := by
  rw [readRange_eq]
  exact (readMember_leaves spaced c rest).bind (closeRange_leaves spaced)

/-- An operation takes both of its signs. -/
theorem operation?_leaves (c : Char) (rest : List Char) :
    Leaves rest (operation? (c :: rest)) := by
  unfold operation?
  split
  · rename_i same
    cases same
    exact .of_some _ (List.suffix_cons _ _)
  · rename_i same
    cases same
    exact .of_some _ (List.suffix_cons _ _)
  · rename_i same
    cases same
    exact .of_some _ (List.suffix_cons _ _)
  · exact .of_none

/-- A token inside a class takes its first character, so the reader of classes ends. -/
theorem bracketToken?_leaves (spaced : Bool) (c : Char) (rest : List Char) :
    Leaves rest (bracketToken? spaced (c :: rest)) := by
  by_cases opens : c = '['
  · subst opens
    cases posix : readPosix rest with
    | some found =>
      simp only [bracketToken?, posix]
      exact .of_some _ (readPosix_leaves rest _ _ posix)
    | none =>
      simp only [bracketToken?, posix]
      exact .of_some _ (openBracket_suffix spaced rest)
  by_cases closes : c = ']'
  · subst closes
    exact .pure _ rest
  · rw [bracketToken?_inside spaced opens closes]
    cases operation : operation? (c :: rest) with
    | some found => exact .of_some _ (operation?_leaves c rest _ _ operation)
    | none => exact (readRange_leaves spaced c rest).map BracketToken.member

/-- A token takes at least one character. -/
theorem bracketToken?_length_lt {spaced : Bool} {text after : List Char} {token : BracketToken}
    (isToken : bracketToken? spaced text = some (token, after)) : after.length < text.length := by
  cases text with
  | nil => cases isToken
  | cons c rest => exact Nat.lt_succ_of_le (bracketToken?_leaves spaced c rest _ _ isToken).length_le

/-- A class leaves an end of the text. The induction is on the steps that are left. -/
theorem readBracketed_leaves (spaced : Bool) (fuel : Nat) (level : BracketLevel)
    (outer : List BracketLevel) (text : List Char) :
    Leaves text (readBracketed spaced fuel level outer text) := by
  induction fuel generalizing level outer text with
  | zero => exact .of_none
  | succ fuel inductionHypothesis =>
    rw [readBracketed_eq]
    cases next : skip spaced text with
    | nil => exact .of_none
    | cons c rest =>
      have token := bracketToken?_leaves spaced c rest
      refine Leaves.within (token.bind fun token left => ?_) (suffix_of_skip next)
      cases token with
      | member | enter | operate => exact inductionHypothesis _ _ left
      | leave =>
        cases outer with
        | nil => exact .pure _ left
        | cons parent outer => exact inductionHypothesis _ _ left

/-- A whole class leaves an end of the text. -/
theorem readClass_leaves (spaced : Bool) (text : List Char) :
    Leaves text (readClass spaced text) :=
  (readBracketed_leaves spaced _ _ _ _).within (openBracket_suffix spaced text)

/-! ### Groups -/

/-- The name of a group leaves an end of the text. -/
theorem readName_leaves (isFirst : Bool) (text : List Char) :
    Leaves text (readName isFirst text) := by
  induction text generalizing isFirst with
  | nil => exact .of_none
  | cons c rest inductionHypothesis =>
    by_cases close : c = '>'
    · subst close
      cases isFirst with
      | true => exact .of_none
      | false => exact .of_some [] (List.suffix_cons _ rest)
    · simp only [readName]
      split
      · exact ((inductionHypothesis false).bind fun name => .pure (c :: name)).within
          (List.suffix_cons c rest)
      · exact .of_none

/-- Flags leave an end of the text. -/
theorem readFlags_leaves (turnedOn dangling : Bool) (seen : FlagChanges) (text : List Char) :
    Leaves text (readFlags turnedOn dangling seen text) := by
  induction text generalizing turnedOn dangling seen with
  | nil => exact .of_none
  | cons c rest inductionHypothesis =>
    have further (turnedOn dangling : Bool) (seen : FlagChanges) :=
      (inductionHypothesis turnedOn dangling seen).within (List.suffix_cons c rest)
    have closed (opens : Bool) : Leaves (c :: rest)
        (if dangling then none else some ((seen.reverse, opens), rest)) := by
      cases dangling with
      | true => exact .of_none
      | false => exact .of_some _ (List.suffix_cons c rest)
    by_cases parenthesis : c = ')'
    · subst parenthesis
      exact closed false
    by_cases colon : c = ':'
    · subst colon
      exact closed true
    by_cases hyphen : c = '-'
    · subst hyphen
      cases turnedOn with
      | true => exact further false true seen
      | false => exact .of_none
    · simp only [readFlags]
      cases Flag.ofChar? c with
      | none => exact .of_none
      | some flag =>
        dsimp only [Option.bind_eq_bind, Option.bind_some]
        split
        · exact .of_none
        · exact further turnedOn false ((flag, turnedOn) :: seen)

/-- A named group leaves an end of the text. -/
theorem readNamed_leaves (text : List Char) : Leaves text (readNamed text) :=
  (readName_leaves true text).map Token.enterNamed

/-- Flags of a group or of what follows leave an end of the text. -/
theorem readFlagged_leaves (text : List Char) : Leaves text (readFlagged text) := by
  have token (found : FlagChanges × Bool) (rest : List Char) : Leaves rest
      (if found.2 then some (Token.enter found.1, rest)
      else if found.1.isEmpty then none
      else some (.set found.1, rest)) := by
    split_ifs
    · exact .pure _ rest
    · exact .of_none
    · exact .pure _ rest
  exact (readFlags_leaves true false [] text).bind token

/-- What follows a question mark leaves an end of the text. -/
theorem readMarked_leaves (text : List Char) : Leaves text (readMarked text) := by
  unfold readMarked
  split
  any_goals exact .of_none
  · exact (readNamed_leaves _).within ((List.suffix_cons _ _).trans (List.suffix_cons _ _))
  · exact (readNamed_leaves _).within (List.suffix_cons _ _)
  · exact readFlagged_leaves _

/-- The opening of a group leaves an end of the text. -/
theorem readOpening_leaves (spaced : Bool) (text : List Char) :
    Leaves text (readOpening spaced text) := by
  unfold readOpening
  split
  · rename_i next
    exact (readMarked_leaves _).within (suffix_of_skip next)
  · exact .of_some _ (skip_suffix spaced text)

/-! ### Tokens and steps -/

/-- A token takes at least one character. -/
theorem token?_leaves (spaced : Bool) (c : Char) (rest : List Char) :
    Leaves rest (token? spaced (c :: rest)) := by
  have count (bounds : Nat × Option Nat) (left : List Char) :
      Leaves left (some (Token.repeated bounds.1 bounds.2, skipLazy (skip spaced left))) :=
    .of_some _ ((skipLazy_suffix _).trans (skip_suffix spaced left))
  by_cases special : c ∈ specialSigns
  · simp only [specialSigns, List.mem_cons, List.not_mem_nil, or_false] at special
    obtain rfl | rfl | rfl | rfl | rfl | rfl | rfl | rfl := special
    · exact readOpening_leaves spaced rest
    · exact .pure _ rest
    · exact .pure _ rest
    · exact (readClass_leaves spaced rest).map fun set => Token.member (.chars set)
    · exact .of_some _ (skipLazy_suffix rest)
    · exact .of_some _ (skipLazy_suffix rest)
    · exact .of_some _ (skipLazy_suffix rest)
    · exact (readCount_leaves spaced rest).bind count
  · rw [token?_item spaced special]
    exact (readItem_leaves spaced c rest).map fun item => Token.member item.tree

namespace Progress

/-- A step takes at least the first character that is left. -/
theorem step?_leaves (progress : Progress) (c : Char) (rest : List Char) :
    Leaves rest (progress.step? (c :: rest)) := by
  rw [step?_eq]
  intro next left steps
  obtain ⟨found, isToken, follows⟩ := Option.bind_eq_some_iff.mp steps
  obtain ⟨_, -, same⟩ := Option.map_eq_some_iff.mp follows
  cases same
  exact token?_leaves progress.spaced c rest _ _ isToken

end Progress

end SearchFilter.Regex
