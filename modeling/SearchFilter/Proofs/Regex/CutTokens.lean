import SearchFilter.Proofs.Regex.CutItems
import SearchFilter.Proofs.Regex.Runs

/-!
# Tokens before the closing signs

Where a pattern breaks off within a token, the closing signs complete the token at most by the use
of one of them, so that what is left closes no group: a class stays open, and flags take the
parenthesis for their end. Only a boundary may leave both, behind a brace that starts no count.
-/

namespace SearchFilter.Regex

variable {α : Type}

/-! ### Bracketed classes -/

/-- A level ends at a closing bracket and nowhere else. -/
theorem bracketToken?_leave {spaced : Bool} {text rest : List Char}
    (isLeave : bracketToken? spaced text = some (.leave, rest)) : text = ']' :: rest := by
  cases text with
  | nil => cases isLeave
  | cons c tail =>
    by_cases opens : c = '['
    · subst opens
      cases posix : readPosix tail <;> simp [bracketToken?, posix] at isLeave
    by_cases closes : c = ']'
    · subst closes
      cases isLeave
      rfl
    · rw [bracketToken?_inside spaced opens closes] at isLeave
      cases operation : operation? (c :: tail) <;> simp [operation] at isLeave

/-- Where no class ends in what is left, only the end of a level can end it. -/
theorem BracketToken.follow_eq_none
    {further : BracketLevel → List BracketLevel → List Char → Option (CharClass × List Char)}
    {rest : List Char} (endless : ∀ level outer, further level outer rest = none)
    {token : BracketToken} (stays : token ≠ .leave) (level : BracketLevel)
    (outer : List BracketLevel) : token.follow further level outer rest = none := by
  cases token with
  | leave => exact absurd rfl stays
  | member | enter | operate => exact endless _ _

/-- Without a closing bracket no class ends. -/
theorem readBracketed_unclosed (spaced : Bool) (fuel : Nat) (level : BracketLevel)
    (outer : List BracketLevel) {text : List Char} (unclosed : ']' ∉ text) :
    readBracketed spaced fuel level outer text = none := by
  induction fuel generalizing level outer text with
  | zero => rfl
  | succ fuel inductionHypothesis =>
    rw [readBracketed_eq]
    cases next : skip spaced text with
    | nil => rfl
    | cons c rest =>
      cases isToken : bracketToken? spaced (c :: rest) with
      | none => rfl
      | some found =>
        have isEnd := (bracketToken?_leaves spaced c rest _ _ isToken).trans (suffix_of_skip next)
        refine BracketToken.follow_eq_none (fun level outer => ?_) ?_ level outer
        · exact inductionHypothesis level outer fun inside => unclosed (isEnd.mem inside)
        · intro isLeave
          obtain ⟨token, after⟩ := found
          cases isLeave
          cases bracketToken?_leave isToken
          exact unclosed ((skip_suffix spaced text).mem (next ▸ List.mem_cons_self))

/-- Two items make the same range or none, whatever follows them. -/
theorem Refuses.attach (found : Option α) :
    Refuses fun text => found.map fun value => (value, text) := by
  intro left text _ refused
  rw [Option.map_eq_none_iff.mp refused]
  rfl

/-- A boundary is no end of a range. -/
theorem rangeOf?_anchor (first : Item) (kind : Anchor) : rangeOf? first (.anchor kind) = none := by
  unfold rangeOf?
  cases first.literal? <;> rfl

/-- After a member of a class there may be nothing but the closing signs. -/
theorem closeRange_cut (spaced : Bool) (first : Item) {left text : List Char}
    (closed : Closed left text) :
    Cut 2 (closeRange spaced (first, left)) (closeRange spaced (first, text)) := by
  have skipped := closed.skip spaced
  cases next : skip spaced left with
  | nil =>
    rw [next] at skipped
    obtain nothing | both := skipped.of_nil
    · rw [closeRange_nil first nothing]
      exact .of_refused fun _ => rfl
    · rw [closeRange_member first (by decide) both]
      rintro - value after isFound
      exact (Leaves.attach _ _ _ _ isFound).length_le
  | cons c rest =>
    rw [next] at skipped
    have going := skipped.of_cons
    -- Only a hyphen goes on to a second end of a range, which may be what is cut off.
    by_cases hyphen : c = '-'
    · subst hyphen
      rw [closeRange_hyphen first next, closeRange_hyphen first going,
        isPlainHyphen_append spaced rest closing_mem]
      split_ifs
      · exact (Refuses.attach _).cut (.append ('-' :: rest))
      · have inside := (Closed.append rest).skip spaced
        intro refused value after isFound
        obtain ⟨⟨last, between⟩, isLast, isRange⟩ := Option.bind_eq_some_iff.mp isFound
        cases member : readMember spaced (skip spaced rest) with
        | none =>
          have isEnd := Leaves.attach _ _ _ _ isRange
          cases readMember_spent spaced inside member last between isLast with
          | short atMost => exact Nat.le_trans isEnd.length_le (Nat.le_succ_of_le atMost)
          | brace =>
            rw [rangeOf?_anchor] at isRange
            cases isRange
        | some found =>
          obtain ⟨other, closedAfter, finds⟩ := (readMember_steady spaced).closed inside member
          cases finds.symm.trans isLast
          rw [member] at refused
          have none := Refuses.attach (rangeOf? first found.1) _ _ closedAfter refused
          exact absurd (none.symm.trans isRange) nofun
    · rw [closeRange_member first hyphen next, closeRange_member first hyphen going]
      exact (Refuses.attach _).cut (.append (c :: rest))

/-- A range that is cut off leaves at most the two closing signs, or is refused all the same. -/
theorem readRange_cut (spaced : Bool) {left text : List Char} (closed : Closed left text) :
    Cut 2 (readRange spaced left) (readRange spaced text) := by
  rw [readRange_eq, readRange_eq]
  intro refused value after isFound
  obtain ⟨⟨first, between⟩, isFirst, isRange⟩ := Option.bind_eq_some_iff.mp isFound
  cases member : readMember spaced left with
  | none =>
    cases readMember_spent spaced closed member first between isFirst with
    | short atMost =>
      have isEnd := closeRange_leaves spaced first between _ _ isRange
      exact Nat.le_trans isEnd.length_le (Nat.le_succ_of_le atMost)
    | brace nothing =>
      rename_i kind rest
      have starts : skip spaced ('\x7b' :: rest) = '\x7b' :: rest := by
        cases spaced <;> rfl
      rw [closeRange_member _ (by decide) starts] at isRange
      cases isRange
  | some found =>
    obtain ⟨other, closedAfter, finds⟩ := (readMember_steady spaced).closed closed member
    cases finds.symm.trans isFirst
    rw [member] at refused
    exact closeRange_cut spaced found.1 closedAfter refused value after isRange

/-- What ends a text before the closing signs and is no longer than they are is an end of them. -/
theorem suffix_closing {left after : List Char} (isEnd : after <:+ left ++ closing)
    (atMost : after.length ≤ 2) : after <:+ closing :=
  List.suffix_of_suffix_length_le isEnd (List.suffix_append left closing) atMost

/-- What is taken for a token only before the closing signs uses one of them up and ends no level. -/
theorem bracketToken?_spent (spaced : Bool) {left text : List Char} (closed : Closed left text)
    (refused : bracketToken? spaced left = none) {token : BracketToken} {after : List Char}
    (isToken : bracketToken? spaced text = some (token, after)) :
    token ≠ .leave ∧ after <:+ closing := by
  cases left with
  | nil =>
    obtain rfl | rfl := closed.of_nil
    · cases isToken
    · have isEnd := bracketToken?_leaves spaced ')' ['$'] _ _ isToken
      refine ⟨fun isLeave => ?_, isEnd.trans (List.suffix_cons ')' ['$'])⟩
      subst isLeave
      cases bracketToken?_leave isToken
  | cons c rest =>
    obtain rfl := closed.of_cons
    by_cases opens : c = '['
    · subst opens
      cases posix : readPosix rest <;> simp [bracketToken?, posix] at refused
    by_cases closes : c = ']'
    · subst closes
      cases refused
    rw [bracketToken?_inside spaced opens closes] at refused isToken
    rw [operation?_append c rest closing_mem] at isToken
    cases operation : operation? (c :: rest) with
    | some found => simp [operation] at refused
    | none =>
      simp only [operation, Option.map_none, Option.map_eq_none_iff] at refused isToken
      obtain ⟨⟨item, left⟩, longer, same⟩ := Option.map_eq_some_iff.mp isToken
      cases same
      have atMost := readRange_cut spaced (.append (c :: rest)) refused _ _ longer
      have isEnd := readRange_leaves spaced c (rest ++ closing) _ _ longer
      refine ⟨fun isLeave => ?_, suffix_closing isEnd atMost⟩
      cases isLeave

/-- After a token a class is refused before the closing signs if it is without them. -/
theorem BracketToken.follow_refuses
    {further longer : BracketLevel → List BracketLevel → List Char → Option (CharClass × List Char)}
    {rest text : List Char}
    (refuses : ∀ level outer, further level outer rest = none → longer level outer text = none)
    {token : BracketToken} {level : BracketLevel} {outer : List BracketLevel}
    (refused : token.follow further level outer rest = none) :
    token.follow longer level outer text = none := by
  cases token with
  | member | enter | operate => exact refuses _ _ refused
  | leave =>
    cases outer with
    | nil => cases refused
    | cons parent outer => exact refuses _ _ refused

/-- A class that is cut off is not closed by the signs, which have no bracket. The induction is on
the steps that are left. -/
theorem readBracketed_refuses (spaced : Bool) (fuel more : Nat) (level : BracketLevel)
    (outer : List BracketLevel) {left text : List Char} (closed : Closed left text)
    (enough : left.length < fuel) (refused : readBracketed spaced fuel level outer left = none) :
    readBracketed spaced more level outer text = none := by
  induction more generalizing fuel level outer left text with
  | zero => rfl
  | succ more inductionHypothesis =>
    obtain ⟨fuel, rfl⟩ := Nat.exists_eq_succ_of_ne_zero (Nat.ne_of_gt (Nat.zero_lt_of_lt enough))
    have skipped := closed.skip spaced
    rw [readBracketed_eq] at refused ⊢
    cases isToken : bracketToken? spaced (skip spaced text) with
    | none => rfl
    | some found =>
      cases own : bracketToken? spaced (skip spaced left) with
      | none =>
        obtain ⟨stays, isEnd⟩ := bracketToken?_spent spaced skipped own isToken
        refine BracketToken.follow_eq_none (fun level outer => ?_) stays level outer
        exact readBracketed_unclosed spaced more level outer fun inside =>
          absurd (isEnd.mem inside) (by decide)
      | some given =>
        obtain ⟨after, closedAfter, finds⟩ := (bracketToken?_steady spaced).closed skipped own
        cases finds.symm.trans isToken
        rw [own] at refused
        refine BracketToken.follow_refuses (fun level outer refused => ?_) refused
        refine inductionHypothesis fuel level outer closedAfter ?_ refused
        have shorter := bracketToken?_length_lt own
        have skippedLength := skip_length_le spaced left
        omega

/-- A class that is cut off stays open. -/
theorem readClass_refuses (spaced : Bool) : Refuses (readClass spaced) := by
  intro left text closed refused
  obtain ⟨going, continues, rfl⟩ := closed.continues
  obtain ⟨after, closedAfter, finds⟩ := (openBracket_extends spaced continues).closed rfl
  have shorter := (openBracket_suffix spaced left).length_le
  simp only [readClass, Option.some.inj finds] at refused ⊢
  exact readBracketed_refuses spaced (left.length + 1) _ _ _ closedAfter (Nat.lt_succ_of_le shorter)
    refused

/-! ### Groups -/

/-- Without a closing angle bracket no name ends. -/
theorem readName_unclosed (isFirst : Bool) {text : List Char} (unclosed : '>' ∉ text) :
    readName isFirst text = none := by
  induction text generalizing isFirst with
  | nil => rfl
  | cons c rest inductionHypothesis =>
    obtain ⟨different, later⟩ := not_or.mp (mt List.mem_cons.mpr unclosed)
    have none := inductionHypothesis false later
    simp [readName, Ne.symm different, none]

/-- A name of a group that is cut off is not completed. -/
theorem readName_refuses (isFirst : Bool) {left : List Char}
    (refused : readName isFirst left = none) : readName isFirst (left ++ closing) = none := by
  induction left generalizing isFirst with
  | nil => exact readName_unclosed isFirst (by decide)
  | cons c rest inductionHypothesis =>
    by_cases close : c = '>'
    · subst close
      cases isFirst with
      | true => rfl
      | false => cases refused
    · simp only [List.cons_append, readName] at refused ⊢
      split_ifs at refused ⊢
      · cases found : readName false rest with
        | none =>
          rw [inductionHypothesis false found]
          rfl
        | some result => simp [found] at refused
      · rfl

/-- A named group that is cut off is not opened. -/
theorem readNamed_refuses {left : List Char} (refused : readNamed left = none) :
    readNamed (left ++ closing) = none := by
  unfold readNamed at refused ⊢
  rw [readName_refuses true (Option.map_eq_none_iff.mp refused)]
  rfl

/-- Flags that do not end take the closing parenthesis for their end. -/
theorem readFlags_cut (turnedOn dangling : Bool) (seen : FlagChanges) (left : List Char) :
    Cut 1 (readFlags turnedOn dangling seen left)
      (readFlags turnedOn dangling seen (left ++ closing)) := by
  induction left generalizing turnedOn dangling seen with
  | nil =>
    rintro - value after isFound
    cases dangling with
    | true => cases isFound
    | false =>
      cases isFound
      exact Nat.le_refl 1
  | cons c rest inductionHypothesis =>
    have ended (opens : Bool) : Cut 1
        (if dangling then none else some ((seen.reverse, opens), rest))
        (if dangling then none else some ((seen.reverse, opens), rest ++ closing)) := by
      cases dangling with
      | true => exact .of_refused fun _ => rfl
      | false => exact .of_found _
    by_cases parenthesis : c = ')'
    · subst parenthesis
      exact ended false
    by_cases colon : c = ':'
    · subst colon
      exact ended true
    by_cases hyphen : c = '-'
    · subst hyphen
      cases turnedOn with
      | true => exact inductionHypothesis false true seen
      | false => exact .of_refused fun _ => rfl
    · simp only [List.cons_append, readFlags]
      cases Flag.ofChar? c with
      | none => exact .of_refused fun _ => rfl
      | some flag =>
        dsimp only [Option.bind_eq_bind, Option.bind_some]
        split
        · exact .of_refused fun _ => rfl
        · exact inductionHypothesis turnedOn false ((flag, turnedOn) :: seen)

/-- Whether a token that is found only before the closing signs has taken one of them, or is a
boundary with nothing but a brace before them. -/
inductive SpentToken (spaced : Bool) : Token → List Char → Prop
  | short {token : Token} {after : List Char} (atMost : after.length ≤ 1) :
    SpentToken spaced token after
  | brace (tree : Tree) {rest : List Char} (nothing : skip spaced rest = closing) :
    SpentToken spaced (.member tree) ('\x7b' :: rest)

namespace SpentToken

variable {spaced : Bool} {token : Token} {after : List Char}

/-- Flags that are cut off take the parenthesis for their end. -/
theorem of_flagged (left : List Char) (refused : readFlagged left = none)
    (isFound : readFlagged (left ++ closing) = some (token, after)) :
    SpentToken spaced token after := by
  obtain ⟨⟨found, between⟩, isFlags, isToken⟩ := Option.bind_eq_some_iff.mp isFound
  dsimp only at isToken
  have spent : between.length ≤ 1 := by
    cases flags : readFlags true false [] left with
    | none => exact readFlags_cut true false [] left flags _ _ isFlags
    | some result =>
      obtain ⟨other, -, finds⟩ := (readFlags_append true false [] left).closed flags
      cases finds.symm.trans isFlags
      simp only [readFlagged, flags, Option.bind_some] at refused
      split_ifs at refused isToken
  split_ifs at isToken
  · cases isToken
    exact .short spent
  · cases isToken
    exact .short spent

/-- A named group that is cut off is not opened by the signs. -/
theorem of_named (left : List Char) (refused : readNamed left = none)
    (isFound : readNamed (left ++ closing) = some (token, after)) :
    SpentToken spaced token after :=
  absurd ((readNamed_refuses refused).symm.trans isFound) nofun

/-- What follows a question mark is flags or a name, and uses up the parenthesis in either case. -/
theorem of_marked (left : List Char) (refused : readMarked left = none)
    (isFound : readMarked (left ++ closing) = some (token, after)) :
    SpentToken spaced token after := by
  cases left with
  | nil => cases isFound
  | cons c rest =>
    -- The signs of look-around are refused, the openings of names are read as names, and everything
    -- else as flags.
    by_cases equal : c = '='
    · subst equal
      cases isFound
    by_cases exclamation : c = '!'
    · subst exclamation
      cases isFound
    by_cases angle : c = '<'
    · subst angle
      cases rest with
      | nil => exact of_named [] rfl isFound
      | cons d rest =>
        by_cases behind : d = '=' ∨ d = '!'
        · obtain rfl | rfl := behind <;> cases isFound
        · have named (text : List Char) : readMarked ('<' :: d :: text) = readNamed (d :: text) := by
            unfold readMarked
            split <;> simp_all
          simp only [List.cons_append, named] at refused isFound
          exact of_named (d :: rest) refused isFound
    by_cases name : c = 'P'
    · subst name
      cases rest with
      | nil => cases isFound
      | cons d rest =>
        by_cases opens : d = '<'
        · subst opens
          exact of_named rest refused isFound
        · have flagged (text : List Char) : readMarked ('P' :: d :: text) = none := by
            unfold readMarked
            split <;> simp_all [readFlagged, readFlags, Flag.ofChar?]
          rw [List.cons_append, List.cons_append, flagged] at isFound
          cases isFound
    · rw [List.cons_append, readMarked_flagged equal exclamation angle name] at isFound
      rw [readMarked_flagged equal exclamation angle name] at refused
      exact of_flagged (c :: rest) refused isFound

/-- The opening of a group that is cut off uses up the parenthesis. -/
theorem of_opening (left : List Char) (refused : readOpening spaced left = none)
    (isFound : readOpening spaced (left ++ closing) = some (token, after)) :
    SpentToken spaced token after := by
  have skipped := (Closed.append left).skip spaced
  simp only [readOpening] at refused isFound
  cases next : skip spaced left with
  | nil =>
    rw [next] at refused
    cases refused
  | cons c rest =>
    rw [next] at refused skipped
    rw [skipped.of_cons] at isFound
    by_cases mark : c = '?'
    · subst mark
      exact of_marked rest refused isFound
    · simp [mark] at refused

/-- Where a text breaks off within a token, the closing signs do not complete it, or it takes one of
them, or it leaves them behind a brace. -/
theorem of_token (c : Char) (rest : List Char) (refused : token? spaced (c :: rest) = none)
    (isFound : token? spaced (c :: (rest ++ closing)) = some (token, after)) :
    SpentToken spaced token after := by
  by_cases special : c ∈ specialSigns
  · simp only [specialSigns, List.mem_cons, List.not_mem_nil, or_false] at special
    obtain rfl | rfl | rfl | rfl | rfl | rfl | rfl | rfl := special
    · exact of_opening rest refused isFound
    · cases refused
    · cases refused
    · have none := readClass_refuses spaced _ _ (.append rest) (Option.map_eq_none_iff.mp refused)
      simp [token?, none] at isFound
    · cases refused
    · cases refused
    · cases refused
    · cases count : readCount spaced rest with
      | none =>
        have none := readCount_refuses spaced _ _ (.append rest) count
        simp [token?, none] at isFound
      | some found => simp [token?, count] at refused
  · rw [token?_item spaced special] at refused isFound
    obtain ⟨⟨item, left⟩, isItem, same⟩ := Option.map_eq_some_iff.mp isFound
    cases same
    cases readItem_spent spaced c rest (Option.map_eq_none_iff.mp refused) item left isItem with
    | short atMost => exact .short atMost
    | brace nothing => exact .brace _ nothing

end SpentToken

end SearchFilter.Regex
