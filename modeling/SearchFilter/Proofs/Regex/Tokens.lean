import SearchFilter.Proofs.Regex.Brackets
import SearchFilter.Regex.Reader

/-!
# Steps of the reader as tokens

A step of the reader of regular expressions reads a token, for which it has to know only whether
blanks are ignored, and then takes the token into what has been read. The tokens of a text do not
depend on the ending that follows.
-/

namespace SearchFilter.Regex

/-- What one step reads. -/
inductive Token
  | member (tree : Tree)
  | enter (changes : FlagChanges)
  | enterNamed (name : List Char)
  | set (changes : FlagChanges)
  | leave
  | branch
  | repeated (least : Nat) (most? : Option Nat)

/-- Takes a token into what has been read. -/
def Progress.take? (progress : Progress) : Token → Option Progress
  | .member tree => some (progress.add tree)
  | .enter changes => some (progress.enter changes)
  | .enterNamed name =>
    if progress.names.contains name then none
    else some { progress.enter [] with names := name :: progress.names }
  | .set changes => some (progress.setFlags changes)
  | .leave => progress.leave?
  | .branch => some progress.branch
  | .repeated least most? => progress.repeatLast? least most?

/-- The token for a group that has a name. -/
def readNamed (text : List Char) : Option (Token × List Char) :=
  (readName true text).map fun found => (.enterNamed found.1, found.2)

/-- The token for flags, which open a group or not. -/
def readFlagged (text : List Char) : Option (Token × List Char) :=
  (readFlags true false [] text).bind fun found =>
    if found.1.2 then some (.enter found.1.1, found.2)
    else if found.1.1.isEmpty then none
    else some (.set found.1.1, found.2)

/-- The token after an opening parenthesis and a question mark. -/
def readMarked : List Char → Option (Token × List Char)
  | '=' :: _ => none
  | '!' :: _ => none
  | '<' :: '=' :: _ => none
  | '<' :: '!' :: _ => none
  | 'P' :: '<' :: rest => readNamed rest
  | '<' :: rest => readNamed rest
  | rest => readFlagged rest

/-- The token after an opening parenthesis. -/
def readOpening (spaced : Bool) (text : List Char) : Option (Token × List Char) :=
  match skip spaced text with
  | '?' :: rest => readMarked rest
  | rest => some (.enter [], rest)

/-- The token at the start of a text that does not start with something ignored. -/
def token? (spaced : Bool) : List Char → Option (Token × List Char)
  | [] => none
  | '(' :: rest => readOpening spaced rest
  | ')' :: rest => some (.leave, rest)
  | '|' :: rest => some (.branch, rest)
  | '[' :: rest =>
    (readClass spaced rest).map fun found => (.member (.chars found.1), found.2)
  | '?' :: rest => some (.repeated 0 (some 1), skipLazy rest)
  | '*' :: rest => some (.repeated 0 none, skipLazy rest)
  | '+' :: rest => some (.repeated 1 none, skipLazy rest)
  | '\x7b' :: rest =>
    (readCount spaced rest).bind fun found =>
      some (.repeated found.1.1 found.1.2, skipLazy (skip spaced found.2))
  | text => (readItem spaced text).map fun found => (.member found.1.tree, found.2)

/-- The signs that stand for something other than an item. -/
def specialSigns : List Char := ['(', ')', '|', '[', '?', '*', '+', '\x7b']

/-- A character without a meaning of its own starts an item. -/
theorem token?_item (spaced : Bool) {c : Char} (plain : c ∉ specialSigns) (rest : List Char) :
    token? spaced (c :: rest) =
      (readItem spaced (c :: rest)).map fun found => (.member found.1.tree, found.2) := by
  unfold token?
  split <;> simp_all [specialSigns]

/-- A step takes such an item as one more member. -/
theorem Progress.step?_item (progress : Progress) {c : Char} (plain : c ∉ specialSigns)
    (rest : List Char) :
    progress.step? (c :: rest) =
      (readItem progress.spaced (c :: rest)).map fun found =>
        (progress.add found.1.tree, found.2) := by
  unfold Progress.step?
  split <;> simp_all [specialSigns]

namespace Progress

/-- The progress once a token that was read is taken, and what follows the token. -/
def follow? (progress : Progress) (found : Token × List Char) : Option (Progress × List Char) :=
  (progress.take? found.1).map fun next => (next, found.2)

/-- Entering a named group is reading its token and taking it. -/
theorem enterNamed?_eq (progress : Progress) (text : List Char) :
    progress.enterNamed? text = (readNamed text).bind progress.follow? := by
  unfold enterNamed? readNamed
  cases readName true text with
  | none => rfl
  | some found =>
    obtain ⟨name, rest⟩ := found
    by_cases known : name ∈ progress.names <;> simp [follow?, take?, known]

/-- Setting flags, for a group or for what follows, is reading their token and taking it. -/
theorem flagged_eq (progress : Progress) (text : List Char) :
    (do
      let ((changes, opens), rest) ← readFlags true false [] text
      if opens then return (progress.enter changes, rest)
      else if changes.isEmpty then none
      else return (progress.setFlags changes, rest)) =
      (readFlagged text).bind progress.follow? := by
  unfold readFlagged
  cases readFlags true false [] text with
  | none => rfl
  | some found =>
    obtain ⟨⟨changes, opens⟩, rest⟩ := found
    cases opens with
    | true => rfl
    | false => cases changes <;> rfl

/-- What an opening parenthesis starts is a token that is read and taken. -/
theorem enterOrSet?_eq (progress : Progress) (text : List Char) :
    progress.enterOrSet? text = (readOpening progress.spaced text).bind progress.follow? := by
  unfold enterOrSet? readOpening
  split
  case h_7 rest _ _ _ _ _ same =>
    rw [flagged_eq, same]
    simp_all [readMarked]
  all_goals simp_all [readMarked, enterNamed?_eq, follow?, take?]

/-- A step reads a token and takes it. -/
theorem step?_eq (progress : Progress) (text : List Char) :
    progress.step? text = (token? progress.spaced text).bind progress.follow? := by
  cases text with
  | nil => rfl
  | cons c rest =>
    by_cases special : c ∈ specialSigns
    · simp only [specialSigns, List.mem_cons, List.not_mem_nil, or_false] at special
      obtain rfl | rfl | rfl | rfl | rfl | rfl | rfl | rfl := special
      · exact progress.enterOrSet?_eq rest
      · rfl
      · rfl
      · change (readClass progress.spaced rest).map _ =
          ((readClass progress.spaced rest).map _).bind progress.follow?
        cases readClass progress.spaced rest <;> rfl
      · rfl
      · rfl
      · rfl
      · change (readCount progress.spaced rest).bind _ =
          ((readCount progress.spaced rest).bind _).bind progress.follow?
        cases readCount progress.spaced rest with
        | none => rfl
        | some found =>
          cases repeats : progress.repeatLast? found.1.1 found.1.2 <;>
            simp [follow?, take?, repeats]
    · rw [token?_item progress.spaced special, step?_item progress special]
      cases readItem progress.spaced (c :: rest) <;> rfl

end Progress

/-! ### Tokens do not depend on what follows -/

/-- The name of a group ends at its bracket. -/
theorem readName_append (isFirst : Bool) (left : List Char) :
    Extends (readName isFirst left) fun ending => readName isFirst (left ++ ending) := by
  induction left generalizing isFirst with
  | nil => exact .of_none
  | cons c rest inductionHypothesis =>
    by_cases close : c = '>'
    · subst close
      cases isFirst with
      | true => exact .of_none
      | false => exact .of_some [] (.append rest)
    · simp only [List.cons_append, readName]
      split
      · exact (inductionHypothesis false).bind fun name => .pure (c :: name)
      · exact .of_none

/-- Named groups do not depend on what follows. -/
theorem readNamed_steady : Steady readNamed :=
  .of_append (fun left => (readName_append true left).map Token.enterNamed) fun _ _ isFound => by
    cases isFound

/-- Flags end at a colon or at a parenthesis of their own. -/
theorem readFlags_append (turnedOn dangling : Bool) (seen : FlagChanges) (left : List Char) :
    Extends (readFlags turnedOn dangling seen left)
      fun ending => readFlags turnedOn dangling seen (left ++ ending) := by
  induction left generalizing turnedOn dangling seen with
  | nil => exact .of_none
  | cons c rest inductionHypothesis =>
    have closed (opens : Bool) :
        Extends (if dangling then none else some ((seen.reverse, opens), rest)) fun ending =>
          if dangling then none else some ((seen.reverse, opens), rest ++ ending) := by
      cases dangling with
      | true => exact .of_none
      | false => exact .of_some _ (.append rest)
    by_cases parenthesis : c = ')'
    · subst parenthesis
      exact closed false
    by_cases colon : c = ':'
    · subst colon
      exact closed true
    by_cases hyphen : c = '-'
    · subst hyphen
      cases turnedOn with
      | true => exact inductionHypothesis false true seen
      | false => exact .of_none
    · simp only [List.cons_append, readFlags]
      cases Flag.ofChar? c with
      | none => exact .of_none
      | some flag =>
        dsimp only [Option.bind_eq_bind, Option.bind_some]
        split
        · exact .of_none
        · exact inductionHypothesis turnedOn false ((flag, turnedOn) :: seen)

/-- Groups with flags do not depend on what follows. -/
theorem readFlagged_steady : Steady readFlagged := by
  refine .of_append (fun left => ?_) fun _ _ isFound => by cases isFound
  have token (found : FlagChanges × Bool) : Steady fun text =>
      if found.2 then some (Token.enter found.1, text)
      else if found.1.isEmpty then none
      else some (.set found.1, text) := by
    intro rest text continues
    dsimp only
    split
    · exact .of_some _ continues
    · split
      · exact .of_none
      · exact .of_some _ continues
  exact (readFlags_append true false [] left).bind token

/-- Four signs may make a group other than one that has flags. -/
theorem readMarked_flagged {c : Char} (noEqual : c ≠ '=') (noExclamation : c ≠ '!')
    (noAngle : c ≠ '<') (noName : c ≠ 'P') (rest : List Char) :
    readMarked (c :: rest) = readFlagged (c :: rest) := by
  unfold readMarked
  split <;> simp_all

/-- What follows a question mark does not depend on the ending. -/
theorem readMarked_steady : Steady readMarked := by
  refine .of_cons rfl fun c rest => ?_
  by_cases equal : c = '='
  · subst equal
    exact .of_none
  by_cases exclamation : c = '!'
  · subst exclamation
    exact .of_none
  by_cases angle : c = '<'
  · subst angle
    cases rest with
    | nil => exact .of_none
    | cons d rest =>
      by_cases behind : d = '=' ∨ d = '!'
      · obtain rfl | rfl := behind <;> exact .of_none
      · have named (text : List Char) : readMarked ('<' :: d :: text) = readNamed (d :: text) := by
          unfold readMarked
          split <;> simp_all
        simp only [List.cons_append, named]
        exact readNamed_steady _ _ (.append (d :: rest))
  by_cases name : c = 'P'
  · subst name
    cases rest with
    | nil => exact .of_none
    | cons d rest =>
      by_cases opens : d = '<'
      · subst opens
        exact readNamed_steady _ _ (.append rest)
      · have flagged (text : List Char) : readMarked ('P' :: d :: text) = none := by
          unfold readMarked
          split <;> simp_all [readFlagged, readFlags, Flag.ofChar?]
        simp only [List.cons_append, flagged]
        exact .of_none
  · simp only [readMarked_flagged equal exclamation angle name]
    exact readFlagged_steady _ _ (.append (c :: rest))

/-- No sign of an ending is a question mark. -/
theorem not_mark_of_sign {c : Char} (isSign : isEndingSign c = true) : c ≠ '?' := by
  obtain rfl | rfl | rfl := eq_of_isEndingSign isSign <;> decide

/-- The opening of a group does not depend on what follows. -/
theorem readOpening_steady (spaced : Bool) : Steady (readOpening spaced) := by
  intro left text continues
  have skipped := skip_continues spaced continues
  simp only [readOpening]
  generalize skip spaced left = inner at skipped ⊢
  cases inner with
  | nil =>
    refine Extends.congr (.of_some (Token.enter []) skipped) fun ending isEnding => ?_
    obtain nothing | ⟨sign, rest, starts, isSign⟩ := skipped.starts ending isEnding
    · simp [nothing]
    · simp [starts, not_mark_of_sign isSign]
  | cons c inner =>
    refine Extends.congr ?_ fun ending isEnding => by rw [skipped.of_cons ending isEnding]
    by_cases mark : c = '?'
    · subst mark
      exact readMarked_steady _ _ (.append inner)
    · simpa [mark] using Extends.of_some (Token.enter []) (.append (c :: inner))

/-- The mark of a reluctant repetition is skipped up to the ending, which does not start with
one. -/
theorem skipLazy_continues {left : List Char} {text : List Char → List Char}
    (continues : Continues left text) :
    Continues (skipLazy left) fun ending => skipLazy (text ending) := by
  refine continues.step skipLazy (fun left => ?_) rfl
  cases left with
  | nil =>
    refine .inl fun ending isEnding => ?_
    obtain ⟨sign, rest, rfl, isSign⟩ := ending_eq_cons isEnding
    simp [skipLazy, not_mark_of_sign isSign]
  | cons c rest =>
    by_cases mark : c = '?'
    · subst mark
      exact .append rest
    · simpa [skipLazy, mark] using Continues.append (c :: rest)

/-- Tokens do not depend on what follows. The cases are those of the first character. -/
theorem token?_steady (spaced : Bool) : Steady (token? spaced) := by
  refine .of_cons rfl fun c rest => ?_
  have after := Continues.append rest
  have repetition (least : Nat) (most? : Option Nat) :=
    Extends.of_some (Token.repeated least most?) (skipLazy_continues after)
  have count (bounds : Nat × Option Nat) : Steady fun text =>
      some (Token.repeated bounds.1 bounds.2, skipLazy (skip spaced text)) :=
    fun _ _ continues => .of_some _ (skipLazy_continues (skip_continues spaced continues))
  by_cases special : c ∈ specialSigns
  · simp only [specialSigns, List.mem_cons, List.not_mem_nil, or_false] at special
    obtain rfl | rfl | rfl | rfl | rfl | rfl | rfl | rfl := special
    · exact readOpening_steady spaced _ _ after
    · exact .of_some Token.leave after
    · exact .of_some Token.branch after
    · exact (readClass_steady spaced _ _ after).map fun set => Token.member (.chars set)
    · exact repetition 0 (some 1)
    · exact repetition 0 none
    · exact repetition 1 none
    · exact (readCount_steady spaced _ _ after).bind count
  · simp only [token?_item spaced special]
    exact (readItem_steady spaced _ _ (.append (c :: rest))).map fun item => Token.member item.tree

end SearchFilter.Regex
