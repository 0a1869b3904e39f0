import SearchFilter.Proofs.Regex.Items
import Mathlib.Data.List.TakeWhile

/-!
# Bracketed classes do not depend on what follows

A bracketed class is read up to its last bracket. The readers look ahead in three places: for the
name of a class, for the second sign of an operation and for what stands after a hyphen. No ending
brings what they look for there.
-/

namespace SearchFilter.Regex

/-- No ending starts with a sign of brackets. -/
theorem not_bracketSign_of_sign {c : Char} (isSign : isEndingSign c = true) :
    c ≠ '^' ∧ c ≠ ']' ∧ c ≠ ':' ∧ c ≠ '-' ∧ c ≠ '&' ∧ c ≠ '~' ∧ c ≠ '#' := by
  obtain rfl | rfl | rfl := eq_of_isEndingSign isSign <;> decide

/-! ### The start of a class -/

/-- Whether a class is negated, and what follows. -/
def openNegation (spaced : Bool) (text : List Char) : Bool × List Char :=
  match skip spaced text with
  | '^' :: rest => (true, skip spaced rest)
  | text => (false, text)

/-- The level that a class starts with, given the hyphens at its start. -/
def openLevel (spaced negated : Bool) (found : List CharClass × List Char) :
    BracketLevel × List Char :=
  match found with
  | ([], ']' :: rest) => (⟨negated, none, [.literal ⟨']', false⟩]⟩, skip spaced rest)
  | (hyphens, rest) => (⟨negated, none, hyphens⟩, rest)

/-- Hyphens at the start of a class are a run of one character, each of them a literal. -/
theorem spanHyphens_eq (spaced : Bool) (fuel : Nat) (text : List Char) :
    spanHyphens spaced fuel text =
      ((spanRun (fun c => c = '-') spaced fuel text).1.map fun _ => .literal ⟨'-', false⟩,
        (spanRun (fun c => c = '-') spaced fuel text).2) := by
  induction fuel generalizing text with
  | zero => cases text <;> rfl
  | succ fuel inductionHypothesis =>
    cases text with
    | nil => rfl
    | cons c rest =>
      by_cases hyphen : c = '-'
      · subst hyphen
        simp [spanHyphens, spanRun, inductionHypothesis]
      · simp [spanHyphens, spanRun, hyphen]

/-- Whether a class is negated does not depend on what follows it. -/
theorem openNegation_extends (spaced : Bool) {left : List Char} {text : List Char → List Char}
    (continues : Continues left text) :
    Extends (some (openNegation spaced left)) fun ending =>
      some (openNegation spaced (text ending)) := by
  have skipped := skip_continues spaced continues
  simp only [openNegation]
  generalize skip spaced left = inner at skipped ⊢
  cases inner with
  | nil =>
    refine Extends.congr (.of_some false skipped) fun ending isEnding => ?_
    obtain nothing | ⟨sign, rest, starts, isSign⟩ := skipped.starts ending isEnding
    · simp [nothing]
    · simp [starts, (not_bracketSign_of_sign isSign).1]
  | cons c inner =>
    refine Extends.congr ?_ fun ending isEnding => by rw [skipped.of_cons ending isEnding]
    by_cases caret : c = '^'
    · subst caret
      exact .of_some true (skip_continues spaced (.append inner))
    · simpa [caret] using Extends.of_some false (.append (c :: inner))

/-- A closing bracket at the start of a class is a literal, and no ending brings one. -/
theorem openLevel_steady (spaced negated : Bool) (hyphens : List CharClass) :
    Steady fun text => some (openLevel spaced negated (hyphens, text)) := by
  intro left text continues
  cases hyphens with
  | cons hyphen hyphens => exact .of_some _ continues
  | nil =>
    cases left with
    | nil =>
      have empty := Extends.of_some (⟨negated, none, []⟩ : BracketLevel) continues
      refine empty.congr fun ending isEnding => ?_
      obtain nothing | ⟨sign, rest, starts, isSign⟩ := continues.starts ending isEnding
      · simp [nothing, openLevel]
      · simp [starts, openLevel, (not_bracketSign_of_sign isSign).2.1]
    | cons c rest =>
      refine Extends.congr ?_ fun ending isEnding => by rw [continues.of_cons ending isEnding]
      by_cases bracket : c = ']'
      · subst bracket
        exact .of_some _ (skip_continues spaced (.append rest))
      · simpa [openLevel, bracket] using Extends.of_some _ (.append (c :: rest))

/-- The start of a class does not depend on what follows the text. -/
theorem openBracket_extends (spaced : Bool) {left : List Char} {text : List Char → List Char}
    (continues : Continues left text) :
    Extends (some (openBracket spaced left)) fun ending =>
      some (openBracket spaced (text ending)) := by
  have negation := openNegation_extends spaced continues
  have hyphens (negated : Bool) : Steady fun rest =>
      some (openLevel spaced negated (spanHyphens spaced (rest.length + 1) rest)) := by
    intro rest text continues
    have run := spanRun_extends (fun c => c = '-')
      (fun sign isSign => decide_eq_false (not_bracketSign_of_sign isSign).2.2.2.1) spaced
      (rest.length + 1) (fun ending => (text ending).length + 1) continues (Nat.le_succ _)
      fun ending isEnding => Nat.lt_succ_of_le (continues.length_le ending isEnding)
    simp only [spanHyphens_eq]
    exact (run.map fun run => run.map fun _ => CharClass.literal ⟨'-', false⟩).bind
      (openLevel_steady spaced negated)
  exact negation.bind hyphens

/-! ### Named classes -/

/-- No name of a class has a sign of an ending in it. -/
theorem PosixClass.ofName?_of_sign {text : List Char} {sign : Char}
    (isSign : isEndingSign sign = true) (inText : sign ∈ text) : ofName? text = none := by
  have quiet (found : PosixClass) : ∀ c ∈ found.name.toList, isEndingSign c = false := by
    cases found <;> simp [PosixClass.name, isEndingSign]
  refine List.find?_eq_none.mpr fun found _ => ?_
  rw [decide_eq_true_iff]
  rintro rfl
  rw [quiet found sign inText] at isSign
  cases isSign

/-- Whether a named class is negated, and what follows. -/
def namedNegation : List Char → Bool × List Char
  | '^' :: rest => (true, rest)
  | rest => (false, rest)

/-- The class whose name stands before a colon and a closing bracket. -/
def namedClass? (found : Bool × List Char) : Option (CharClass × List Char) :=
  match found.2.dropWhile fun c => c ≠ ':' with
  | ':' :: ']' :: after =>
    (PosixClass.ofName? (found.2.takeWhile fun c => c ≠ ':')).map fun name =>
      (.posix name found.1, after)
  | _ => none

/-- Behind a bracket and a colon stands a named class, negated or not. -/
theorem readPosix_colon (text : List Char) :
    readPosix (':' :: text) = namedClass? (namedNegation text) := rfl

/-- Whether a named class is negated does not depend on what follows. -/
theorem namedNegation_append (left : List Char) {ending : List Char} (isEnding : ending ∈ endings) :
    namedNegation (left ++ ending) =
      ((namedNegation left).1, (namedNegation left).2 ++ ending) := by
  cases left with
  | nil =>
    obtain ⟨sign, rest, rfl, isSign⟩ := ending_eq_cons isEnding
    simp [namedNegation, (not_bracketSign_of_sign isSign).1]
  | cons c rest =>
    by_cases caret : c = '^'
    · subst caret
      rfl
    · simp [namedNegation, caret]

/-- The name of a class ends at its first colon, behind which its bracket has to close. -/
theorem namedClass?_of_colon (negated : Bool) {name : List Char} (noColon : ':' ∉ name)
    (after : List Char) :
    namedClass? (negated, name ++ ':' :: after) =
      match after with
      | ']' :: rest =>
        (PosixClass.ofName? name).map fun name => (.posix name negated, rest)
      | _ => none := by
  have named : ∀ c ∈ name, decide (c ≠ ':') = true := fun c isMember =>
    decide_eq_true fun same => noColon (same ▸ isMember)
  simp only [namedClass?]
  rw [List.dropWhile_append_of_pos named, List.takeWhile_append_of_pos named,
    List.dropWhile_cons_of_neg (by simp), List.takeWhile_cons_of_neg (by simp), List.append_nil]
  split
  · rename_i same
    cases same
    rfl
  · split
    · rename_i other
      exact absurd rfl (other _)
    · rfl

/-- No class is named by what has a sign of an ending before the first colon. -/
theorem namedClass?_of_sign (negated : Bool) {left : List Char} (noColon : ':' ∉ left) {sign : Char}
    (isSign : isEndingSign sign = true) (rest : List Char) :
    namedClass? (negated, left ++ sign :: rest) = none := by
  have named : ∀ c ∈ left, decide (c ≠ ':') = true := fun c isMember =>
    decide_eq_true fun same => noColon (same ▸ isMember)
  have inName : sign ∈ (left ++ sign :: rest).takeWhile fun c => c ≠ ':' := by
    rw [List.takeWhile_append_of_pos named]
    simp [(not_bracketSign_of_sign isSign).2.2.1]
  simp only [namedClass?, PosixClass.ofName?_of_sign isSign inName]
  split <;> rfl

/-- A named class does not depend on what follows. No ending has the colon that ends a name. -/
theorem namedClass?_append (negated : Bool) (left : List Char) {ending : List Char}
    (isEnding : ending ∈ endings) :
    namedClass? (negated, left ++ ending) =
      (namedClass? (negated, left)).map fun found => (found.1, found.2 ++ ending) := by
  obtain ⟨sign, rest, rfl, isSign⟩ := ending_eq_cons isEnding
  by_cases colon : ':' ∈ left
  · obtain ⟨name, after, rfl, noColon⟩ := List.eq_append_cons_of_mem colon
    rw [List.append_assoc, List.cons_append, namedClass?_of_colon negated noColon,
      namedClass?_of_colon negated noColon]
    cases after with
    | nil => simp [(not_bracketSign_of_sign isSign).2.1]
    | cons c after =>
      by_cases bracket : c = ']'
      · subst bracket
        cases PosixClass.ofName? name <;> rfl
      · simp [bracket]
  · have unnamed : namedClass? (negated, left) = none := by
      have named : left.dropWhile (fun c => decide (c ≠ ':')) = [] :=
        List.dropWhile_eq_nil_iff.mpr fun c isMember =>
          decide_eq_true fun same => colon (same ▸ isMember)
      simp only [namedClass?, named]
    rw [namedClass?_of_sign negated colon isSign, unnamed]
    rfl

/-- Named classes are read alike with an ending behind them. -/
theorem readPosix_append (left : List Char) {ending : List Char} (isEnding : ending ∈ endings) :
    readPosix (left ++ ending) =
      (readPosix left).map fun found => (found.1, found.2 ++ ending) := by
  cases left with
  | nil =>
    obtain ⟨sign, rest, rfl, isSign⟩ := ending_eq_cons isEnding
    simp [readPosix, (not_bracketSign_of_sign isSign).2.2.1]
  | cons c rest =>
    by_cases colon : c = ':'
    · subst colon
      rw [List.cons_append, readPosix_colon, readPosix_colon, namedNegation_append rest isEnding,
        namedClass?_append _ _ isEnding]
    · simp [readPosix, colon]

/-! ### Members -/

/-- Whether a hyphen stands for itself, given the text after it. -/
def isPlainHyphen (spaced : Bool) (text : List Char) : Bool :=
  afterHyphen? spaced text = some ']' || afterHyphen? spaced text = some '-'

/-- What stands after a hyphen is in the text, or it is the ending. -/
theorem afterHyphen?_append (spaced : Bool) (left : List Char) {ending : List Char}
    (isEnding : ending ∈ endings) :
    afterHyphen? spaced (left ++ ending) = (afterHyphen? spaced left).or ending.head? := by
  cases spaced with
  | false => simp only [afterHyphen?, Bool.false_eq_true, if_false, List.head?_append]
  | true =>
    simp only [afterHyphen?, if_true, dropWhiteSpace_append left isEnding]
    cases left.dropWhile Text.isWhiteSpace with
    | nil =>
      obtain ⟨sign, rest, rfl, isSign⟩ := ending_eq_cons isEnding
      simp [(not_bracketSign_of_sign isSign).2.2.2.2.2.2]
    | cons c rest =>
      by_cases comment : c = '#'
      · subst comment
        simp only [List.cons_append, dropWhiteSpace_append rest isEnding, List.head?_append]
      · simp [comment]

/-- Whether a hyphen stands for itself depends on the character behind it, which is no sign of an
ending. -/
theorem isPlainHyphen_append (spaced : Bool) (left : List Char) {ending : List Char}
    (isEnding : ending ∈ endings) :
    isPlainHyphen spaced (left ++ ending) = isPlainHyphen spaced left := by
  simp only [isPlainHyphen, afterHyphen?_append spaced left isEnding]
  obtain ⟨sign, rest, rfl, isSign⟩ := ending_eq_cons isEnding
  obtain ⟨-, noBracket, -, noHyphen, -⟩ := not_bracketSign_of_sign isSign
  cases afterHyphen? spaced left with
  | none => simp [noBracket, noHyphen]
  | some c => rfl

/-- The rest of a member or range after its first item. -/
def closeRange (spaced : Bool) (found : Item × List Char) : Option (CharClass × List Char) :=
  match skip spaced found.2 with
  | [] => none
  | '-' :: rest =>
    if isPlainHyphen spaced rest then do return (← found.1.member?, '-' :: rest)
    else do
      let (last, rest) ← readMember spaced (skip spaced rest)
      let low ← found.1.literal?
      let high ← last.literal?
      if low.char ≤ high.char then return (.range low high, rest) else none
  | rest => do return (← found.1.member?, rest)

/-- A range is read as a member of a class and what closes it. -/
theorem readRange_eq (spaced : Bool) (text : List Char) :
    readRange spaced text = readMember spaced text >>= closeRange spaced := by
  unfold readRange
  congr 1

/-- The class of the characters from one item to another. -/
def rangeOf? (first last : Item) : Option CharClass := do
  let low ← first.literal?
  let high ← last.literal?
  if low.char ≤ high.char then return .range low high else none

section

variable {spaced : Bool} (first : Item) {text rest : List Char}

/-- A text that ends behind a member ends within the class. -/
theorem closeRange_nil (next : skip spaced text = []) : closeRange spaced (first, text) = none := by
  simp only [closeRange, next]

/-- A hyphen that does not stand for itself makes a range. -/
theorem closeRange_hyphen (next : skip spaced text = '-' :: rest) :
    closeRange spaced (first, text) =
      if isPlainHyphen spaced rest then first.member?.map fun member => (member, '-' :: rest)
      else (readMember spaced (skip spaced rest)).bind fun found =>
        (rangeOf? first found.1).map fun range => (range, found.2) := by
  simp only [closeRange, next]
  split
  · cases first.member? <;> rfl
  · congr 1
    funext found
    unfold rangeOf?
    cases first.literal? with
    | none => rfl
    | some low =>
      cases found.1.literal? with
      | none => rfl
      | some high =>
        dsimp only [Option.bind_eq_bind, Option.bind_some]
        split_ifs <;> rfl

/-- A member without a hyphen behind it is a member by itself. -/
theorem closeRange_member {c : Char} (noHyphen : c ≠ '-') (next : skip spaced text = c :: rest) :
    closeRange spaced (first, text) = first.member?.map fun member => (member, c :: rest) := by
  simp only [closeRange, next]
  split
  · rename_i same
    cases same
  · rename_i same
    exact absurd (List.cons.inj same).1 noHyphen
  · cases first.member? <;> rfl

end

/-- What does not depend on a text is found in every text. -/
theorem Steady.attach {α : Type} (found : Option α) :
    Steady fun text => found.map fun value => (value, text) := by
  cases found with
  | none => exact .refused
  | some value => exact .pure value

/-- How a range closes does not depend on what follows. -/
theorem closeRange_steady (spaced : Bool) (first : Item) :
    Steady fun text => closeRange spaced (first, text) := by
  intro left text continues
  dsimp only
  have skipped := skip_continues spaced continues
  cases next : skip spaced left with
  | nil =>
    rw [closeRange_nil first next]
    exact .of_none
  | cons c rest =>
    rw [next] at skipped
    have going := skipped.of_cons
    by_cases hyphen : c = '-'
    · subst hyphen
      rw [closeRange_hyphen first next]
      refine Extends.congr ?_ fun ending isEnding => by
        rw [closeRange_hyphen first (going ending isEnding),
          isPlainHyphen_append spaced rest isEnding]
      split
      · exact Steady.attach _ _ _ (.append ('-' :: rest))
      · exact (readMember_steady spaced _ _ (skip_continues spaced (.append rest))).bind
          fun last => .attach (rangeOf? first last)
    · rw [closeRange_member first hyphen next]
      refine Extends.congr ?_ fun ending isEnding => by
        rw [closeRange_member first hyphen (going ending isEnding)]
      exact Steady.attach _ _ _ (.append (c :: rest))

/-- Ranges do not depend on what follows. -/
theorem readRange_steady (spaced : Bool) : Steady (readRange spaced) := by
  intro left text continues
  simp only [readRange_eq]
  exact (readMember_steady spaced _ _ continues).bind (closeRange_steady spaced)

/-! ### Whole classes -/

/-- An operation between the sides of a class. -/
def operation? : List Char → Option (ClassOperation × List Char)
  | '&' :: '&' :: rest => some (.intersection, rest)
  | '-' :: '-' :: rest => some (.difference, rest)
  | '~' :: '~' :: rest => some (.symmetricDifference, rest)
  | _ => none

/-- An operation of classes has two signs, and no ending brings the second. -/
theorem operation?_append (c : Char) (left : List Char) {ending : List Char}
    (isEnding : ending ∈ endings) :
    operation? (c :: (left ++ ending)) =
      (operation? (c :: left)).map fun found => (found.1, found.2 ++ ending) := by
  cases left with
  | nil =>
    obtain ⟨sign, rest, rfl, isSign⟩ := ending_eq_cons isEnding
    obtain ⟨-, -, -, noHyphen, noAmpersand, noTilde, -⟩ := not_bracketSign_of_sign isSign
    simp [operation?, noHyphen, noAmpersand, noTilde]
  | cons d left =>
    by_cases intersection : c = '&' ∧ d = '&'
    · obtain ⟨rfl, rfl⟩ := intersection
      rfl
    by_cases difference : c = '-' ∧ d = '-'
    · obtain ⟨rfl, rfl⟩ := difference
      rfl
    by_cases symmetricDifference : c = '~' ∧ d = '~'
    · obtain ⟨rfl, rfl⟩ := symmetricDifference
      rfl
    · have none (rest : List Char) : operation? (c :: d :: rest) = none := by
        unfold operation?
        split <;> simp_all
      rw [List.cons_append, none, none]
      rfl

/-- What stands next within brackets: a member, the start or the end of a level, or an operation. -/
inductive BracketToken
  | member (item : CharClass)
  | enter (level : BracketLevel)
  | leave
  | operate (operation : ClassOperation)

/-- Reads what stands next within brackets, in a text that does not start with something ignored. -/
def bracketToken? (spaced : Bool) : List Char → Option (BracketToken × List Char)
  | [] => none
  | '[' :: rest =>
    match readPosix rest with
    | some (item, rest) => some (.member item, rest)
    | none => some (.enter (openBracket spaced rest).1, (openBracket spaced rest).2)
  | ']' :: rest => some (.leave, rest)
  | text =>
    match operation? text with
    | some (operation, rest) => some (.operate operation, rest)
    | none => (readRange spaced text).map fun found => (.member found.1, found.2)

/-- Goes on after a token with the levels that are open then. The end of the outermost level is the
end of the class. -/
def BracketToken.follow
    (further : BracketLevel → List BracketLevel → List Char → Option (CharClass × List Char))
    (level : BracketLevel) (outer : List BracketLevel) :
    BracketToken → List Char → Option (CharClass × List Char)
  | .member item, rest => further (level.add item) outer rest
  | .enter inner, rest => further inner (level :: outer) rest
  | .leave, rest =>
    match outer with
    | [] => some (level.closed, rest)
    | parent :: outer => further (parent.add level.closed) outer rest
  | .operate operation, rest => further (level.operate operation) outer rest

/-- Inside a class that neither opens nor closes, a token is an operation or a range. -/
theorem bracketToken?_inside (spaced : Bool) {c : Char} (noOpen : c ≠ '[') (noClose : c ≠ ']')
    (rest : List Char) :
    bracketToken? spaced (c :: rest) =
      match operation? (c :: rest) with
      | some (operation, rest) => some (.operate operation, rest)
      | none => (readRange spaced (c :: rest)).map fun found => (.member found.1, found.2) := by
  unfold bracketToken?
  split <;> simp_all

/-- Inside a class that neither opens nor closes, the reader takes an operation or a range and goes
on at the same level. -/
theorem readBracketed_inside (spaced : Bool) (fuel : Nat) (level : BracketLevel)
    (outer : List BracketLevel) {text : List Char} {c : Char} {rest : List Char}
    (next : skip spaced text = c :: rest) (noOpen : c ≠ '[') (noClose : c ≠ ']') :
    readBracketed spaced (fuel + 1) level outer text =
      match operation? (c :: rest) with
      | some found => readBracketed spaced fuel (level.operate found.1) outer found.2
      | none => (readRange spaced (c :: rest)).bind fun found =>
          readBracketed spaced fuel (level.add found.1) outer found.2 := by
  rw [readBracketed, next]
  unfold operation?
  split <;> simp_all

/-- The reader of a class takes one token after the other. -/
theorem readBracketed_eq (spaced : Bool) (fuel : Nat) (level : BracketLevel)
    (outer : List BracketLevel) (text : List Char) :
    readBracketed spaced (fuel + 1) level outer text =
      (bracketToken? spaced (skip spaced text)).bind fun found =>
        found.1.follow (readBracketed spaced fuel) level outer found.2 := by
  cases next : skip spaced text with
  | nil =>
    rw [readBracketed, next]
    rfl
  | cons c rest =>
    by_cases opens : c = '['
    · subst opens
      rw [readBracketed, next]
      cases posix : readPosix rest <;> simp [bracketToken?, posix, BracketToken.follow]
    by_cases closes : c = ']'
    · subst closes
      rw [readBracketed, next]
      cases outer <;> rfl
    · rw [readBracketed_inside spaced fuel level outer next opens closes,
        bracketToken?_inside spaced opens closes]
      cases operation? (c :: rest) with
      | some found => rfl
      | none => cases readRange spaced (c :: rest) <;> rfl

/-- Tokens inside a class do not depend on what follows. -/
theorem bracketToken?_steady (spaced : Bool) : Steady (bracketToken? spaced) := by
  refine .of_cons rfl fun c rest => ?_
  by_cases opens : c = '['
  · subst opens
    simp only [bracketToken?]
    refine Extends.congr ?_ fun ending isEnding => by rw [readPosix_append rest isEnding]
    cases readPosix rest with
    | some found => exact .of_some _ (.append found.2)
    | none => exact (openBracket_extends spaced (.append rest)).map BracketToken.enter
  by_cases closes : c = ']'
  · subst closes
    exact .of_some _ (.append rest)
  · simp only [bracketToken?_inside spaced opens closes]
    refine Extends.congr ?_ fun ending isEnding => by rw [operation?_append c rest isEnding]
    cases operation? (c :: rest) with
    | some found => exact .of_some _ (.append found.2)
    | none => exact (readRange_steady spaced _ _ (.append (c :: rest))).map BracketToken.member

/-- A class that is closed does not depend on what follows. The induction is on the steps that are
left. -/
theorem readBracketed_extends (spaced : Bool) (fuel : Nat) (level : BracketLevel)
    (outer : List BracketLevel) (more : List Char → Nat)
    (enough : ∀ ending ∈ endings, fuel ≤ more ending) {left : List Char}
    {text : List Char → List Char} (continues : Continues left text) :
    Extends (readBracketed spaced fuel level outer left)
      fun ending => readBracketed spaced (more ending) level outer (text ending) := by
  induction fuel generalizing level outer more left text with
  | zero => exact .of_none
  | succ fuel inductionHypothesis =>
    obtain ⟨less, same, enoughLess⟩ := exists_pred_of_le enough
    have token := bracketToken?_steady spaced _ _ (skip_continues spaced continues)
    rw [readBracketed_eq]
    refine Extends.congr ?_ fun ending isEnding => by rw [same ending isEnding, readBracketed_eq]
    refine token.bind_extends fun token rest text continues => ?_
    have further (level : BracketLevel) (outer : List BracketLevel) :=
      inductionHypothesis level outer less enoughLess continues
    cases token with
    | member | enter | operate => exact further _ _
    | leave =>
      cases outer with
      | nil => exact .of_some _ continues
      | cons parent outer => exact further _ _

/-- Whole classes do not depend on what follows. -/
theorem readClass_steady (spaced : Bool) : Steady (readClass spaced) := by
  intro left text continues
  exact (openBracket_extends spaced continues).bind_extends fun level _ _ =>
    readBracketed_extends spaced (left.length + 1) level [] (fun ending => (text ending).length + 1)
      fun ending isEnding => Nat.succ_le_succ (continues.length_le ending isEnding)

end SearchFilter.Regex
