import SearchFilter.Proofs.FieldCondition
import SearchFilter.Proofs.LikeExpressions
import SearchFilter.Proofs.OperatorOrder

/-!
# LIKE patterns

The operators for LIKE patterns ask that a pattern covers a text as a whole. What a pattern covers
is said here of the pattern as it was written. The engine's wildcard syntax and the regular
expression in between, each with its own escapes, come to the same (`like_selects_covered`).
-/

namespace SearchFilter

/-! ### Letters in both cases -/

namespace Text

/-- Being a letter in another case goes both ways. -/
theorem mem_caseVariants_of_mem {code other : Nat} (isVariant : other ∈ caseVariants code) :
    code ∈ caseVariants other := by
  simp only [caseVariants, List.mem_append, List.mem_filterMap, List.mem_flatMap, List.mem_filter,
    Option.ite_none_right_eq_some, Option.some.injEq, Bool.and_eq_true, decide_eq_true_eq,
    List.contains_iff_mem, bne_iff_ne] at isVariant ⊢
  obtain (⟨pair, known, isFirst, rfl⟩ | ⟨pair, known, ⟨within, isFirst⟩, rfl⟩) |
    ⟨orbit, ⟨known, here⟩, there, different⟩ := isVariant
  · have back : code + pair.2 - pair.2 = code := Nat.add_sub_cancel code pair.2
    exact .inl (.inr ⟨pair, known, ⟨Nat.le_add_left _ _, back.symm ▸ isFirst⟩, back⟩)
  · exact .inl (.inl ⟨pair, known, isFirst, Nat.sub_add_cancel within⟩)
  · exact .inr ⟨orbit, ⟨known, there⟩, here, different.symm⟩

end Text

namespace Like

/-- Whether a character of a text is the one that a pattern asks for, or differs from it only in
case, where case is ignored. -/
def Same (ignoreCase : Bool) (wanted given : Char) : Prop :=
  given = wanted ∨ ignoreCase = true ∧ given.toNat ∈ Text.caseVariants wanted.toNat

/-- The characters that a backslash makes literal. -/
def escapable : List Char := ['%', '_', '\\']

/-- Whether a LIKE pattern, read from left to right, covers a text as a whole. -/
inductive Covers (ignoreCase : Bool) : List Char → List Char → Prop
  | nothing : Covers ignoreCase [] []
  /-- A percent sign stands for any run of characters. -/
  | run {pattern text : List Char} (lead : List Char) (rest : Covers ignoreCase pattern text) :
    Covers ignoreCase ('%' :: pattern) (lead ++ text)
  /-- An underscore stands for any one character. -/
  | one {pattern text : List Char} (given : Char) (rest : Covers ignoreCase pattern text) :
    Covers ignoreCase ('_' :: pattern) (given :: text)
  /-- A backslash makes these two signs and itself literal. -/
  | escaped {pattern text : List Char} {wanted given : Char} (special : wanted ∈ escapable)
    (same : Same ignoreCase wanted given) (rest : Covers ignoreCase pattern text) :
    Covers ignoreCase ('\\' :: wanted :: pattern) (given :: text)
  /-- Everything else stands for itself, and so does a backslash with nothing to make literal. -/
  | itself {pattern text : List Char} {wanted given : Char}
    (plain : wanted ≠ '%' ∧ wanted ≠ '_')
    (escapesNothing : wanted = '\\' → ∀ next ∈ escapable, pattern.head? ≠ some next)
    (same : Same ignoreCase wanted given) (rest : Covers ignoreCase pattern text) :
    Covers ignoreCase (wanted :: pattern) (given :: text)

variable {ignoreCase : Bool} {pattern text : List Char}

/-- An empty pattern covers the empty text alone. -/
theorem covers_nil_iff : Covers ignoreCase [] text ↔ text = [] := by
  constructor
  · rintro ⟨⟩
    rfl
  · rintro rfl
    exact .nothing

/-- A percent sign covers any run of characters, also none, and the rest of the pattern covers what
follows. -/
theorem covers_run_iff :
    Covers ignoreCase ('%' :: pattern) text ↔
      ∃ lead rest, text = lead ++ rest ∧ Covers ignoreCase pattern rest := by
  constructor
  · intro covers
    cases covers with
    | run lead rest => exact ⟨lead, _, rfl, rest⟩
    | itself plain => exact absurd rfl plain.1
  · rintro ⟨lead, rest, rfl, covers⟩
    exact .run lead covers

/-- An underscore covers one character of any kind. -/
theorem covers_one_iff :
    Covers ignoreCase ('_' :: pattern) text ↔
      ∃ given rest, text = given :: rest ∧ Covers ignoreCase pattern rest := by
  constructor
  · intro covers
    cases covers with
    | one given rest => exact ⟨given, _, rfl, rest⟩
    | itself plain => exact absurd rfl plain.2
  · rintro ⟨given, rest, rfl, covers⟩
    exact .one given covers

/-- A backslash takes the special meaning from the character behind it. -/
theorem covers_escaped_iff {wanted : Char} (special : wanted ∈ escapable) :
    Covers ignoreCase ('\\' :: wanted :: pattern) text ↔
      ∃ given rest, text = given :: rest ∧ Same ignoreCase wanted given ∧
        Covers ignoreCase pattern rest := by
  constructor
  · intro covers
    cases covers with
    | escaped _ same rest => exact ⟨_, _, rfl, same, rest⟩
    | itself _ escapesNothing => exact absurd rfl (escapesNothing rfl wanted special)
  · rintro ⟨given, rest, rfl, same, covers⟩
    exact .escaped special same covers

/-- Every other character stands for itself, also a backslash that escapes nothing. -/
theorem covers_itself_iff {wanted : Char} (plain : wanted ≠ '%' ∧ wanted ≠ '_')
    (escapesNothing : wanted = '\\' → ∀ next ∈ escapable, pattern.head? ≠ some next) :
    Covers ignoreCase (wanted :: pattern) text ↔
      ∃ given rest, text = given :: rest ∧ Same ignoreCase wanted given ∧
        Covers ignoreCase pattern rest := by
  constructor
  · intro covers
    cases covers with
    | run => exact absurd rfl plain.1
    | one => exact absurd rfl plain.2
    | escaped special => exact absurd rfl (escapesNothing rfl _ special)
    | itself _ _ same rest => exact ⟨_, _, rfl, same, rest⟩
  · rintro ⟨given, rest, rfl, same, covers⟩
    exact .itself plain escapesNothing same covers

end Like

/-! ### What the expression of a pattern matches -/

namespace LikePiece

open Regex (Expr)

/-- The set for a character of a pattern contains the characters that count as the same. -/
theorem contains_literalSet_iff (ignoreCase : Bool) (wanted given : Char) :
    (literalSet ignoreCase wanted).contains given = true ↔ Like.Same ignoreCase wanted given := by
  have single (code : Nat) :
      (Regex.CharSet.single wanted).has code = true ↔ code = wanted.toNat := by
    simp [Regex.CharSet.single, Regex.CharSet.has, Ranges.has]
    omega
  have equal : given.toNat = wanted.toNat ↔ given = wanted :=
    ⟨fun same => Char.toNat_inj.mp same, congrArg Char.toNat⟩
  have variant : wanted.toNat ∈ Text.caseVariants given.toNat ↔
      given.toNat ∈ Text.caseVariants wanted.toNat :=
    ⟨Text.mem_caseVariants_of_mem, Text.mem_caseVariants_of_mem⟩
  cases ignoreCase with
  | false => simp [literalSet, Regex.CharSet.contains, single, equal, Like.Same]
  | true =>
    simp [literalSet, Regex.CharSet.contains, Regex.CharSet.has, single, equal, Like.Same, variant]

variable {text : List Char}

/-- The text from a position starts with the character there. -/
theorem drop_eq_cons_iff {start : Nat} {given : Char} {rest : List Char} :
    text.drop start = given :: rest ↔ text[start]? = some given ∧ text.drop (start + 1) = rest := by
  constructor
  · intro starts
    have here : text[start]? = (text.drop start).head? := by rw [List.head?_drop]
    have later : text.drop (start + 1) = (text.drop start).tail := by rw [List.tail_drop]
    rw [here, later, starts]
    exact ⟨rfl, rfl⟩
  · rintro ⟨here, rfl⟩
    obtain ⟨inside, rfl⟩ := List.getElem?_eq_some_iff.mp here
    exact List.drop_eq_getElem_cons inside

/-- An expression for one character takes the character at its start. -/
theorem matches_one_iff (set : Regex.CharSet) (rest : Expr) (covers : List Char → Prop)
    (covered : ∀ start, start ≤ text.length →
      (rest.Matches text start text.length ↔ covers (text.drop start)))
    (start : Nat) :
    (∃ middle, (Expr.one set).Matches text start middle ∧ rest.Matches text middle text.length) ↔
      ∃ given tail, text.drop start = given :: tail ∧ set.contains given = true ∧ covers tail := by
  simp only [Expr.Matches, drop_eq_cons_iff]
  constructor
  · rintro ⟨_, ⟨rfl, given, here, isMember⟩, isRest⟩
    have within : start + 1 ≤ text.length := (List.getElem?_eq_some_iff.mp here).1
    exact ⟨given, _, ⟨here, rfl⟩, isMember, (covered _ within).mp isRest⟩
  · rintro ⟨given, _, ⟨here, rfl⟩, isMember, isCovered⟩
    have within : start + 1 ≤ text.length := (List.getElem?_eq_some_iff.mp here).1
    exact ⟨start + 1, ⟨rfl, given, here, isMember⟩, (covered _ within).mpr isCovered⟩

/-- A run takes any part of the text at its start. -/
theorem matches_run_iff (rest : Expr) (covers : List Char → Prop)
    (covered : ∀ start, start ≤ text.length →
      (rest.Matches text start text.length ↔ covers (text.drop start)))
    {start : Nat} (within : start ≤ text.length) :
    (∃ middle, Expr.anyText.Matches text start middle ∧ rest.Matches text middle text.length) ↔
      ∃ lead tail, text.drop start = lead ++ tail ∧ covers tail := by
  constructor
  · rintro ⟨middle, isRun, isRest⟩
    obtain ⟨before, inside⟩ := (Expr.matches_anyText_iff within).mp isRun
    refine ⟨(text.drop start).take (middle - start), text.drop middle, ?_,
      (covered middle inside).mp isRest⟩
    have later : text.drop middle = (text.drop start).drop (middle - start) := by
      rw [List.drop_drop, Nat.add_sub_cancel' before]
    rw [later, List.take_append_drop]
  · rintro ⟨lead, tail, same, isCovered⟩
    have lengths := congrArg List.length same
    rw [List.length_drop, List.length_append] at lengths
    have inside : start + lead.length ≤ text.length := by omega
    have later : text.drop (start + lead.length) = tail := by
      rw [← List.drop_drop, same, List.drop_left]
    refine ⟨start + lead.length,
      (Expr.matches_anyText_iff within).mpr ⟨Nat.le_add_right _ _, inside⟩, ?_⟩
    rw [covered _ inside, later]
    exact isCovered

/-- From each position on, the expression of a pattern matches the rest of a text exactly if the
pattern covers it. The induction is on the way the pattern is read. -/
theorem matches_sequence_iff (ignoreCase : Bool) (pattern : List Char) (start : Nat)
    (within : start ≤ text.length) :
    (Expr.sequence ((ofPattern pattern).map (expr ignoreCase))).Matches text start text.length ↔
      Like.Covers ignoreCase pattern (text.drop start) := by
  -- The cases of the reader: the end, three escapes, the two wildcards, and a character for itself.
  fun_induction ofPattern pattern generalizing start with
  | case1 =>
    rw [Like.covers_nil_iff, List.drop_eq_nil_iff]
    simp only [List.map_nil, Expr.sequence, Expr.Matches]
    omega
  | case2 rest inductionHypothesis | case3 rest inductionHypothesis
  | case4 rest inductionHypothesis =>
    rw [Like.covers_escaped_iff (by decide), List.map_cons, Expr.matches_sequence_cons]
    simp only [← contains_literalSet_iff]
    exact matches_one_iff _ _ _ inductionHypothesis start
  | case5 rest inductionHypothesis =>
    rw [Like.covers_run_iff, List.map_cons, Expr.matches_sequence_cons]
    exact matches_run_iff _ _ inductionHypothesis within
  | case6 rest inductionHypothesis =>
    rw [Like.covers_one_iff, List.map_cons, Expr.matches_sequence_cons]
    have any (given : Char) : (Regex.CharSet.complement (.ranges [])).contains given = true := rfl
    have isOne := matches_one_iff (.complement (.ranges [])) _ _ inductionHypothesis start
    simp only [any, true_and] at isOne
    exact isOne
  | case7 wanted rest noPercent noUnderscore noBackslash noRun noOne inductionHypothesis =>
    have escapesNothing : wanted = '\\' → ∀ next ∈ Like.escapable, rest.head? ≠ some next := by
      rintro rfl next special starts
      obtain ⟨tail, rfl⟩ := List.head?_eq_some_iff.mp starts
      simp only [Like.escapable, List.mem_cons, List.not_mem_nil, or_false] at special
      obtain rfl | rfl | rfl := special
      · exact noPercent _ rfl rfl
      · exact noUnderscore _ rfl rfl
      · exact noBackslash _ rfl rfl
    rw [Like.covers_itself_iff ⟨noRun, noOne⟩ escapesNothing, List.map_cons,
      Expr.matches_sequence_cons]
    simp only [← contains_literalSet_iff]
    exact matches_one_iff _ _ _ inductionHypothesis start

end LikePiece

/-- The wildcard pattern for a LIKE pattern covers the texts that the LIKE pattern covers, as long
as its expression is not too large. -/
theorem Wildcard.matchesWhole_ofLike_iff (pattern : String) (ignoreCase : Bool)
    (fits : (LikePiece.wholeExpr ignoreCase (LikePiece.ofPattern pattern.toList)).size ≤ Regex.maxSize)
    (text : String) :
    matchesWhole (String.ofList (ofLike pattern.toList)) ignoreCase text = true ↔
      Like.Covers ignoreCase pattern.toList text.toList := by
  rw [matchesWhole, String.toList_ofList, LikePiece.exprOfText?_anchored, if_pos fits]
  dsimp only
  rw [LikePiece.wholeExpr, Regex.Expr.isMatch_framed_iff]
  exact LikePiece.matches_sequence_iff ignoreCase pattern.toList 0 (Nat.zero_le _)

namespace FilterSpec

section

variable (key : String) (isField : Combinator.ofKey? key = none)
include isField

/-- The condition with the operator for LIKE patterns, or with the one that ignores case. -/
def likeOperator (ignoreCase : Bool) (pattern : String) : Value :=
  .map [(.op (if ignoreCase then .likeAnyCase else .like), .scalar (.str pattern))]

/-- The operator compiles with every pattern, for an engine that can ignore case if it has to. -/
theorem compile_likeOperator (pattern : String) (ignoreCase : Bool) (fields : FieldContext)
    (capabilities : Capabilities)
    (able : ignoreCase = true → capabilities.has .caseInsensitiveMatch = true) (limit : Nat) :
    compile (single key (likeOperator ignoreCase pattern)) fields capabilities limit =
      .ok ⟨.group .and [.test (Where.pathOf key)
        (.wildcard (String.ofList (Wildcard.ofLike pattern.toList)) ignoreCase)], []⟩ := by
  have allowed : Resolve.like capabilities pattern ignoreCase =
      .ok (.wildcard (String.ofList (Wildcard.ofLike pattern.toList)) ignoreCase) := by
    cases ignoreCase with
    | false => rfl
    | true => simp [Resolve.like, able rfl]
  have resolved (enter : Operand → Diagnosed (List Query)) :
      Resolve.operandWith ⟨fields, capabilities, limit⟩ enter (Where.pathOf key)
        (.ops [(if ignoreCase then .likeAnyCase else .like, .scalar (.str pattern))]) =
        .done [.test (Where.pathOf key)
          (.wildcard (String.ofList (Wildcard.ofLike pattern.toList)) ignoreCase)] [] := by
    cases ignoreCase with
    | false => rfl
    | true =>
      have entry : Resolve.simpleEntry ⟨fields, capabilities, limit⟩ (Where.pathOf key)
          [(.likeAnyCase, .scalar (.str pattern))] .likeAnyCase (.scalar (.str pattern)) =
            .lift (do return [.test (Where.pathOf key)
              (← Resolve.like capabilities pattern true)]) := rfl
      rw [allowed] at entry
      simp only [Resolve.operandWith, Resolve.takeUpAll, Resolve.takeUp, if_true, entry]
      rfl
  have operand : Resolve.operand ⟨fields, capabilities, limit⟩ (Where.pathOf key) limit
      (.ops [(if ignoreCase then .likeAnyCase else .like, .scalar (.str pattern))]) =
        .done [.test (Where.pathOf key)
          (.wildcard (String.ofList (Wildcard.ofLike pattern.toList)) ignoreCase)] [] := by
    cases limit <;> exact resolved _
  refine (compile_single_eq_ok_iff key _ isField fields capabilities limit _).mpr
    ⟨_, _, ?_, operand, rfl⟩
  cases ignoreCase <;> rfl

/-- The operator for LIKE patterns, with case ignored or not, selects the documents in which the
field holds a text that the pattern covers. The one assumption is that the expression for the
pattern keeps within the room for expressions, as it does for all but enormous patterns. -/
theorem like_selects_covered (pattern : String) (ignoreCase : Bool) (fields : FieldContext)
    (capabilities : Capabilities)
    (able : ignoreCase = true → capabilities.has .caseInsensitiveMatch = true) (limit : Nat) :
    let path := Path.segments (Where.pathOf key)
    let size := (LikePiece.wholeExpr ignoreCase (LikePiece.ofPattern pattern.toList)).size
    (pattern.length ≤ 150000 → size ≤ Regex.maxSize) ∧
    ∃ compiled,
      compile (single key (likeOperator ignoreCase pattern)) fields capabilities limit =
        .ok compiled ∧
      (size ≤ Regex.maxSize →
        (∀ text : String, compiled.root.selects (nested path (.string text)) = true ↔
          Like.Covers ignoreCase pattern.toList text.toList) ∧
        ∀ document, compiled.root.selects document = true ↔
          ∃ text : String, .string text ∈ document.leaves path ∧
            Like.Covers ignoreCase pattern.toList text.toList) := by
  intro path size
  refine ⟨LikePiece.size_wholeExpr_le ignoreCase pattern.toList, _,
    compile_likeOperator key isField pattern ignoreCase fields capabilities able limit,
    fun fits => ?_⟩
  have selects (document : Json) :
      (Query.group .and [.test (Where.pathOf key)
        (.wildcard (String.ofList (Wildcard.ofLike pattern.toList)) ignoreCase)]).selects document =
          true ↔
        ∃ text : String, .string text ∈ document.leaves path ∧
          Like.Covers ignoreCase pattern.toList text.toList := by
    rw [Query.selects_and, List.all_cons, List.all_nil, Bool.and_true,
      Query.selects_test _ _ _ rfl, Test.holds, List.any_eq_true]
    simp only [mem_texts_iff, Wildcard.matchesWhole_ofLike_iff pattern ignoreCase fits, path]
  refine ⟨fun text => ?_, selects⟩
  rw [selects, leaves_nested]
  constructor
  · rintro ⟨found, isLeaf, covers⟩
    cases List.mem_singleton.mp isLeaf
    exact covers
  · exact fun covers => ⟨text, .head _, covers⟩

end

/-- The pattern escapes a percent sign, has a star that is special only to the engine, and ends with
a backslash that escapes nothing; the run in it takes in the ends of lines. -/
theorem like_selects_covered_of_escapes :
    Combinator.ofKey? "f" = none ∧ Capabilities.has ⟨fun _ => true⟩ .caseInsensitiveMatch = true ∧
      Like.Covers true "1\\%_*%\\".toList "1%x*\n\n\\".toList ∧
      ∃ compiled,
        compile (single "f" (likeOperator true "1\\%_*%\\")) .empty ⟨fun _ => true⟩ 5 =
          .ok compiled ∧
        compiled.root.selects (.object [("f", .string "1%x*\n\n\\")]) = true := by
  have pattern : "1\\%_*%\\".toList = ['1', '\\', '%', '_', '*', '%', '\\'] := by simp
  have text : "1%x*\n\n\\".toList = ['1', '%', 'x', '*', '\n', '\n', '\\'] := by simp
  have covers : Like.Covers true "1\\%_*%\\".toList "1%x*\n\n\\".toList := by
    rw [pattern, text]
    refine .itself (by decide) nofun (.inl rfl) (.escaped (by decide) (.inl rfl) (.one 'x' ?_))
    refine .itself (by decide) nofun (.inl rfl) (.run ['\n', '\n'] ?_)
    exact .itself (by decide) (fun _ _ _ => nofun) (.inl rfl) .nothing
  obtain ⟨small, compiled, compiles, covered⟩ :=
    like_selects_covered "f" rfl "1\\%_*%\\" true .empty ⟨fun _ => true⟩ (fun _ => rfl) 5
  have fits := small (by decide)
  exact ⟨rfl, rfl, covers, compiled, compiles, ((covered fits).2 _).mpr ⟨_, .head _, covers⟩⟩

end FilterSpec

end SearchFilter
