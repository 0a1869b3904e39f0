import SearchFilter.Proofs.NearestNumbers

/-!
# The order of literals

Two numbers are ordered as the floating-point numbers are that they are rounded to, and two integers
that are rounded to one number are ordered as integers. The order is a lawful one except where an
integer meets the number that it is rounded to. The two are equal in the order and are different
literals all the same, and a number is equal to every integer that is rounded to it, while these
integers keep an order among themselves.
-/

namespace SearchFilter

/-- Equality by value does not depend on the side. -/
theorem Binary64.equals_comm (first second : Binary64) :
    first.equals second = second.equals first := by
  have swapped : compare first.scaled second.scaled = .eq ↔
      compare second.scaled first.scaled = .eq := by
    rw [Int.compare_eq_eq, Int.compare_eq_eq, eq_comm]
  rw [Bool.eq_iff_iff, equals, equals, beq_iff_eq, beq_iff_eq, compare?, compare?, Bool.or_comm]
  split
  · exact Iff.rfl
  · rw [Option.some.injEq, Option.some.injEq, swapped]

/-- Two numbers are equal by value if their counts of units are equal. -/
theorem Binary64.equals_iff {first second : Binary64} (firstNumber : first.isNaN = false)
    (secondNumber : second.isNaN = false) :
    first.equals second = true ↔ first.scaled = second.scaled := by
  rw [equals, beq_iff_eq, compare?, firstNumber, secondNumber, ← Int.compare_eq_eq]
  exact Option.some_inj

namespace Scalar

/-! ### Literals that are equal in the order -/

/-- Whether a literal is one that can be held: an integer has sixty-four bits. -/
def IsHeld : Scalar → Prop
  | .int value => Number.fitsSigned value = true
  | _ => True

/-- Whether a literal comes before another one in the order or is equal to it there. -/
def AtMost (first second : Scalar) : Prop :=
  first.compare? second = some .lt ∨ first.compare? second = some .eq

/-- Whether a literal is an integer and another one is the number that it is rounded to. -/
def roundsTo : Scalar → Scalar → Bool
  | .int value, .float number => (Binary64.ofInt value).equals number
  | _, _ => false

/-- Two different integers that are rounded to one number. -/
structure Merged (first second number : Scalar) : Prop where
  different : first ≠ second
  firstRounds : first.roundsTo number = true
  secondRounds : second.roundsTo number = true

/-- Literals are equal in the order if they are equal literals, or if one is an integer and the
other one is the number that it is rounded to. -/
theorem compare?_eq_some_eq_iff (first second : Scalar) :
    first.compare? second = some .eq ↔
      first.equals second = true ∨ first.roundsTo second = true ∨ second.roundsTo first = true := by
  have same (first second : Binary64) :
      first.compare? second = some .eq ↔ first.equals second = true := by
    rw [Binary64.equals, beq_iff_eq]
  cases first with
  | bool first => cases second <;> simp [compare?, equals, roundsTo, number?]
  | str first => cases second <;> simp [compare?, equals, roundsTo, number?]
  | int first =>
    cases second with
    | float second =>
      simpa [compare?, number?, equals, roundsTo] using same (Binary64.ofInt first) second
    | _ => simp [compare?, equals, roundsTo, number?]
  | float first =>
    cases second with
    | int second =>
      have rounded := same first (Binary64.ofInt second)
      rw [Binary64.equals_comm] at rounded
      simpa [compare?, number?, equals, roundsTo] using rounded
    | float second => simpa [compare?, number?, equals, roundsTo] using same first second
    | _ => simp [compare?, equals, roundsTo, number?]

/-! ### What is compared -/

/-- Where a number stands once it is rounded. What is not a number stands nowhere. -/
inductive Stands : Scalar → Int → Prop
  | integer {value : Int} (fits : Number.fitsSigned value = true) :
    Stands (.int value) (Binary64.ofInt value).scaled
  | number {value : Binary64} (isNumber : value.isNaN = false) :
    Stands (.float value) value.scaled

/-- The order of two literals that stand at one place. -/
def tie : Scalar → Scalar → Ordering
  | .int first, .int second => compare first second
  | _, _ => .eq

/-- The order that two literals have. -/
inductive Compared : Scalar → Scalar → Ordering → Prop
  | truths (first second : Bool) : Compared (.bool first) (.bool second) (compare first second)
  | texts (first second : String) : Compared (.str first) (.str second) (compare first second)
  | numbers {first second : Scalar} {firstPlace secondPlace : Int}
    (firstStands : first.Stands firstPlace) (secondStands : second.Stands secondPlace) :
    Compared first second ((compare firstPlace secondPlace).then (tie first second))

/-- An integer of sixty-four bits is small enough to be rounded to a finite number. -/
theorem natAbs_le_of_fitsSigned {value : Int} (fits : Number.fitsSigned value = true) :
    value.natAbs ≤ 2 ^ 64 := by
  simp only [Number.fitsSigned, Bool.and_eq_true, decide_eq_true_eq] at fits
  omega

/-- Rounding an integer of sixty-four bits gives a number. -/
theorem isNaN_ofInt {value : Int} (fits : Number.fitsSigned value = true) :
    (Binary64.ofInt value).isNaN = false :=
  Binary64.isNaN_of_isFinite _ (Binary64.isFinite_ofInt value (natAbs_le_of_fitsSigned fits))

/-- Rounding keeps the order of integers, so they can be compared where they stand first. -/
theorem compare_then_compare {first second : Int} (firstFits : Number.fitsSigned first = true)
    (secondFits : Number.fitsSigned second = true) :
    (compare (Binary64.ofInt first).scaled (Binary64.ofInt second).scaled).then
      (compare first second) = compare first second := by
  have firstBounded := natAbs_le_of_fitsSigned firstFits
  have secondBounded := natAbs_le_of_fitsSigned secondFits
  obtain less | rfl | greater := Int.lt_trichotomy first second
  · have upward := Binary64.scaled_ofInt_mono firstBounded secondBounded (Int.le_of_lt less)
    rw [Int.compare_eq_lt.mpr less, Ordering.then_eq_lt, Int.compare_eq_lt, Int.compare_eq_eq,
      and_iff_left rfl]
    exact Int.lt_or_eq_of_le upward
  · rw [Int.compare_eq_eq.mpr rfl, Int.compare_eq_eq.mpr rfl]
    rfl
  · have downward := Binary64.scaled_ofInt_mono secondBounded firstBounded (Int.le_of_lt greater)
    rw [Int.compare_eq_gt.mpr greater, Ordering.then_eq_gt, Int.compare_eq_gt, Int.compare_eq_eq,
      and_iff_left rfl, eq_comm]
    exact Int.lt_or_eq_of_le downward

/-- What is compared by places on the line of numbers and then by ties is what the order says. -/
theorem Compared.compare?_eq {first second : Scalar} {order : Ordering}
    (compared : Compared first second order) : first.compare? second = some order := by
  have rounded {first second : Binary64} (firstNumber : first.isNaN = false)
      (secondNumber : second.isNaN = false) : first.compare? second =
        some ((compare first.scaled second.scaled).then .eq) := by
    rw [Binary64.compare?, firstNumber, secondNumber, Ordering.then_eq]
    rfl
  cases compared with
  | truths first second => rfl
  | texts first second => rfl
  | numbers firstStands secondStands =>
    cases firstStands with
    | integer firstFits =>
      cases secondStands with
      | integer secondFits => rw [tie, compare_then_compare firstFits secondFits, compare?]
      | number secondNumber => exact rounded (isNaN_ofInt firstFits) secondNumber
    | number firstNumber =>
      cases secondStands with
      | integer secondFits => exact rounded firstNumber (isNaN_ofInt secondFits)
      | number secondNumber => exact rounded firstNumber secondNumber

/-- Comparing the other way round reverses the outcome, the tie included. -/
theorem Compared.swap {first second : Scalar} {order : Ordering}
    (compared : Compared first second order) : Compared second first order.swap := by
  have oriented {first second : Int} : (compare first second).swap = compare second first :=
    Std.OrientedOrd.eq_swap.symm
  cases compared with
  | truths first second =>
    rw [← Std.OrientedOrd.eq_swap]
    exact .truths second first
  | texts first second =>
    rw [← Std.OrientedOrd.eq_swap]
    exact .texts second first
  | @numbers first second _ _ firstStands secondStands =>
    have tied : (tie first second).swap = tie second first := by
      cases first <;> cases second <;> first | rfl | exact oriented
    rw [Ordering.swap_then, oriented, tied]
    exact .numbers secondStands firstStands

/-- A number of a held literal stands somewhere. -/
theorem exists_stands {literal : Scalar} (held : literal.IsHeld) {number : Binary64}
    (numeric : literal.number? = some number) (isNumber : number.isNaN = false) :
    ∃ place, literal.Stands place := by
  cases literal with
  | int value => exact ⟨_, .integer held⟩
  | float value =>
    cases numeric
    exact ⟨_, .number isNumber⟩
  | bool value => cases numeric
  | str value => cases numeric

/-- Numbers that have an order are both numbers. -/
theorem isNaN_of_compare? {first second : Binary64} {order : Ordering}
    (ordered : first.compare? second = some order) :
    first.isNaN = false ∧ second.isNaN = false := by
  rw [← Bool.or_eq_false_iff]
  by_contra notNumber
  rw [Binary64.compare?, if_pos (Bool.of_not_eq_false notNumber)] at ordered
  cases ordered

/-- Held literals have exactly the order that is compared. -/
theorem compare?_eq_some_iff {first second : Scalar} (firstHeld : first.IsHeld)
    (secondHeld : second.IsHeld) (order : Ordering) :
    first.compare? second = some order ↔ Compared first second order := by
  refine ⟨fun ordered => ?_, Compared.compare?_eq⟩
  have determined {found : Ordering} (compared : Compared first second found) :
      Compared first second order := by
    have same := compared.compare?_eq
    rw [ordered, Option.some_inj] at same
    exact same ▸ compared
  unfold compare? at ordered
  split at ordered
  · exact determined (.numbers (.integer firstHeld) (.integer secondHeld))
  · exact determined (.texts _ _)
  · exact determined (.truths _ _)
  · split at ordered
    · rename_i firstNumeric secondNumeric
      obtain ⟨firstNumber, secondNumber⟩ := isNaN_of_compare? ordered
      obtain ⟨firstPlace, firstStands⟩ := exists_stands firstHeld firstNumeric firstNumber
      obtain ⟨secondPlace, secondStands⟩ := exists_stands secondHeld secondNumeric secondNumber
      exact determined (.numbers firstStands secondStands)
    · cases ordered

/-- A literal stands at one place of the line of numbers. -/
theorem Stands.unique {literal : Scalar} {first second : Int} (firstStands : literal.Stands first)
    (secondStands : literal.Stands second) : first = second := by
  cases firstStands <;> cases secondStands <;> rfl

/-! ### Chains -/

/-- A literal comes first if its place does, or if the places are one and the tie says so. -/
theorem then_tie_eq_lt_iff {firstPlace secondPlace : Int} {tied : Ordering} :
    (compare firstPlace secondPlace).then tied = .lt ↔
      firstPlace < secondPlace ∨ firstPlace = secondPlace ∧ tied = .lt := by
  rw [Ordering.then_eq_lt, Int.compare_eq_lt, Int.compare_eq_eq]

/-- Literals are equal in the order if their places are one and the tie does not tell them apart. -/
theorem then_tie_eq_eq_iff {firstPlace secondPlace : Int} {tied : Ordering} :
    (compare firstPlace secondPlace).then tied = .eq ↔ firstPlace = secondPlace ∧ tied = .eq := by
  rw [Ordering.then_eq_eq, Int.compare_eq_eq]

/-- Integers and a number are merged exactly if they stand at one place and the integers differ. -/
theorem merged_iff {first second : Int} (firstFits : Number.fitsSigned first = true)
    (secondFits : Number.fitsSigned second = true) {number : Binary64}
    (isNumber : number.isNaN = false) :
    Merged (.int first) (.int second) (.float number) ↔
      first ≠ second ∧ (Binary64.ofInt first).scaled = number.scaled ∧
        (Binary64.ofInt second).scaled = number.scaled := by
  rw [← Binary64.equals_iff (isNaN_ofInt firstFits) isNumber,
    ← Binary64.equals_iff (isNaN_ofInt secondFits) isNumber]
  constructor
  · intro merged
    refine ⟨fun same => merged.different (same ▸ rfl), merged.firstRounds, merged.secondRounds⟩
  · rintro ⟨different, firstRounds, secondRounds⟩
    exact ⟨fun same => different (Scalar.int.inj same), firstRounds, secondRounds⟩

/-- What the orders along a chain of three literals say of the order of its ends. -/
structure Chained (first second third : Scalar) (lower upper whole : Ordering) : Prop where
  equal : lower = .eq → upper = .eq → (whole = .eq ↔ ¬Merged first third second)
  strict : lower.isLE = true → upper.isLE = true → lower = .lt ∨ upper = .lt →
    (whole = .lt ↔ ¬Merged first second third ∧ ¬Merged second third first)

/-- Literals that do not merge are chained if they are ordered by values with a lawful order. -/
theorem chained_of_unmerged {first second third : Scalar} (byFirst : ¬Merged second third first)
    (bySecond : ¬Merged first third second) (byThird : ¬Merged first second third) {Value : Type}
    [Ord Value] [Std.TransOrd Value] (low middle high : Value) :
    Chained first second third (compare low middle) (compare middle high) (compare low high) := by
  constructor
  · intro lower upper
    exact iff_of_true (Std.TransCmp.eq_trans lower upper) bySecond
  · rintro lower upper (less | less)
    · exact iff_of_true (Std.TransCmp.lt_of_lt_of_isLE less upper) ⟨byThird, byFirst⟩
    · exact iff_of_true (Std.TransCmp.lt_of_isLE_of_lt lower less) ⟨byThird, byFirst⟩

section

variable {truth : Bool} {text : String} {value : Int} {other : Binary64} {first second : Scalar}

/-- Truth values take no part in merging. -/
theorem not_merged_of_truth : ¬Merged (.bool truth) first second := fun merged =>
  nomatch merged.firstRounds

/-- Strings take no part in merging. -/
theorem not_merged_of_text : ¬Merged (.str text) first second := fun merged =>
  nomatch merged.firstRounds

/-- Only integers are merged, so the first literal is none of the other numbers. -/
theorem not_merged_of_first : ¬Merged (.float other) first second := fun merged =>
  nomatch merged.firstRounds

/-- Only integers are merged, so the second literal is none of the other numbers. -/
theorem not_merged_of_second : ¬Merged first (.float other) second := fun merged =>
  nomatch merged.secondRounds

/-- Integers are merged by a number that they are rounded to, never by an integer. -/
theorem not_merged_of_integer : ¬Merged first second (.int value) := by
  rintro ⟨-, firstRounds, -⟩
  cases first <;> cases firstRounds

end

/-- Numbers are chained by where they stand, unless two of them are integers that stand at one
place. Three integers are chained as integers, since rounding keeps their order. Two integers and a
number merge if the number stands there too; in each place that it takes in the chain, a strict
step between the integers is then the only strict one. -/
theorem chained_of_stands {first second third : Scalar} {low middle high : Int}
    (firstStands : first.Stands low) (secondStands : second.Stands middle)
    (thirdStands : third.Stands high) :
    Chained first second third ((compare low middle).then (tie first second))
      ((compare middle high).then (tie second third))
      ((compare low high).then (tie first third)) := by
  have atMost_iff (order : Ordering) : order.isLE = true ↔ order = .lt ∨ order = .eq := by
    cases order <;> decide
  -- Only two integers can merge, so the cases differ in which two of the three literals are
  -- integers.
  cases firstStands with
  | integer firstFits =>
    cases secondStands with
    | integer secondFits =>
      cases thirdStands with
      | integer thirdFits =>
        rw [tie, tie, tie, compare_then_compare firstFits secondFits,
          compare_then_compare secondFits thirdFits, compare_then_compare firstFits thirdFits]
        apply chained_of_unmerged <;> exact not_merged_of_integer
      | number thirdNumber =>
        have merged := merged_iff firstFits secondFits thirdNumber
        constructor <;> grind [then_tie_eq_lt_iff, then_tie_eq_eq_iff, tie, Int.compare_eq_lt,
          not_merged_of_first, not_merged_of_second]
    | number secondNumber =>
      cases thirdStands with
      | integer thirdFits =>
        have merged := merged_iff firstFits thirdFits secondNumber
        constructor <;> grind [then_tie_eq_lt_iff, then_tie_eq_eq_iff, tie, Int.compare_eq_lt,
          not_merged_of_first, not_merged_of_second]
      | number thirdNumber =>
        simp only [tie, Ordering.then_eq]
        apply chained_of_unmerged <;> first | exact not_merged_of_first | exact not_merged_of_second
  | number firstNumber =>
    cases secondStands with
    | integer secondFits =>
      cases thirdStands with
      | integer thirdFits =>
        have merged := merged_iff secondFits thirdFits firstNumber
        constructor <;> grind [then_tie_eq_lt_iff, then_tie_eq_eq_iff, tie, Int.compare_eq_lt,
          not_merged_of_first, not_merged_of_second]
      | number thirdNumber =>
        simp only [tie, Ordering.then_eq]
        apply chained_of_unmerged <;> first | exact not_merged_of_first | exact not_merged_of_second
    | number secondNumber =>
      simp only [tie, Ordering.then_eq]
      exact chained_of_unmerged not_merged_of_first not_merged_of_first not_merged_of_first _ _ _

/-- Two comparisons in a row give a third one, and the three are lawful unless two of the literals
are integers that the other one merges. -/
theorem Compared.chain {first second third : Scalar} {lower upper : Ordering}
    (lowerPart : Compared first second lower) (upperPart : Compared second third upper) :
    ∃ whole, Compared first third whole ∧ Chained first second third lower upper whole := by
  cases lowerPart with
  | truths first second =>
    cases upperPart with
    | truths _ third =>
      exact ⟨_, .truths first third,
        chained_of_unmerged not_merged_of_truth not_merged_of_truth not_merged_of_truth _ _ _⟩
    | numbers stands => nomatch stands
  | texts first second =>
    cases upperPart with
    | texts _ third =>
      exact ⟨_, .texts first third,
        chained_of_unmerged not_merged_of_text not_merged_of_text not_merged_of_text _ _ _⟩
    | numbers stands => nomatch stands
  | numbers firstStands secondStands =>
    cases upperPart with
    | truths => nomatch secondStands
    | texts => nomatch secondStands
    | numbers secondAgain thirdStands =>
      cases secondStands.unique secondAgain
      exact ⟨_, .numbers firstStands thirdStands,
        chained_of_stands firstStands secondStands thirdStands⟩

/-- Of two integers that merge, one has more than fifty-three bits: a shorter one is a number
itself. -/
theorem Merged.exists_long {first second number : Scalar} (merged : Merged first second number) :
    ∃ value, (first = .int value ∨ second = .int value) ∧ 2 ^ 53 < value.natAbs := by
  have sameScaled {first second : Binary64} (equal : first.equals second = true) :
      first.scaled = second.scaled := by
    have ordered := beq_iff_eq.mp equal
    obtain ⟨firstNumber, secondNumber⟩ := isNaN_of_compare? ordered
    exact (Binary64.equals_iff firstNumber secondNumber).mp equal
  obtain ⟨different, firstRounds, secondRounds⟩ := merged
  unfold roundsTo at firstRounds secondRounds
  split at firstRounds
  · rename_i firstValue value
    split at secondRounds
    · rename_i secondValue _ same
      cases same
      by_contra short
      have firstShort : firstValue.natAbs ≤ 2 ^ 53 :=
        Nat.le_of_not_lt fun long => short ⟨firstValue, .inl rfl, long⟩
      have secondShort : secondValue.natAbs ≤ 2 ^ 53 :=
        Nat.le_of_not_lt fun long => short ⟨secondValue, .inr rfl, long⟩
      have scaled : firstValue * (Binary64.one : Int) = secondValue * Binary64.one := by
        rw [← Binary64.scaled_ofInt_of_short firstValue firstShort,
          ← Binary64.scaled_ofInt_of_short secondValue secondShort,
          sameScaled firstRounds, sameScaled secondRounds]
      have nonzero : (Binary64.one : Int) ≠ 0 := by decide +kernel
      exact different (congrArg Scalar.int (Int.eq_of_mul_eq_mul_right nonzero scaled))
    · cases secondRounds
  · cases firstRounds

section

variable {first second third : Scalar} (firstHeld : first.IsHeld) (secondHeld : second.IsHeld)
include firstHeld secondHeld

/-- The order of two literals the other way round is the reversed order. -/
theorem compare?_swap : second.compare? first = (first.compare? second).map Ordering.swap := by
  have reversed {first second : Scalar} {order : Ordering} (firstHeld : first.IsHeld)
      (secondHeld : second.IsHeld) (ordered : first.compare? second = some order) :
      second.compare? first = some order.swap :=
    ((compare?_eq_some_iff firstHeld secondHeld order).mp ordered).swap.compare?_eq
  cases forward : first.compare? second with
  | some order => exact reversed firstHeld secondHeld forward
  | none =>
    cases backward : second.compare? first with
    | none => rfl
    | some order =>
      rw [reversed secondHeld firstHeld backward] at forward
      cases forward

/-- The orders along a chain of held literals and the order of its ends. -/
theorem chained_of_compare? (thirdHeld : third.IsHeld) {lower upper : Ordering}
    (lowerPart : first.compare? second = some lower)
    (upperPart : second.compare? third = some upper) :
    ∃ whole, first.compare? third = some whole ∧
      Chained first second third lower upper whole := by
  rw [compare?_eq_some_iff firstHeld secondHeld] at lowerPart
  rw [compare?_eq_some_iff secondHeld thirdHeld] at upperPart
  obtain ⟨whole, compared, chained⟩ := lowerPart.chain upperPart
  exact ⟨whole, compared.compare?_eq, chained⟩

/-- For all literals that can be held, the order of two literals is the reverse of their order the
other way round. Two literals are equal in the order if they are equal, or if one is an integer and
the other one is the number that it is rounded to. Of a chain of literals that are equal in the
order, the ends are equal unless the middle merges them; and of an ascending chain with a strict
step, the first end comes before the last one unless one end merges the other one with the middle.
Of two integers that merge, one has more than fifty-three bits. -/
theorem order_lawful_up_to_rounding (thirdHeld : third.IsHeld) :
    second.compare? first = (first.compare? second).map Ordering.swap ∧
      (first.compare? second = some .eq ↔ first.equals second = true ∨
        first.roundsTo second = true ∨ second.roundsTo first = true) ∧
      (first.compare? second = some .eq → second.compare? third = some .eq →
        (first.compare? third = some .eq ↔ ¬Merged first third second)) ∧
      (first.AtMost second → second.AtMost third →
        first.compare? second = some .lt ∨ second.compare? third = some .lt →
        (first.compare? third = some .lt ↔
          ¬Merged first second third ∧ ¬Merged second third first)) ∧
      (Merged first second third → ∃ value, (first = .int value ∨ second = .int value) ∧
        2 ^ 53 < value.natAbs) := by
  refine ⟨compare?_swap firstHeld secondHeld, compare?_eq_some_eq_iff first second, ?_, ?_,
    Merged.exists_long⟩
  · intro lowerPart upperPart
    obtain ⟨whole, ordered, chained⟩ :=
      chained_of_compare? firstHeld secondHeld thirdHeld lowerPart upperPart
    rw [ordered, Option.some_inj]
    exact chained.equal rfl rfl
  · intro lowerPart upperPart strict
    obtain ⟨lower, lowerOrdered, lowerAtMost⟩ : ∃ lower, first.compare? second = some lower ∧
        lower.isLE = true := lowerPart.elim (⟨_, ·, rfl⟩) (⟨_, ·, rfl⟩)
    obtain ⟨upper, upperOrdered, upperAtMost⟩ : ∃ upper, second.compare? third = some upper ∧
        upper.isLE = true := upperPart.elim (⟨_, ·, rfl⟩) (⟨_, ·, rfl⟩)
    obtain ⟨whole, ordered, chained⟩ :=
      chained_of_compare? firstHeld secondHeld thirdHeld lowerOrdered upperOrdered
    rw [lowerOrdered, upperOrdered, Option.some_inj, Option.some_inj] at strict
    rw [ordered, Option.some_inj]
    exact chained.strict lowerAtMost upperAtMost strict

end

/-- The number `2 ^ 53` comes after neither of the integers `2 ^ 53` and `2 ^ 53 + 1`, which are
both rounded to it, and before the integer `2 ^ 53 + 2`. -/
theorem order_lawful_up_to_rounding_near_merged :
    let first : Scalar := .int 9007199254740993
    let second : Scalar := .float (.ofInt 9007199254740992)
    let third : Scalar := .int 9007199254740994
    first.IsHeld ∧ second.IsHeld ∧ third.IsHeld ∧ first.AtMost second ∧ second.AtMost third ∧
      first.compare? third = some .lt ∧ first.equals second = false ∧
      second.compare? first = some .eq ∧ Merged (.int 9007199254740992) first second := by
  intro first second third
  have firstHeld : first.IsHeld := rfl
  have secondHeld : second.IsHeld := trivial
  have thirdHeld : third.IsHeld := rfl
  have lowerPart : first.compare? second = some .eq := by decide +kernel
  have upperPart : second.compare? third = some .lt := by decide +kernel
  have merges : Merged (.int 9007199254740992) first second :=
    ⟨by decide, by decide +kernel, by decide +kernel⟩
  obtain ⟨reversed, -, -, ascends, -⟩ :=
    order_lawful_up_to_rounding firstHeld secondHeld thirdHeld
  have apart : ¬Merged first second third ∧ ¬Merged second third first :=
    ⟨not_merged_of_integer, not_merged_of_integer⟩
  refine ⟨firstHeld, secondHeld, thirdHeld, .inr lowerPart, .inl upperPart, ?_, rfl, ?_, merges⟩
  · exact (ascends (.inr lowerPart) (.inl upperPart) (.inr upperPart)).mpr apart
  · rw [reversed, lowerPart]
    rfl

/-- The integer and the number one are equal in the order and are different literals. The number
`2 ^ 53` is equal in the order to two integers, of which one comes before the other one: what is
equal to the number is not equal among itself, and a strict step up to the larger integer, followed
by the number, does not end above the smaller one. -/
theorem order_unlawful :
    Scalar.compare? (.int 1) (.float (.ofInt 1)) = some .eq ∧
      Scalar.equals (.int 1) (.float (.ofInt 1)) = false ∧
      IsHeld (.int 9007199254740992) ∧ IsHeld (.int 9007199254740993) ∧
      Scalar.compare? (.int 9007199254740992) (.float (.ofInt 9007199254740992)) = some .eq ∧
      Scalar.compare? (.float (.ofInt 9007199254740992)) (.int 9007199254740993) = some .eq ∧
      Scalar.compare? (.int 9007199254740992) (.int 9007199254740993) = some .lt ∧
      Scalar.compare? (.int 9007199254740993) (.float (.ofInt 9007199254740992)) = some .eq := by
  refine ⟨?_, rfl, rfl, rfl, ?_, ?_, by decide, ?_⟩
  · decide +kernel
  · decide +kernel
  · decide +kernel
  · decide +kernel

end Scalar

end SearchFilter
