import SearchFilter.Proofs.NearestNumbers
import Mathlib.Data.Rat.Cast.Order

/-!
# Numbers compared with literals

The numbers of a document and the numbers among the literals denote rational numbers. Two signed
integers are compared as they are; otherwise an integer is rounded to the nearest number first.
Rounding passes over no number, so the order of what is compared is the order of what is denoted,
except where rounding merges two different numbers: those are taken for equal. An integer that is a
number itself, as all are that have at most fifty-three bits, merges with nothing.
-/

namespace SearchFilter

/-- The rational number that a finite number denotes. -/
def Binary64.toRat (number : Binary64) : ℚ := number.scaled / (Binary64.one : ℚ)

namespace Number

/-- The rational number that a number denotes. -/
def toRat : Number → ℚ
  | integer value => value
  | real value => value.toRat

/-- Whether a document can hold a number: an integer of sixty-four bits, signed or unsigned, or a
finite number. -/
def InDocument : Number → Prop
  | integer value => fitsDocument value = true
  | real value => value.isFinite = true

/-- Whether a literal can hold a number: an integer has to be signed. -/
def InLiteral : Number → Prop
  | integer value => fitsSigned value = true
  | real value => value.isFinite = true

/-- Whether a number can stand in a literal is decided by its range. -/
instance : (number : Number) → Decidable number.InLiteral
  | integer value => inferInstanceAs (Decidable (fitsSigned value = true))
  | real value => inferInstanceAs (Decidable (value.isFinite = true))

/-- A number as a literal. -/
def literal : Number → Scalar
  | integer value => .int value
  | real value => .float value

/-- Two different numbers that are not compared before rounding has made them one. -/
structure Merges (given wanted : Number) : Prop where
  mixed : given.signed? = none ∨ wanted.signed? = none
  different : given.toRat ≠ wanted.toRat
  rounded : given.toBinary64.toRat = wanted.toBinary64.toRat

/-- How a number of a document compares with a number of a literal: as the rational numbers do,
unless rounding merges them. -/
def Compares (given wanted : Number) : Ordering → Prop
  | .lt => given.toRat < wanted.toRat ∧ ¬given.Merges wanted
  | .eq => given.toRat = wanted.toRat ∨ given.Merges wanted
  | .gt => wanted.toRat < given.toRat ∧ ¬given.Merges wanted

/-- Whether a number lies above a lower bound at a number. -/
def LiesAbove (given : Number) : Bound → Prop
  | .unbounded => True
  | .included literal =>
    ∃ wanted : Number, wanted.literal = literal ∧
      (given.Compares wanted .gt ∨ given.Compares wanted .eq)
  | .excluded literal => ∃ wanted : Number, wanted.literal = literal ∧ given.Compares wanted .gt

/-- Whether a number lies below an upper bound at a number. -/
def LiesBelow (given : Number) : Bound → Prop
  | .unbounded => True
  | .included literal =>
    ∃ wanted : Number, wanted.literal = literal ∧
      (given.Compares wanted .lt ∨ given.Compares wanted .eq)
  | .excluded literal => ∃ wanted : Number, wanted.literal = literal ∧ given.Compares wanted .lt

/-! ### Units -/

/-- What a number denotes, in units of `2 ^ (-1074)`. -/
def units : Number → Int
  | integer value => value * Binary64.one
  | real value => value.scaled

end Number

/-- There is at least one unit in one. -/
theorem Binary64.one_pos : 0 < Binary64.one := by decide +kernel

namespace Number

/-- The value of a number is its count of units. -/
theorem toRat_eq (number : Number) : number.toRat = number.units / (Binary64.one : ℚ) := by
  cases number with
  | integer value =>
    have nonzero : (Binary64.one : ℚ) ≠ 0 := Nat.cast_ne_zero.mpr Binary64.one_pos.ne'
    rw [units, toRat, Int.cast_mul, Int.cast_natCast, mul_div_cancel_right₀ _ nonzero]
  | real value => rfl

/-- Values are ordered as the counts of units are. -/
theorem toRat_le_iff (first second : Number) :
    first.toRat ≤ second.toRat ↔ first.units ≤ second.units := by
  have positive : (0 : ℚ) < Binary64.one := Nat.cast_pos.mpr Binary64.one_pos
  rw [toRat_eq, toRat_eq, div_le_div_iff_of_pos_right positive, Int.cast_le]

/-- Values are strictly ordered as the counts of units are. -/
theorem toRat_lt_iff (first second : Number) :
    first.toRat < second.toRat ↔ first.units < second.units := by
  rw [← not_le, toRat_le_iff, not_le]

/-- Values are equal if the counts of units are. -/
theorem toRat_eq_iff (first second : Number) :
    first.toRat = second.toRat ↔ first.units = second.units := by
  rw [le_antisymm_iff, le_antisymm_iff, toRat_le_iff, toRat_le_iff]

end Number

/-- Floating-point numbers have equal values if their counts of units are equal, whatever their
signs of zero are. -/
theorem Binary64.toRat_eq_iff (first second : Binary64) :
    first.toRat = second.toRat ↔ first.scaled = second.scaled :=
  Number.toRat_eq_iff (.real first) (.real second)

/-! ### Rounding keeps the order -/

namespace Number

/-- What can stand in a literal can stand in a document, which also has integers without a sign. -/
theorem InLiteral.inDocument {number : Number} (inLiteral : number.InLiteral) :
    number.InDocument := by
  cases number with
  | integer value =>
    simp only [InLiteral, InDocument, fitsSigned, fitsDocument, Bool.and_eq_true,
      decide_eq_true_eq] at inLiteral ⊢
    omega
  | real value => exact inLiteral

/-- An integer of a document is small enough to be rounded to a finite number. -/
theorem natAbs_le_of_fitsDocument {value : Int} (fits : fitsDocument value = true) :
    value.natAbs ≤ 2 ^ 64 := by
  simp only [fitsDocument, Bool.and_eq_true, decide_eq_true_eq] at fits
  omega

/-- The number that a number of a document is rounded to is finite. -/
theorem isFinite_toBinary64 {number : Number} (inDocument : number.InDocument) :
    number.toBinary64.isFinite = true := by
  cases number with
  | integer value => exact Binary64.isFinite_ofInt value (natAbs_le_of_fitsDocument inDocument)
  | real value => exact inDocument

/-- An integer that is not signed is at least as large as a number that no signed integer reaches.
-/
theorem scaled_le_scaled_of_unsigned {low high : Int} (lowFits : fitsDocument low = true)
    (highFits : fitsDocument high = true) (lowSmall : low ≤ 2 ^ 63) (highLarge : 2 ^ 63 ≤ high) :
    (Binary64.ofInt low).scaled ≤ (Binary64.ofInt high).scaled := by
  have edge : (Binary64.ofInt (2 ^ 63)).scaled = 2 ^ 63 * Binary64.one := by decide +kernel
  have positive : (0 : Int) ≤ Binary64.one := Int.natCast_nonneg _
  have below : (Binary64.ofInt low).scaled ≤ (Binary64.ofInt (2 ^ 63)).scaled :=
    Binary64.scaled_ofInt_le low (natAbs_le_of_fitsDocument lowFits) _
      (edge ▸ Int.mul_le_mul_of_nonneg_right lowSmall positive)
  have above : (Binary64.ofInt (2 ^ 63)).scaled ≤ (Binary64.ofInt high).scaled :=
    Binary64.le_scaled_ofInt high (natAbs_le_of_fitsDocument highFits) _
      (edge ▸ Int.mul_le_mul_of_nonneg_right highLarge positive)
  exact Int.le_trans below above

/-- Of two numbers that are rounded before they are compared, the smaller one is not rounded to
more than the larger one. -/
theorem scaled_le_scaled {low high : Number} (lowFits : low.InDocument) (highFits : high.InDocument)
    (mixed : low.signed? = none ∨ high.signed? = none) (signed : low.InLiteral ∨ high.InLiteral)
    (ordered : low.units ≤ high.units) : low.toBinary64.scaled ≤ high.toBinary64.scaled := by
  cases low with
  | real low =>
    cases high with
    | real high => exact ordered
    | integer high =>
      exact Binary64.le_scaled_ofInt high (natAbs_le_of_fitsDocument highFits) low ordered
  | integer low =>
    cases high with
    | real high =>
      exact Binary64.scaled_ofInt_le low (natAbs_le_of_fitsDocument lowFits) high ordered
    | integer high =>
      have positive : (0 : Int) < Binary64.one := Int.natCast_pos.mpr Binary64.one_pos
      have smaller : low ≤ high := Int.le_of_mul_le_mul_right ordered positive
      have oneUnsigned : fitsSigned low = false ∨ fitsSigned high = false := by
        simpa [signed?] using mixed
      simp only [InLiteral] at signed
      simp only [InDocument] at lowFits highFits
      have sides : low ≤ 2 ^ 63 ∧ 2 ^ 63 ≤ high := by
        simp only [fitsSigned, fitsDocument, Bool.and_eq_true, Bool.and_eq_false_iff,
          decide_eq_true_eq, decide_eq_false_iff_not] at lowFits highFits oneUnsigned signed
        omega
      exact scaled_le_scaled_of_unsigned lowFits highFits sides.1 sides.2

/-! ### Comparing -/

section

variable {given wanted : Number} (given_ : given.InDocument) (wanted_ : wanted.InLiteral)
include given_ wanted_

/-- Numbers that are not both signed integers are compared after rounding. -/
theorem compareValue?_mixed (mixed : given.signed? = none ∨ wanted.signed? = none) :
    wanted.literal.compareValue? (.number given) =
      some (compare given.toBinary64.scaled wanted.toBinary64.scaled) := by
  have givenNumber := Binary64.isNaN_of_isFinite _ (isFinite_toBinary64 given_)
  have wantedNumber := Binary64.isNaN_of_isFinite _ (isFinite_toBinary64 wanted_.inDocument)
  have rounded : given.toBinary64.compare? wanted.toBinary64 =
      some (compare given.toBinary64.scaled wanted.toBinary64.scaled) := by
    rw [Binary64.compare?, givenNumber, wantedNumber]
    rfl
  rw [← rounded]
  cases wanted with
  | real value => rfl
  | integer value =>
    have signed : (Number.integer value).signed? = some value := if_pos wanted_
    have unsigned : given.signed? = none := mixed.resolve_right (signed ▸ Option.some_ne_none value)
    rw [literal, Scalar.compareValue?, unsigned]
    rfl

/-- Signed integers are compared as they are. -/
theorem compareValue?_signed (signed : ¬(given.signed? = none ∨ wanted.signed? = none)) :
    wanted.literal.compareValue? (.number given) = some (compare given.units wanted.units) := by
  obtain ⟨givenSigned, wantedSigned⟩ := not_or.mp signed
  cases given with
  | real value => exact absurd rfl givenSigned
  | integer givenValue =>
    cases wanted with
    | real value => exact absurd rfl wantedSigned
    | integer wantedValue =>
      have fits : (Number.integer givenValue).signed? = some givenValue := by
        by_contra unsigned
        exact givenSigned (if_neg fun fits => unsigned (if_pos fits))
      have positive : (0 : Int) < Binary64.one := Int.natCast_pos.mpr Binary64.one_pos
      have scaled : compare (givenValue * Binary64.one : Int) (wantedValue * Binary64.one) =
          compare givenValue wantedValue := by
        obtain less | rfl | greater := Int.lt_trichotomy givenValue wantedValue
        · rw [Int.compare_eq_lt.mpr less,
            Int.compare_eq_lt.mpr (Int.mul_lt_mul_of_pos_right less positive)]
        · rw [Int.compare_eq_eq.mpr rfl, Int.compare_eq_eq.mpr rfl]
        · rw [Int.compare_eq_gt.mpr greater,
            Int.compare_eq_gt.mpr (Int.mul_lt_mul_of_pos_right greater positive)]
      rw [literal, Scalar.compareValue?, fits, units, units, scaled]

/-- What is compared is the order of the rational numbers, except for numbers that merge. -/
theorem compareValue?_eq_some_iff (order : Ordering) :
    wanted.literal.compareValue? (.number given) = some order ↔ given.Compares wanted order := by
  by_cases mixed : given.signed? = none ∨ wanted.signed? = none
  · have upward := scaled_le_scaled given_ wanted_.inDocument mixed (.inr wanted_)
    have downward := scaled_le_scaled wanted_.inDocument given_ mixed.symm (.inl wanted_)
    have merges : given.Merges wanted ↔ given.units ≠ wanted.units ∧
        given.toBinary64.scaled = wanted.toBinary64.scaled := by
      rw [← Binary64.toRat_eq_iff, Ne, ← toRat_eq_iff]
      constructor
      · exact fun merged => ⟨merged.different, merged.rounded⟩
      · exact fun ⟨different, rounded⟩ => ⟨mixed, different, rounded⟩
    rw [compareValue?_mixed given_ wanted_ mixed, Option.some.injEq]
    cases order with
    | lt =>
      rw [Int.compare_eq_lt, Compares, merges, toRat_lt_iff]
      omega
    | eq =>
      rw [Int.compare_eq_eq, Compares, merges, toRat_eq_iff]
      omega
    | gt =>
      rw [Int.compare_eq_gt, Compares, merges, toRat_lt_iff]
      omega
  · have apart : ¬given.Merges wanted := fun merged => mixed merged.mixed
    rw [compareValue?_signed given_ wanted_ mixed, Option.some.injEq]
    cases order with
    | lt => rw [Int.compare_eq_lt, Compares, toRat_lt_iff, and_iff_left apart]
    | eq => rw [Int.compare_eq_eq, Compares, toRat_eq_iff, or_iff_left apart]
    | gt => rw [Int.compare_eq_gt, Compares, toRat_lt_iff, and_iff_left apart]

end

/-- Of two numbers that merge, one is an integer that is no number itself, so it has more than
fifty-three bits. -/
theorem Merges.exists_long {given wanted : Number} (merged : given.Merges wanted) :
    ∃ value, (given = .integer value ∨ wanted = .integer value) ∧
      (Binary64.ofInt value).toRat ≠ value ∧ 2 ^ 53 < value.natAbs := by
  by_contra none
  have exact_ (number : Number) (one : number = given ∨ number = wanted) :
      number.toBinary64.toRat = number.toRat := by
    cases number with
    | real value => rfl
    | integer value =>
      by_contra inexact
      have short : ¬2 ^ 53 < value.natAbs := fun long =>
        none ⟨value, one.imp Eq.symm Eq.symm, inexact, long⟩
      have same := Binary64.scaled_ofInt_of_short value (Nat.le_of_not_lt short)
      exact inexact ((toRat_eq_iff (.real (.ofInt value)) (.integer value)).mpr same)
  apply merged.different
  rw [← exact_ given (.inl rfl), ← exact_ wanted (.inr rfl)]
  exact merged.rounded

/-! ### Tests -/

/-- Whether all literals are numbers that a literal can hold. -/
def AreAll (literals : List Scalar) : Prop :=
  ∀ literal ∈ literals, ∃ wanted : Number, wanted.InLiteral ∧ wanted.literal = literal

/-- What is asked of some number with a literal is asked of the number itself, since the literal
tells it. -/
theorem exists_literal_iff (wanted : Number) (holds : Number → Prop) :
    (∃ number : Number, number.literal = wanted.literal ∧ holds number) ↔ holds wanted := by
  constructor
  · rintro ⟨number, same, held⟩
    have equal : number = wanted := by
      cases number <;> cases wanted <;> cases same <;> rfl
    exact equal ▸ held
  · exact fun held => ⟨wanted, rfl, held⟩

/-- What is not a number has no order with a number. -/
theorem compareValue?_eq_none (wanted : Number) (value : Json)
    (other : ∀ given, value ≠ .number given) : wanted.literal.compareValue? value = none := by
  cases value with
  | number given => exact absurd rfl (other given)
  | _ => cases wanted <;> rfl

/-- A value is equal to a numeric literal exactly if it is a number that compares as equal. -/
theorem equalsValue_iff {wanted : Number} (wanted_ : wanted.InLiteral) {value : Json}
    (spelled : ∀ given, value = .number given → given.InDocument) :
    wanted.literal.equalsValue value = true ↔
      ∃ given, value = .number given ∧ given.Compares wanted .eq := by
  rw [Scalar.equalsValue, decide_eq_true_eq]
  by_cases numeric : ∃ given, value = .number given
  · obtain ⟨given, rfl⟩ := numeric
    rw [compareValue?_eq_some_iff (spelled given rfl) wanted_]
    constructor
    · exact fun equal => ⟨given, rfl, equal⟩
    · rintro ⟨_, same, equal⟩
      cases same
      exact equal
  · rw [compareValue?_eq_none wanted value fun given same => numeric ⟨given, same⟩]
    constructor
    · exact nofun
    · exact fun ⟨given, same, _⟩ => absurd ⟨given, same⟩ numeric

section

variable {given : Number} (given_ : given.InDocument) (bound : Bound)
  (numeric : AreAll bound.scalar?.toList)
include given_ numeric

/-- A numeric bound is below a number exactly if the number lies above it. -/
theorem isBelow_iff : bound.isBelow (.number given) = true ↔ given.LiesAbove bound := by
  cases bound with
  | unbounded => exact iff_of_true rfl trivial
  | included literal =>
    obtain ⟨wanted, wanted_, rfl⟩ := numeric literal (.head _)
    rw [Bound.isBelow, LiesAbove, exists_literal_iff wanted, Bool.or_eq_true, decide_eq_true_eq,
      decide_eq_true_eq, compareValue?_eq_some_iff given_ wanted_,
      compareValue?_eq_some_iff given_ wanted_]
  | excluded literal =>
    obtain ⟨wanted, wanted_, rfl⟩ := numeric literal (.head _)
    rw [Bound.isBelow, LiesAbove, exists_literal_iff wanted, decide_eq_true_eq,
      compareValue?_eq_some_iff given_ wanted_]

/-- A numeric bound is above a number exactly if the number lies below it. -/
theorem isAbove_iff : bound.isAbove (.number given) = true ↔ given.LiesBelow bound := by
  cases bound with
  | unbounded => exact iff_of_true rfl trivial
  | included literal =>
    obtain ⟨wanted, wanted_, rfl⟩ := numeric literal (.head _)
    rw [Bound.isAbove, LiesBelow, exists_literal_iff wanted, Bool.or_eq_true, decide_eq_true_eq,
      decide_eq_true_eq, compareValue?_eq_some_iff given_ wanted_,
      compareValue?_eq_some_iff given_ wanted_]
  | excluded literal =>
    obtain ⟨wanted, wanted_, rfl⟩ := numeric literal (.head _)
    rw [Bound.isAbove, LiesBelow, exists_literal_iff wanted, decide_eq_true_eq,
      compareValue?_eq_some_iff given_ wanted_]

end

/-- What is not a number lies on neither side of a number. -/
theorem outside_of_not_number {bound : Bound} (numeric : AreAll bound.scalar?.toList)
    (bounded : bound ≠ .unbounded) (value : Json) (other : ∀ given, value ≠ .number given) :
    bound.isBelow value = false ∧ bound.isAbove value = false := by
  cases bound with
  | unbounded => exact absurd rfl bounded
  | included literal =>
    obtain ⟨wanted, -, rfl⟩ := numeric literal (.head _)
    rw [Bound.isBelow, Bound.isAbove, compareValue?_eq_none wanted value other]
    exact ⟨rfl, rfl⟩
  | excluded literal =>
    obtain ⟨wanted, -, rfl⟩ := numeric literal (.head _)
    rw [Bound.isBelow, Bound.isAbove, compareValue?_eq_none wanted value other]
    exact ⟨rfl, rfl⟩

/-- An interval with a numeric end contains a value exactly if that is a number between the ends. -/
theorem contains_iff {interval : Interval} (ended : interval.ends ≠ [])
    (numeric : AreAll interval.ends) {value : Json}
    (spelled : ∀ given, value = .number given → given.InDocument) :
    interval.contains value = true ↔
      ∃ given, value = .number given ∧
        given.LiesAbove interval.lower ∧ given.LiesBelow interval.upper := by
  obtain ⟨lowerNumeric, upperNumeric⟩ := List.forall_mem_append.mp numeric
  rw [Interval.contains, Bool.and_eq_true]
  by_cases isNumber : ∃ given, value = .number given
  · obtain ⟨given, rfl⟩ := isNumber
    rw [isBelow_iff (spelled given rfl) _ lowerNumeric,
      isAbove_iff (spelled given rfl) _ upperNumeric]
    constructor
    · exact fun inside => ⟨given, rfl, inside⟩
    · rintro ⟨_, same, inside⟩
      cases same
      exact inside
  · have other (given : Number) : value ≠ .number given := fun same => isNumber ⟨given, same⟩
    refine iff_of_false ?_ fun ⟨given, same, _⟩ => other given same
    rintro ⟨above, below⟩
    by_cases lowerBounded : interval.lower = .unbounded
    · have upperBounded : interval.upper ≠ .unbounded := by
        intro upperUnbounded
        rw [Interval.ends, lowerBounded, upperUnbounded] at ended
        exact ended rfl
      rw [(outside_of_not_number upperNumeric upperBounded value other).2] at below
      cases below
    · rw [(outside_of_not_number lowerNumeric lowerBounded value other).1] at above
      cases above

/-- If a test on single values passes numbers only, it passes a value of a list exactly if it passes
a number of the list. -/
theorem any_iff {values : List Json} {passes : Json → Bool} {holds : Number → Prop}
    (each : ∀ value ∈ values,
      passes value = true ↔ ∃ given, value = .number given ∧ holds given) :
    values.any passes = true ↔ ∃ given, .number given ∈ values ∧ holds given := by
  rw [List.any_eq_true]
  constructor
  · rintro ⟨value, isLeaf, passed⟩
    obtain ⟨given, rfl, held⟩ := (each value isLeaf).mp passed
    exact ⟨given, isLeaf, held⟩
  · rintro ⟨given, isLeaf, held⟩
    exact ⟨_, isLeaf, (each _ isLeaf).mpr ⟨given, rfl, held⟩⟩

end Number

/-! ### Queries -/

namespace Query

section

variable (field : String) (document : Json)
  (spelled : ∀ given, .number given ∈ document.leaves (Path.segments field) → given.InDocument)
include spelled

/-- A query for a numeric literal selects the documents with a number at the path that compares as
equal. -/
theorem selects_term_iff {wanted : Number} (wanted_ : wanted.InLiteral) :
    (Query.test field (.term wanted.literal)).selects document = true ↔
      ∃ given, .number given ∈ document.leaves (Path.segments field) ∧
        given.Compares wanted .eq := by
  rw [selects_test _ _ _ rfl, Test.holds]
  apply Number.any_iff
  intro value isLeaf
  exact Number.equalsValue_iff wanted_ fun given same => spelled given (same ▸ isLeaf)

/-- A query for one of several numeric literals selects the documents with a number at the path that
compares as equal to one of them. -/
theorem selects_anyTerm_iff {wanted : List Number} (all : ∀ number ∈ wanted, number.InLiteral) :
    (Query.test field (.termSet .any (wanted.map Number.literal))).selects document = true ↔
      ∃ given, .number given ∈ document.leaves (Path.segments field) ∧
        ∃ number ∈ wanted, given.Compares number .eq := by
  rw [selects_test _ _ _ rfl, Test.holds]
  apply Number.any_iff
  intro value isLeaf
  have one (number : Number) (isWanted : number ∈ wanted) :=
    Number.equalsValue_iff (all number isWanted) fun given same => spelled given (same ▸ isLeaf)
  rw [List.any_map, List.any_eq_true]
  constructor
  · rintro ⟨number, isWanted, equal⟩
    obtain ⟨given, same, compares⟩ := (one number isWanted).mp equal
    exact ⟨given, same, number, isWanted, compares⟩
  · rintro ⟨given, same, number, isWanted, compares⟩
    exact ⟨number, isWanted, (one number isWanted).mpr ⟨given, same, compares⟩⟩

/-- A query for all of several numeric literals selects the documents that have for each of them a
number at the path that compares as equal. -/
theorem selects_allTerms_iff {wanted : List Number} (all : ∀ number ∈ wanted, number.InLiteral) :
    (Query.test field (.termSet .all (wanted.map Number.literal))).selects document = true ↔
      ∀ number ∈ wanted, ∃ given, .number given ∈ document.leaves (Path.segments field) ∧
        given.Compares number .eq := by
  rw [selects_test _ _ _ rfl, Test.holds, List.all_map, List.all_eq_true]
  apply forall₂_congr
  intro number isWanted
  apply Number.any_iff
  intro value isLeaf
  exact Number.equalsValue_iff (all number isWanted) fun given same => spelled given (same ▸ isLeaf)

/-- A query for a numeric range selects the documents with a number at the path that lies between
the ends. -/
theorem selects_range_iff {interval : Interval} (ended : interval.ends ≠ [])
    (numeric : Number.AreAll interval.ends) :
    (Query.test field (.range interval)).selects document = true ↔
      ∃ given, .number given ∈ document.leaves (Path.segments field) ∧
        given.LiesAbove interval.lower ∧ given.LiesBelow interval.upper := by
  rw [selects_test _ _ _ rfl, Test.holds]
  apply Number.any_iff
  intro value isLeaf
  exact Number.contains_iff ended numeric fun given same => spelled given (same ▸ isLeaf)

/-- Terms, sets of terms and ranges compare the numbers of a field with their literals as the
rational numbers that they denote, except for numbers that rounding merges; then one of the two is
an integer of more than fifty-three bits. -/
theorem numbers_compare_up_to_rounding :
    (∀ wanted : Number, wanted.InLiteral →
      ((Query.test field (.term wanted.literal)).selects document = true ↔
        ∃ given, .number given ∈ document.leaves (Path.segments field) ∧
          given.Compares wanted .eq)) ∧
    (∀ wanted : List Number, (∀ number ∈ wanted, number.InLiteral) →
      ((Query.test field (.termSet .any (wanted.map Number.literal))).selects document = true ↔
        ∃ given, .number given ∈ document.leaves (Path.segments field) ∧
          ∃ number ∈ wanted, given.Compares number .eq) ∧
      ((Query.test field (.termSet .all (wanted.map Number.literal))).selects document = true ↔
        ∀ number ∈ wanted, ∃ given, .number given ∈ document.leaves (Path.segments field) ∧
          given.Compares number .eq)) ∧
    (∀ interval : Interval, interval.ends ≠ [] → Number.AreAll interval.ends →
      ((Query.test field (.range interval)).selects document = true ↔
        ∃ given, .number given ∈ document.leaves (Path.segments field) ∧
          given.LiesAbove interval.lower ∧ given.LiesBelow interval.upper)) ∧
    ∀ given wanted : Number, given.Merges wanted →
      ∃ value, (given = .integer value ∨ wanted = .integer value) ∧
        (Binary64.ofInt value).toRat ≠ value ∧ 2 ^ 53 < value.natAbs := by
  refine ⟨fun wanted wanted_ => selects_term_iff field document spelled wanted_,
    fun wanted all => ⟨?_, ?_⟩, fun interval => selects_range_iff field document spelled,
    fun given wanted => Number.Merges.exists_long⟩
  · exact selects_anyTerm_iff field document spelled all
  · exact selects_allTerms_iff field document spelled all

end

/-- The field holds a small integer and the integer `2 ^ 53 + 1`, which merges with the number
`2 ^ 53`. -/
theorem numbers_compare_up_to_rounding_of_pair :
    let document : Json := .object [("f", .array [.integer 7, .integer 9007199254740993])]
    let interval : Interval := ⟨.included (.int 7), .excluded (.float (.ofInt 9))⟩
    let wanted : Number := .real (.ofInt 9007199254740992)
    (∀ given, .number given ∈ document.leaves (Path.segments "f") → given.InDocument) ∧
      interval.ends ≠ [] ∧ Number.AreAll interval.ends ∧ wanted.InLiteral ∧
      Number.Merges (.integer 9007199254740993) wanted ∧
      (Query.test "f" (.range interval)).selects document = true ∧
      (∃ given, .number given ∈ document.leaves (Path.segments "f") ∧
        given.LiesAbove interval.lower ∧ given.LiesBelow interval.upper) ∧
      ∃ given, .number given ∈ document.leaves (Path.segments "f") ∧
        given.Compares wanted .eq := by
  intro document interval wanted
  have spelled (given : Number) (isLeaf : .number given ∈ document.leaves (Path.segments "f")) :
      given.InDocument := by
    have either : Json.number given ∈ [Json.integer 7, Json.integer 9007199254740993] := isLeaf
    cases either with
    | head => rfl
    | tail _ rest => cases List.mem_singleton.mp rest; rfl
  have numeric : Number.AreAll interval.ends := by
    refine List.forall_mem_cons.mpr ⟨⟨.integer 7, rfl, rfl⟩, List.forall_mem_singleton.mpr ?_⟩
    exact ⟨.real (.ofInt 9), by decide +kernel, rfl⟩
  have wanted_ : wanted.InLiteral := by decide +kernel
  have different : Number.toRat (.integer 9007199254740993) ≠ wanted.toRat := by
    rw [Ne, Number.toRat_eq_iff]
    decide +kernel
  have rounded : (Number.integer 9007199254740993).toBinary64.toRat = wanted.toBinary64.toRat := by
    rw [Binary64.toRat_eq_iff]
    decide +kernel
  have inside : (Query.test "f" (.range interval)).selects document = true := by decide +kernel
  have equal : (Query.test "f" (.term wanted.literal)).selects document = true := by
    decide +kernel
  obtain ⟨terms, -, ranges, -⟩ := numbers_compare_up_to_rounding "f" document spelled
  exact ⟨spelled, nofun, numeric, wanted_, ⟨.inr rfl, different, rounded⟩, inside,
    (ranges interval nofun numeric).mp inside, (terms wanted wanted_).mp equal⟩

/-- The number `2 ^ 53` is equal to two integers as a literal, and as a value of a field it does
not lie below the larger one. -/
theorem numbers_merged :
    Number.InLiteral (.real (.ofInt 9007199254740992)) ∧
      Number.InLiteral (.integer 9007199254740993) ∧
      Number.toRat (.real (.ofInt 9007199254740992)) = Number.toRat (.integer 9007199254740992) ∧
      Number.toRat (.real (.ofInt 9007199254740992)) < Number.toRat (.integer 9007199254740993) ∧
      (Query.test "f" (.term (.float (.ofInt 9007199254740992)))).selects
        (.object [("f", .integer 9007199254740992)]) = true ∧
      (Query.test "f" (.term (.float (.ofInt 9007199254740992)))).selects
        (.object [("f", .integer 9007199254740993)]) = true ∧
      (Query.test "f" (.range ⟨.unbounded, .excluded (.int 9007199254740993)⟩)).selects
        (.object [("f", .number (.real (.ofInt 9007199254740992)))]) = false := by
  rw [Number.toRat_eq_iff, Number.toRat_lt_iff]
  decide +kernel

end Query

end SearchFilter
