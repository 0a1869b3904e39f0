import SearchFilter.Proofs.WellFormedTests
import Mathlib.Algebra.Ring.Nat

/-!
# The number nearest to an integer

Every number is a significand of fifty-three bits in some unit, and an integer is rounded to the
unit that leaves it as many bits. Rounding therefore never passes over a number: what lies on one
side of a number is rounded to that side or to the number itself. An integer that is a number is
rounded to itself.
-/

namespace SearchFilter.Binary64

/-! ### Rounding to a unit -/

/-- A quotient is not rounded beyond an integer that bounds it. -/
theorem roundHalfEven_le {numerator denominator bound : Nat} (positive : 0 < denominator)
    (within : numerator ≤ bound * denominator) : roundHalfEven numerator denominator ≤ bound := by
  have parts := Nat.div_add_mod numerator denominator
  have quotientWithin : numerator / denominator ≤ bound := by
    rw [← Nat.mul_div_cancel bound positive]
    exact Nat.div_le_div_right within
  obtain below | exact_ := Nat.lt_or_eq_of_le quotientWithin
  · unfold roundHalfEven
    dsimp only
    split_ifs <;> omega
  · have noRest : numerator % denominator = 0 := by
      rw [exact_, Nat.mul_comm] at parts
      omega
    unfold roundHalfEven
    rw [noRest]
    simp [positive, exact_]

/-- A quotient that reaches an integer is rounded to at least that integer. -/
theorem le_roundHalfEven {numerator denominator bound : Nat} (positive : 0 < denominator)
    (within : bound * denominator ≤ numerator) : bound ≤ roundHalfEven numerator denominator := by
  have quotientBeyond : bound ≤ numerator / denominator :=
    (Nat.le_div_iff_mul_le positive).mpr within
  unfold roundHalfEven
  dsimp only
  split_ifs <;> omega

/-- Rounding keeps the order of quotients with one denominator. -/
theorem roundHalfEven_mono {low high : Nat} (denominator : Nat) (ordered : low ≤ high) :
    roundHalfEven low denominator ≤ roundHalfEven high denominator := by
  have quotients : low / denominator ≤ high / denominator := Nat.div_le_div_right ordered
  obtain apart | same := Nat.lt_or_eq_of_le quotients
  · unfold roundHalfEven
    dsimp only
    split_ifs <;> omega
  · -- In one unit the quotients are equal, and the remainders are ordered as the numerators are.
    have lowParts := Nat.div_add_mod low denominator
    have highParts := Nat.div_add_mod high denominator
    rw [same] at lowParts
    unfold roundHalfEven
    dsimp only
    rw [same]
    split_ifs <;> omega

/-- How far from zero the number is that is nearest to a count of units of `2 ^ (-1074)`. -/
def rounded (units : Nat) : Nat :=
  roundHalfEven units (1 <<< (units.log2 - 52)) <<< (units.log2 - 52)

/-- Whether a count of units is a significand of fifty-three bits in a unit of its own. -/
def Representable (units : Nat) : Prop :=
  ∃ significand shift, significand < 2 ^ 53 ∧ units = significand * 2 ^ shift

/-- A short significand is representable in every unit. The shift is a variable here, so that no
power of two is computed where the unit is that of `one`. -/
theorem representable_shifted {significand : Nat} (short : significand < 2 ^ 53) (shift : Nat) :
    Representable (significand * 1 <<< shift) :=
  ⟨significand, shift, short, congrArg (significand * ·) (Nat.one_shiftLeft shift)⟩

/-- The magnitude of a number is representable: its significand has at most fifty-three bits. -/
theorem representable_magnitude (number : Binary64) : Representable number.magnitude := by
  have small : number.fraction < 2 ^ 52 := Nat.mod_lt _ (by decide)
  unfold magnitude
  split
  · exact ⟨number.fraction, 0, by omega, (Nat.mul_one _).symm⟩
  · refine ⟨leadingOne + number.fraction, number.biasedExponent - 1, ?_, Nat.shiftLeft_eq _ _⟩
    have leading : leadingOne = 2 ^ 52 := rfl
    omega

/-- The unit of a count that has more than fifty-three bits leaves it at least fifty-three. -/
theorem two_pow_le_of_log2 {units : Nat} (long : 0 < units.log2 - 52) :
    2 ^ (52 + (units.log2 - 52)) ≤ units := by
  have nonzero : units ≠ 0 := by
    rintro rfl
    simp at long
  have exponent : 52 + (units.log2 - 52) = units.log2 := by omega
  rw [exponent]
  exact Nat.log2_self_le nonzero

section

variable (units : Nat) {bound : Nat} (representable : Representable bound)
include representable

/-- A representable count is a whole number of the unit to which a count is rounded, or it is too
small for that unit. -/
theorem multiple_or_small :
    (∃ quotient, bound = quotient * 2 ^ (units.log2 - 52)) ∨
      0 < units.log2 - 52 ∧ bound < 2 ^ (52 + (units.log2 - 52)) := by
  obtain ⟨significand, shift, small, rfl⟩ := representable
  obtain coarse | fine := Nat.lt_or_ge shift (units.log2 - 52)
  · right
    refine ⟨by omega, ?_⟩
    calc significand * 2 ^ shift
        < 2 ^ 53 * 2 ^ shift := Nat.mul_lt_mul_of_pos_right small (Nat.two_pow_pos shift)
      _ = 2 ^ (53 + shift) := (Nat.pow_add 2 53 shift).symm
      _ ≤ 2 ^ (52 + (units.log2 - 52)) := Nat.pow_le_pow_right (by decide) (by omega)
  · left
    refine ⟨significand * 2 ^ (shift - (units.log2 - 52)), ?_⟩
    rw [Nat.mul_assoc, ← Nat.pow_add, Nat.sub_add_cancel fine]

/-- A count up to a representable one is rounded to at most that one. -/
theorem rounded_le (within : units ≤ bound) : rounded units ≤ bound := by
  rw [rounded, Nat.one_shiftLeft, Nat.shiftLeft_eq]
  have positive := Nat.two_pow_pos (units.log2 - 52)
  obtain ⟨quotient, rfl⟩ | ⟨long, small⟩ := multiple_or_small units representable
  · exact Nat.mul_le_mul_right _ (roundHalfEven_le positive within)
  · have large := two_pow_le_of_log2 long
    omega

/-- A count from a representable one on is rounded to at least that one. -/
theorem le_rounded (within : bound ≤ units) : bound ≤ rounded units := by
  rw [rounded, Nat.one_shiftLeft, Nat.shiftLeft_eq]
  have positive := Nat.two_pow_pos (units.log2 - 52)
  obtain ⟨quotient, rfl⟩ | ⟨long, small⟩ := multiple_or_small units representable
  · exact Nat.mul_le_mul_right _ (le_roundHalfEven positive within)
  · have large := two_pow_le_of_log2 long
    have leading : 2 ^ 52 ≤ roundHalfEven units (2 ^ (units.log2 - 52)) :=
      le_roundHalfEven positive (by rw [← Nat.pow_add]; exact large)
    calc bound
        ≤ 2 ^ (52 + (units.log2 - 52)) := Nat.le_of_lt small
      _ = 2 ^ 52 * 2 ^ (units.log2 - 52) := Nat.pow_add 2 52 _
      _ ≤ _ := Nat.mul_le_mul_right _ leading

end

/-- Rounding up to a power of two leaves a significand of one bit. -/
theorem representable_of_le {significand : Nat} (small : significand ≤ 2 ^ 53) (shift : Nat) :
    Representable (significand * 2 ^ shift) := by
  obtain below | full := Nat.lt_or_eq_of_le small
  · exact ⟨significand, shift, below, rfl⟩
  · refine ⟨2 ^ 52, shift + 1, by decide, ?_⟩
    rw [full, ← Nat.pow_add, ← Nat.pow_add]
    congr 1
    omega

/-- What a count is rounded to is representable, also where rounding up makes the significand one
bit longer. -/
theorem representable_rounded (units : Nat) : Representable (rounded units) := by
  have positive := Nat.two_pow_pos (units.log2 - 52)
  have bounded : units ≤ 2 ^ 53 * 2 ^ (units.log2 - 52) := by
    rw [← Nat.pow_add]
    refine Nat.le_trans (Nat.le_of_lt Nat.lt_log2_self) (Nat.pow_le_pow_right (by decide) ?_)
    omega
  rw [rounded, Nat.one_shiftLeft, Nat.shiftLeft_eq]
  exact representable_of_le (roundHalfEven_le positive bounded) _

/-- Rounding keeps the order of counts. Between counts of different lengths lies a power of two,
which is representable. -/
theorem rounded_mono {low high : Nat} (ordered : low ≤ high) : rounded low ≤ rounded high := by
  by_cases sameLength : low.log2 = high.log2
  · simp only [rounded, sameLength, Nat.shiftLeft_eq]
    apply Nat.mul_le_mul_right
    exact roundHalfEven_mono _ ordered
  · have nonzero : high ≠ 0 := by
      rintro rfl
      exact sameLength (by rw [Nat.le_zero.mp ordered])
    have power : Representable (2 ^ high.log2) := ⟨1, high.log2, by decide, (Nat.one_mul _).symm⟩
    have lowBelow : low ≤ 2 ^ high.log2 := by
      by_contra notBelow
      have beyond := Nat.lt_of_not_le notBelow
      have lowNonzero : low ≠ 0 := Nat.ne_zero_of_lt beyond
      have lowLong : high.log2 ≤ low.log2 := (Nat.le_log2 lowNonzero).mpr (Nat.le_of_lt beyond)
      have highLong : low.log2 ≤ high.log2 :=
        (Nat.le_log2 nonzero).mpr (Nat.le_trans (Nat.log2_self_le lowNonzero) ordered)
      exact sameLength (Nat.le_antisymm highLong lowLong)
    calc rounded low
        ≤ 2 ^ high.log2 := rounded_le low power lowBelow
      _ ≤ rounded high := le_rounded high power (Nat.log2_self_le nonzero)

/-! ### Fields -/

/-- The value of the sign bit. -/
def signUnit (negative : Bool) : Nat := if negative then 0x8000000000000000 else 0

/-- The number with these fields. -/
def ofFields (negative : Bool) (exponent field : Nat) : Binary64 :=
  ⟨(signUnit negative + exponent * leadingOne + field).toUInt64⟩

section

variable (isNegative : Bool) {exponent field : Nat} (exponentSmall : exponent < 2048)
  (fieldSmall : field < leadingOne)
include exponentSmall fieldSmall

/-- The three fields of a number do not overlap, so its word is their sum. -/
theorem word_ofFields :
    (ofFields isNegative exponent field).word =
      signUnit isNegative + exponent * leadingOne + field := by
  have leading : leadingOne = 0x10000000000000 := rfl
  rw [leading] at fieldSmall ⊢
  change (UInt64.ofNat _).toNat = _
  rw [UInt64.toNat_ofNat', leading]
  apply Nat.mod_eq_of_lt
  cases isNegative <;> simp only [signUnit, if_true, Bool.false_eq_true, if_false] <;> omega

/-- The sign is read back. -/
theorem negative_ofFields : (ofFields isNegative exponent field).negative = isNegative := by
  have leading : leadingOne = 0x10000000000000 := rfl
  rw [negative, word_ofFields isNegative exponentSmall fieldSmall]
  rw [leading] at fieldSmall ⊢
  cases isNegative <;> simp only [signUnit, if_true, Bool.false_eq_true, if_false] <;>
    simp only [decide_eq_true_eq, decide_eq_false_iff_not] <;> omega

/-- The exponent is read back. -/
theorem biasedExponent_ofFields :
    (ofFields isNegative exponent field).biasedExponent = exponent := by
  have leading : leadingOne = 0x10000000000000 := rfl
  rw [biasedExponent, word_ofFields isNegative exponentSmall fieldSmall, Nat.shiftRight_eq_div_pow]
  rw [leading] at fieldSmall ⊢
  cases isNegative <;> simp only [signUnit, if_true, Bool.false_eq_true, if_false] <;> omega

/-- The fraction is read back. -/
theorem fraction_ofFields : (ofFields isNegative exponent field).fraction = field := by
  have leading : leadingOne = 0x10000000000000 := rfl
  rw [fraction, word_ofFields isNegative exponentSmall fieldSmall]
  rw [leading] at fieldSmall ⊢
  cases isNegative <;> simp only [signUnit, if_true, Bool.false_eq_true, if_false] <;> omega

end

/-! ### Writing a magnitude -/

/-- A representable count is small, or its significand in its own unit has a leading one. -/
theorem Representable.normalized {units : Nat} (representable : Representable units) :
    units < leadingOne ∨ ∃ significand shift,
      leadingOne ≤ significand ∧ significand < 2 ^ 53 ∧ units = significand * 2 ^ shift := by
  refine or_iff_not_imp_left.mpr fun normal => ?_
  have nonzero : units ≠ 0 := by
    rintro rfl
    exact normal (by decide)
  have long : 52 ≤ units.log2 := by
    rw [Nat.le_log2 nonzero]
    exact Nat.le_of_not_lt normal
  have exponent : 52 + (units.log2 - 52) = units.log2 := by omega
  have above : 2 ^ (52 + (units.log2 - 52)) ≤ units := exponent.symm ▸ Nat.log2_self_le nonzero
  have below : units < 2 ^ (53 + (units.log2 - 52)) :=
    Nat.lt_of_lt_of_le Nat.lt_log2_self (Nat.pow_le_pow_right (by decide) (by omega))
  obtain ⟨significand, whole⟩ | ⟨-, small⟩ := multiple_or_small units representable
  · rw [Nat.pow_add] at above below
    refine ⟨significand, _, ?_, ?_, whole⟩
    · exact Nat.le_of_mul_le_mul_right (Nat.le_trans above (Nat.le_of_eq whole))
        (Nat.two_pow_pos _)
    · exact Nat.lt_of_mul_lt_mul_right (Nat.lt_of_le_of_lt (Nat.le_of_eq whole.symm) below)
  · omega

/-- A magnitude with a leading one is written with that one left out. -/
theorem ofMagnitude_normal (isNegative : Bool) {significand shift : Nat}
    (large : leadingOne ≤ significand) (small : significand < 2 ^ 53) (inRange : shift ≤ 2045) :
    ofMagnitude isNegative (significand * 2 ^ shift) =
      ofFields isNegative (shift + 1) (significand - leadingOne) := by
  have leading : leadingOne = 2 ^ 52 := rfl
  have positive := Nat.two_pow_pos shift
  have length : (significand * 2 ^ shift).log2 = 52 + shift := by
    rw [Nat.log2_eq_iff (Nat.mul_ne_zero (by omega) (by omega)), Nat.pow_add, ← leading]
    refine ⟨Nat.mul_le_mul_right _ large, ?_⟩
    have next : 2 ^ (52 + shift + 1) = 2 ^ 53 * 2 ^ shift := by
      rw [← Nat.pow_add]
      congr 1
      omega
    rw [next]
    exact Nat.mul_lt_mul_of_pos_right small positive
  have normal : ¬significand * 2 ^ shift < leadingOne :=
    Nat.not_lt.mpr (Nat.le_trans large (Nat.le_mul_of_pos_right _ positive))
  have field : (significand * 2 ^ shift) >>> shift = significand := by
    rw [Nat.shiftRight_eq_div_pow, Nat.mul_div_cancel _ positive]
  unfold ofMagnitude
  dsimp only
  rw [if_neg normal, length, Nat.add_sub_cancel_left, if_neg (Nat.not_lt.mpr inRange), field,
    Nat.shiftLeft_eq]
  rfl

/-- The first magnitude that no finite number has. -/
def unbounded : Nat := leadingOne <<< 2046

/-- A significand from a bound on and a shift from a bound on give at least the shifted bound. -/
theorem shiftLeft_le {least significand limit shift : Nat} (large : least ≤ significand)
    (reached : limit ≤ shift) : least <<< limit ≤ significand * 2 ^ shift := by
  rw [Nat.shiftLeft_eq]
  exact Nat.mul_le_mul large (Nat.pow_le_pow_right (by decide) reached)

/-- What the number is that is written for a magnitude. -/
structure Writes (written : Binary64) (isNegative : Bool) (magnitude : Nat) : Prop where
  magnitude : written.magnitude = magnitude
  negative : written.negative = isNegative
  finite : written.isFinite = true

/-- A representable magnitude that a finite number has is written exactly. -/
theorem writes_ofMagnitude (isNegative : Bool) {magnitude : Nat}
    (representable : Representable magnitude) (bounded : magnitude < unbounded) :
    Writes (ofMagnitude isNegative magnitude) isNegative magnitude := by
  -- A magnitude below the leading one is stored as it is; any other as its significand without the
  -- leading one.
  obtain subnormal | ⟨significand, shift, large, small, rfl⟩ := representable.normalized
  · have written : ofMagnitude isNegative magnitude = ofFields isNegative 0 magnitude := by
      rw [ofMagnitude, if_pos subnormal, ofFields, Nat.zero_mul]
      rfl
    have exponent : (ofFields isNegative 0 magnitude).biasedExponent = 0 :=
      biasedExponent_ofFields isNegative (by decide) subnormal
    rw [written]
    constructor
    · rw [Binary64.magnitude, if_pos exponent,
        fraction_ofFields isNegative (by decide) subnormal]
    · exact negative_ofFields isNegative (by decide) subnormal
    · rw [isFinite, exponent]
      rfl
  · have inRange : shift ≤ 2045 := by
      by_contra outOfRange
      have reached : unbounded ≤ _ := shiftLeft_le large (Nat.lt_of_not_le outOfRange)
      exact absurd bounded (Nat.not_lt.mpr reached)
    have exponentSmall : shift + 1 < 2048 := by omega
    have fieldSmall : significand - leadingOne < leadingOne := by
      have leading : leadingOne = 2 ^ 52 := rfl
      omega
    have exponent := biasedExponent_ofFields isNegative exponentSmall fieldSmall
    rw [ofMagnitude_normal isNegative large small inRange]
    constructor
    · rw [Binary64.magnitude, exponent, if_neg (Nat.succ_ne_zero shift),
        fraction_ofFields isNegative exponentSmall fieldSmall, Nat.add_sub_cancel,
        Nat.add_sub_cancel' large, Nat.shiftLeft_eq]
    · exact negative_ofFields isNegative exponentSmall fieldSmall
    · have different : shift + 1 ≠ 2047 := by omega
      rw [isFinite, exponent]
      exact bne_iff_ne.mpr different

/-- A magnitude that no finite number has is written as an infinity. -/
theorem ofMagnitude_of_unbounded (isNegative : Bool) {magnitude : Nat}
    (large : unbounded ≤ magnitude) : ofMagnitude isNegative magnitude = infinity isNegative := by
  have positive : 0 < unbounded := by decide +kernel
  have least : unbounded.log2 = 2098 := by decide +kernel
  have long : unbounded.log2 ≤ magnitude.log2 := by
    rw [Nat.le_log2 (Nat.pos_iff_ne_zero.mp (Nat.lt_of_lt_of_le positive large))]
    exact Nat.le_trans (Nat.log2_self_le (Nat.pos_iff_ne_zero.mp positive)) large
  have tooLong : 2045 < magnitude.log2 - 52 := by omega
  have normal : ¬magnitude < leadingOne :=
    Nat.not_lt.mpr (Nat.le_trans (by decide +kernel : leadingOne ≤ unbounded) large)
  unfold ofMagnitude
  dsimp only
  rw [if_neg normal, if_pos tooLong]

/-! ### Integers -/

/-- An integer is rounded by its distance from zero and keeps its sign. -/
theorem ofInt_eq (value : Int) :
    ofInt value = ofMagnitude (decide (value < 0)) (rounded (value.natAbs * one)) := by
  unfold ofInt nearest
  dsimp only
  rw [Nat.div_one, rounded]

/-- The integers up to the bound of sixty-four bits are far from the infinities. -/
theorem writes_ofInt (value : Int) (bounded : value.natAbs ≤ 2 ^ 64) :
    Writes (ofInt value) (decide (value < 0)) (rounded (value.natAbs * one)) := by
  have bound : Representable (2 ^ 64 * one) := ⟨1, 64 + 1074, by decide, by decide +kernel⟩
  have near : rounded (value.natAbs * one) ≤ 2 ^ 64 * one :=
    rounded_le _ bound (Nat.mul_le_mul_right one bounded)
  have far : 2 ^ 64 * one < unbounded := by decide +kernel
  rw [ofInt_eq]
  exact writes_ofMagnitude _ (representable_rounded _) (Nat.lt_of_le_of_lt near far)

section

variable (value : Int) (bounded : value.natAbs ≤ 2 ^ 64)
include bounded

/-- Integers of up to sixty-four bits are far from the infinities. -/
theorem isFinite_ofInt : (ofInt value).isFinite = true := (writes_ofInt value bounded).finite

/-- The value that an integer is rounded to has the sign of the integer and the rounded distance
from zero. -/
theorem scaled_ofInt :
    (ofInt value).scaled =
      if value < 0 then -(rounded (value.natAbs * one) : Int)
      else rounded (value.natAbs * one) := by
  have written := writes_ofInt value bounded
  rw [scaled, written.magnitude, written.negative]
  simp only [decide_eq_true_eq]

/-- An integer up to a number is rounded to at most that number. -/
theorem scaled_ofInt_le (number : Binary64) (within : value * one ≤ number.scaled) :
    (ofInt value).scaled ≤ number.scaled := by
  have apart := natAbs_scaled number
  have distance : ((value.natAbs * one : Nat) : Int) = value.natAbs * one := Int.natCast_mul _ _
  rw [scaled_ofInt value bounded]
  split
  · rename_i negative
    have size : (value.natAbs : Int) = -value := Int.ofNat_natAbs_of_nonpos (Int.le_of_lt negative)
    rw [size, Int.neg_mul] at distance
    obtain positive | below := Int.le_total 0 number.scaled
    · omega
    · have beyond := le_rounded (value.natAbs * one) (representable_magnitude number)
        (by omega)
      omega
  · rename_i positive
    have size : (value.natAbs : Int) = value := Int.natAbs_of_nonneg (Int.not_lt.mp positive)
    rw [size] at distance
    have upTo := rounded_le (value.natAbs * one) (representable_magnitude number)
      (by omega)
    omega

/-- An integer from a number on is rounded to at least that number. -/
theorem le_scaled_ofInt (number : Binary64) (within : number.scaled ≤ value * one) :
    number.scaled ≤ (ofInt value).scaled := by
  have apart := natAbs_scaled number
  have distance : ((value.natAbs * one : Nat) : Int) = value.natAbs * one := Int.natCast_mul _ _
  rw [scaled_ofInt value bounded]
  split
  · rename_i negative
    have size : (value.natAbs : Int) = -value := Int.ofNat_natAbs_of_nonpos (Int.le_of_lt negative)
    rw [size, Int.neg_mul] at distance
    have upTo := rounded_le (value.natAbs * one) (representable_magnitude number)
      (by omega)
    omega
  · rename_i positive
    have size : (value.natAbs : Int) = value := Int.natAbs_of_nonneg (Int.not_lt.mp positive)
    rw [size] at distance
    obtain above | negative := Int.le_total 0 number.scaled
    · have beyond := le_rounded (value.natAbs * one) (representable_magnitude number)
        (by omega)
      omega
    · omega

end

/-- Rounding keeps the order of integers. -/
theorem scaled_ofInt_mono {low high : Int} (lowBounded : low.natAbs ≤ 2 ^ 64)
    (highBounded : high.natAbs ≤ 2 ^ 64) (ordered : low ≤ high) :
    (ofInt low).scaled ≤ (ofInt high).scaled := by
  have sizes (near far : Int) (smaller : near.natAbs ≤ far.natAbs) :
      rounded (near.natAbs * one) ≤ rounded (far.natAbs * one) :=
    rounded_mono (Nat.mul_le_mul_right one smaller)
  rw [scaled_ofInt low lowBounded, scaled_ofInt high highBounded]
  split <;> split
  · have smaller := sizes high low (by omega)
    omega
  · omega
  · omega
  · have smaller := sizes low high (by omega)
    omega

/-- An integer of at most fifty-three bits is a number. -/
theorem scaled_ofInt_of_short (value : Int) (short : value.natAbs ≤ 2 ^ 53) :
    (ofInt value).scaled = value * one := by
  have representable : Representable (value.natAbs * one) := by
    obtain below | full := Nat.lt_or_eq_of_le short
    · exact representable_shifted below 1074
    · exact ⟨1, 53 + 1074, by decide, by rw [full]; decide +kernel⟩
  have same : rounded (value.natAbs * one) = value.natAbs * one :=
    Nat.le_antisymm (rounded_le _ representable (Nat.le_refl _))
      (le_rounded _ representable (Nat.le_refl _))
  have distance : ((value.natAbs * one : Nat) : Int) = value.natAbs * one := Int.natCast_mul _ _
  rw [scaled_ofInt value (Nat.le_trans short (by decide)), same, distance]
  split
  · rename_i negative
    rw [Int.ofNat_natAbs_of_nonpos (Int.le_of_lt negative), Int.neg_mul, Int.neg_neg]
  · rename_i positive
    rw [Int.natAbs_of_nonneg (Int.not_lt.mp positive)]

end SearchFilter.Binary64
