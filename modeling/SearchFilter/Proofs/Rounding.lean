import SearchFilter.Proofs.NumericComparison
import Mathlib.Algebra.Order.Ring.Abs
import Mathlib.Tactic.Linarith

/-!
# Rounding to the nearest number

A value that is not negative is rounded to the nearest number, and from the middle between two
numbers to the one of them that is even. The numbers with a clear sign bit form a ladder, in which
the next rung is as far away as the exponent says; what is rounded to a rung lies between the
middles to its two neighbours. The quotient that is rounded by its remainder lies there, so that
rounding by remainders is rounding to nearest, and no value lies there for two rungs.
-/

namespace SearchFilter.Binary64

/-- Whether a value that is not negative is rounded to a number: the number is finite and has a
clear sign bit, no other finite number is nearer to the value, and the number is even if another one
is as near. Values from half a unit of the last place above the largest finite number are too large.
-/
structure Rounds (value : ℚ) (number : Binary64) : Prop where
  finite : number.isFinite = true
  positive : number.negative = false
  inRange : value < 2 ^ 1024 - 2 ^ 970
  nearest : ∀ other : Binary64, other.isFinite = true →
    |number.toRat - value| ≤ |other.toRat - value|
  even : ∀ other : Binary64, other.isFinite = true →
    |number.toRat - value| = |other.toRat - value| →
      other.toRat = number.toRat ∨ number.fraction % 2 = 0

/-! ### Rungs -/

/-- How many bits the unit of the last place is above the finest one at a rung. -/
def rungShift (rank : Nat) : Nat := rank / leadingOne - 1

/-- The rungs of the ladder, in units of `2 ^ (-1074)`. The rank of a rung is the exponent field
followed by the fraction field. -/
def rung (rank : Nat) : Nat := (rank - rungShift rank * leadingOne) * 2 ^ rungShift rank

/-- A significand with a leading one, or one in the finest unit, stands at the rung that has it
added to the exponent. -/
theorem rung_add {significand shift : Nat} (small : significand ≤ 2 * leadingOne)
    (large : shift = 0 ∨ leadingOne ≤ significand) :
    rung (significand + shift * leadingOne) = significand * 2 ^ shift := by
  have leading : leadingOne = 0x10000000000000 := rfl
  obtain full | below := Nat.eq_or_lt_of_le small
  · have next : rungShift (significand + shift * leadingOne) = shift + 1 := by
      rw [rungShift, full, leading]
      omega
    have rest : significand + shift * leadingOne - (shift + 1) * leadingOne = leadingOne := by
      rw [full, leading]
      omega
    rw [rung, next, rest, full, Nat.pow_succ, Nat.mul_comm (2 ^ shift) 2, ← Nat.mul_assoc,
      Nat.mul_comm leadingOne 2]
  · have same : rungShift (significand + shift * leadingOne) = shift := by
      rw [rungShift]
      rw [leading] at large below ⊢
      omega
    rw [rung, same, Nat.add_sub_cancel]

/-- The next rung is one unit of the last place further. -/
theorem rung_succ (rank : Nat) : rung (rank + 1) = rung rank + 2 ^ rungShift rank := by
  have leading : leadingOne = 0x10000000000000 := rfl
  let shift := rungShift rank
  have split : rank - shift * leadingOne + shift * leadingOne = rank := by
    apply Nat.sub_add_cancel
    simp only [shift, rungShift]
    rw [leading]
    omega
  have small : rank - shift * leadingOne + 1 ≤ 2 * leadingOne := by
    simp only [shift, rungShift]
    rw [leading]
    omega
  have large : shift = 0 ∨ leadingOne ≤ rank - shift * leadingOne + 1 := by
    simp only [shift, rungShift]
    rw [leading]
    omega
  have next : rank + 1 = rank - shift * leadingOne + 1 + shift * leadingOne := by omega
  calc rung (rank + 1)
      = rung (rank - shift * leadingOne + 1 + shift * leadingOne) := congrArg rung next
    _ = (rank - shift * leadingOne + 1) * 2 ^ shift := rung_add small large
    _ = rung rank + 2 ^ shift := Nat.succ_mul _ _

/-- Every rung lies above the one before it. -/
theorem rung_strictMono : StrictMono rung := by
  apply strictMono_nat_of_lt_succ
  intro rank
  rw [rung_succ]
  exact Nat.lt_add_of_pos_right (Nat.two_pow_pos _)

/-- The rank of the first number that is not finite. -/
abbrev infinityRank : Nat := 2047 * leadingOne

/-- The rung after the largest finite number is the first power of two that no finite number
reaches. -/
theorem rung_infinityRank : rung infinityRank = unbounded := by decide +kernel

/-- The rung of a number. -/
def rank (number : Binary64) : Nat := number.biasedExponent * leadingOne + number.fraction

/-- The fraction field is shorter than a leading one. -/
theorem fraction_lt (number : Binary64) : number.fraction < leadingOne := Nat.mod_lt _ (by decide)

/-- The finite numbers are those whose rank is below that of the infinity. -/
theorem isFinite_iff_rank (number : Binary64) :
    number.isFinite = true ↔ number.rank < infinityRank := by
  have small := number.fraction_lt
  have fits : number.biasedExponent < 2048 := Nat.mod_lt _ (by decide)
  have leading : leadingOne = 0x10000000000000 := rfl
  rw [isFinite, bne_iff_ne, rank, infinityRank]
  rw [leading] at small ⊢
  omega

/-- The distance of a number from zero is its rung. -/
theorem magnitude_eq_rung (number : Binary64) : number.magnitude = rung number.rank := by
  have small := number.fraction_lt
  have leading : leadingOne = 0x10000000000000 := rfl
  unfold magnitude
  split
  · rename_i subnormal
    have inFinest := @rung_add number.fraction 0 (by omega) (.inl rfl)
    rw [Nat.zero_mul, Nat.add_zero, Nat.pow_zero, Nat.mul_one] at inFinest
    rw [rank, subnormal, Nat.zero_mul, Nat.zero_add, inFinest]
  · rename_i normal
    have split : number.rank =
        leadingOne + number.fraction + (number.biasedExponent - 1) * leadingOne := by
      rw [rank, leading]
      omega
    rw [split, rung_add (by omega) (.inr (Nat.le_add_right _ _)), Nat.shiftLeft_eq]

/-- The word of a number is its rank with the sign bit in front. -/
theorem word_eq (number : Binary64) : number.word = signUnit number.negative + number.rank := by
  have bounded : number.word < 2 ^ 64 := UInt64.toNat_lt number.bits
  have leading : leadingOne = 0x10000000000000 := rfl
  rw [rank, biasedExponent, fraction, Nat.shiftRight_eq_div_pow, signUnit, negative]
  rw [leading]
  simp only [decide_eq_true_eq]
  split <;> omega

/-- A number is its sign and its rung. -/
theorem eq_of_rank {number other : Binary64} (sameSign : number.negative = other.negative)
    (sameRank : number.rank = other.rank) : number = other := by
  have sameWord : number.word = other.word := by rw [word_eq, word_eq, sameSign, sameRank]
  cases number
  cases other
  exact congrArg Binary64.mk (UInt64.toNat_inj.mp sameWord)

/-- Every rung below infinity is the rung of a finite number with a clear sign bit. -/
theorem exists_rank {place : Nat} (finite : place < infinityRank) :
    ∃ number : Binary64, number.isFinite = true ∧ number.negative = false ∧
      number.rank = place := by
  have leading : leadingOne = 0x10000000000000 := rfl
  have exponentSmall : place / leadingOne < 2048 := by
    rw [infinityRank] at finite
    rw [leading] at finite ⊢
    omega
  have fieldSmall : place % leadingOne < leadingOne := Nat.mod_lt _ (by decide)
  let number := ofFields false (place / leadingOne) (place % leadingOne)
  have ranked : number.rank = place := by
    rw [rank, biasedExponent_ofFields false exponentSmall fieldSmall,
      fraction_ofFields false exponentSmall fieldSmall, Nat.mul_comm]
    exact Nat.div_add_mod place leadingOne
  refine ⟨number, ?_, negative_ofFields false exponentSmall fieldSmall, ranked⟩
  rw [isFinite_iff_rank, ranked]
  exact finite

/-- A number is even or odd as its rank is. -/
theorem fraction_mod_two (number : Binary64) : number.fraction % 2 = number.rank % 2 := by
  rw [rank, leadingOne]
  omega

/-! ### What is rounded to a rung -/

/-- Whether a count of units is in reach of a rung: it lies between the middles to the neighbours of
the rung, on one of them only if the rung is even. -/
structure InReach (place : Nat) (units : ℚ) : Prop where
  low : (rung (place - 1) : ℚ) + rung place ≤ 2 * units
  high : 2 * units ≤ (rung place : ℚ) + rung (place + 1)
  even : 2 * units = (rung (place - 1) : ℚ) + rung place ∨
    2 * units = (rung place : ℚ) + rung (place + 1) → place % 2 = 0

/-- What is rounded to a rung is not negative. -/
theorem InReach.nonneg {place : Nat} {units : ℚ} (reaches : InReach place units) : 0 ≤ units := by
  have low := reaches.low
  have rungNonneg : (0 : ℚ) ≤ rung place := Nat.cast_nonneg _
  have beforeNonneg : (0 : ℚ) ≤ rung (place - 1) := Nat.cast_nonneg _
  linarith

/-- No count is in reach of two rungs: neighbouring rungs are not both even. -/
theorem InReach.unique {place other : Nat} {units : ℚ} (reaches : InReach place units)
    (otherReaches : InReach other units) : place = other := by
  wlog ordered : place ≤ other generalizing place other
  · exact (this otherReaches reaches (Nat.le_of_not_le ordered)).symm
  by_contra different
  have apart : place + 1 ≤ other := by omega
  have before : place ≤ other - 1 := by omega
  have lower : (rung place : ℚ) ≤ rung (other - 1) :=
    Nat.cast_le.mpr (rung_strictMono.monotone before)
  have upper : (rung (place + 1) : ℚ) ≤ rung other :=
    Nat.cast_le.mpr (rung_strictMono.monotone apart)
  have high := reaches.high
  have low := otherReaches.low
  have sameRung : (rung (place + 1) : ℚ) = rung other := by linarith
  have neighbours : place + 1 = other := rung_strictMono.injective (Nat.cast_injective sameRung)
  have isEven := reaches.even (.inr (by linarith))
  have otherIsEven := otherReaches.even (.inl (by linarith))
  omega

/-- The reach of a rung compared in integers, as multiples of a denominator. -/
theorem inReach_div_iff {place numerator denominator : Nat} (positive : 0 < denominator) :
    InReach place ((numerator : ℚ) / denominator) ↔
      (rung (place - 1) + rung place) * denominator ≤ 2 * numerator ∧
        2 * numerator ≤ (rung place + rung (place + 1)) * denominator ∧
          (2 * numerator = (rung (place - 1) + rung place) * denominator ∨
            2 * numerator = (rung place + rung (place + 1)) * denominator → place % 2 = 0) := by
  have positiveRat : (0 : ℚ) < denominator := Nat.cast_pos.mpr positive
  have doubled : 2 * ((numerator : ℚ) / denominator) =
      ((2 * numerator : Nat) : ℚ) / denominator := by
    rw [Nat.cast_mul, Nat.cast_ofNat, mul_div_assoc]
  have low (bound : Nat) : (bound : ℚ) ≤ 2 * ((numerator : ℚ) / denominator) ↔
      bound * denominator ≤ 2 * numerator := by
    rw [doubled, le_div_iff₀ positiveRat, ← Nat.cast_mul, Nat.cast_le]
  have high (bound : Nat) : 2 * ((numerator : ℚ) / denominator) ≤ bound ↔
      2 * numerator ≤ bound * denominator := by
    rw [doubled, div_le_iff₀ positiveRat, ← Nat.cast_mul, Nat.cast_le]
  have same (bound : Nat) : 2 * ((numerator : ℚ) / denominator) = bound ↔
      2 * numerator = bound * denominator := by
    rw [doubled, div_eq_iff positiveRat.ne', ← Nat.cast_mul, Nat.cast_inj]
  rw [← low, ← high, ← same, ← same, Nat.cast_add, Nat.cast_add]
  constructor
  · rintro ⟨isLow, isHigh, isEven⟩
    exact ⟨isLow, isHigh, isEven⟩
  · rintro ⟨isLow, isHigh, isEven⟩
    exact ⟨isLow, isHigh, isEven⟩

/-- Of two values the smaller one is at least as near exactly up to the middle. -/
theorem small_nearer_iff {small large : ℚ} (ordered : small < large) (value : ℚ) :
    |small - value| ≤ |large - value| ↔ 2 * value ≤ small + large := by
  rw [← sq_le_sq]
  constructor
  · intro nearer
    nlinarith
  · intro upTo
    nlinarith

/-- The larger of two values is at least as near as the smaller one exactly from the middle between
them on. -/
theorem large_nearer_iff {small large : ℚ} (ordered : small < large) (value : ℚ) :
    |large - value| ≤ |small - value| ↔ small + large ≤ 2 * value := by
  rw [← sq_le_sq]
  constructor
  · intro nearer
    nlinarith
  · intro beyond
    nlinarith

/-- Whether a rung is at least as near to a count of units as another one, and even if it is not
nearer. -/
structure Preferred (place other : Nat) (units : ℚ) : Prop where
  nearest : |(rung place : ℚ) - units| ≤ |(rung other : ℚ) - units|
  even : |(rung place : ℚ) - units| = |(rung other : ℚ) - units| →
    other = place ∨ place % 2 = 0

/-- The rung that a count is in reach of is preferred to every rung. -/
theorem InReach.preferred {place : Nat} {units : ℚ} (reaches : InReach place units) (other : Nat) :
    Preferred place other units := by
  have low := reaches.low
  have high := reaches.high
  obtain below | rfl | above := Nat.lt_trichotomy other place
  · have ordered : (rung other : ℚ) < rung place := Nat.cast_lt.mpr (rung_strictMono below)
    have upTo : (rung other : ℚ) ≤ rung (place - 1) :=
      Nat.cast_le.mpr (rung_strictMono.monotone (Nat.le_sub_one_of_lt below))
    refine ⟨(large_nearer_iff ordered units).mpr (by linarith), fun same => .inr ?_⟩
    have middle := (small_nearer_iff ordered units).mp same.ge
    exact reaches.even (.inl (by linarith))
  · exact ⟨le_refl _, fun _ => .inl rfl⟩
  · have ordered : (rung place : ℚ) < rung other := Nat.cast_lt.mpr (rung_strictMono above)
    have upFrom : (rung (place + 1) : ℚ) ≤ rung other :=
      Nat.cast_le.mpr (rung_strictMono.monotone above)
    refine ⟨(small_nearer_iff ordered units).mpr (by linarith), fun same => .inr ?_⟩
    have middle := (large_nearer_iff ordered units).mp same.ge
    exact reaches.even (.inr (by linarith))

/-- What a rung has to be preferred for to its upper neighbour. -/
theorem Preferred.high {place : Nat} {units : ℚ} (preferred : Preferred place (place + 1) units) :
    2 * units ≤ (rung place : ℚ) + rung (place + 1) ∧
      (2 * units = (rung place : ℚ) + rung (place + 1) → place % 2 = 0) := by
  have ordered : (rung place : ℚ) < rung (place + 1) :=
    Nat.cast_lt.mpr (rung_strictMono (Nat.lt_succ_self place))
  refine ⟨(small_nearer_iff ordered units).mp preferred.nearest, fun middle => ?_⟩
  have same := le_antisymm preferred.nearest ((large_nearer_iff ordered units).mpr middle.ge)
  exact (preferred.even same).resolve_left (Nat.succ_ne_self place)

/-- What is rounded to a rung rather than to the one below it lies above the middle, or on it if the
rung is even. -/
theorem Preferred.low {place : Nat} {units : ℚ} (above : 0 < place)
    (preferred : Preferred place (place - 1) units) :
    (rung (place - 1) : ℚ) + rung place ≤ 2 * units ∧
      (2 * units = (rung (place - 1) : ℚ) + rung place → place % 2 = 0) := by
  have before : place - 1 < place := Nat.sub_one_lt_of_lt above
  have ordered : (rung (place - 1) : ℚ) < rung place := Nat.cast_lt.mpr (rung_strictMono before)
  refine ⟨(large_nearer_iff ordered units).mp preferred.nearest, fun middle => ?_⟩
  have same := le_antisymm preferred.nearest ((small_nearer_iff ordered units).mpr middle.le)
  exact (preferred.even same).resolve_left before.ne

/-- The first value that is too large, in units, is the middle between the largest finite number and
infinity. -/
theorem limit_eq :
    2 * ((2 ^ 1024 - 2 ^ 970) * (one : ℚ)) = (rung (infinityRank - 1) : ℚ) + rung infinityRank := by
  have whole : 2 * (2 ^ 1024 * one) =
      rung (infinityRank - 1) + rung infinityRank + 2 * (2 ^ 970 * one) := by decide +kernel
  have cast := congrArg (Nat.cast : Nat → ℚ) whole
  simp only [Nat.cast_add, Nat.cast_mul, Nat.cast_pow, Nat.cast_ofNat] at cast
  rw [sub_mul, mul_sub, cast, add_sub_cancel_right]

/-- What is in reach of a finite number is in range: the largest finite number is odd, and does not
reach the middle. -/
theorem InReach.inRange {place : Nat} {units : ℚ} (reaches : InReach place units)
    (fits : place < infinityRank) :
    2 * units < (rung (infinityRank - 1) : ℚ) + rung infinityRank := by
  have high := reaches.high
  obtain below | last := Nat.lt_or_eq_of_le (Nat.le_sub_one_of_lt fits)
  · have rungs : (rung place : ℚ) < rung (infinityRank - 1) :=
      Nat.cast_lt.mpr (rung_strictMono below)
    have nextRungs : (rung (place + 1) : ℚ) ≤ rung infinityRank :=
      Nat.cast_le.mpr (rung_strictMono.monotone (Nat.le_of_lt (Nat.succ_lt_of_lt_pred below)))
    linarith
  · have next : place + 1 = infinityRank := congrArg (· + 1) last
    have isOdd : place % 2 = 1 := by
      rw [last]
      rfl
    rw [← next, Nat.add_sub_cancel]
    refine high.lt_of_ne fun middle => ?_
    have isEven := reaches.even (.inr middle)
    omega

section

variable {value : ℚ} (number : Binary64)

/-- The number of units in one is positive. -/
theorem one_pos_rat : (0 : ℚ) < one := Nat.cast_pos.mpr one_pos

/-- Distances between numbers may be compared in units. -/
theorem distance_mul_one (value : ℚ) :
    |number.toRat - value| * one = |(number.scaled : ℚ) - value * one| := by
  have cancelled : number.toRat * one = number.scaled := div_mul_cancel₀ _ one_pos_rat.ne'
  rw [← cancelled, ← sub_mul, abs_mul, abs_of_pos one_pos_rat]

/-- With a clear sign bit the count of units is the rung itself. -/
theorem scaled_of_positive (positive : number.negative = false) :
    (number.scaled : ℚ) = rung number.rank := by
  rw [scaled, positive, if_neg Bool.false_ne_true, magnitude_eq_rung, Int.cast_natCast]

/-- A number to which a value is rounded is preferred to every finite number. -/
theorem Rounds.preferred {number : Binary64} (rounds : Rounds value number) {place : Nat}
    (inFinite : place < infinityRank) : Preferred number.rank place (value * one) := by
  obtain ⟨other, finite, positive, rfl⟩ := exists_rank inFinite
  have own := scaled_of_positive number rounds.positive
  have others := scaled_of_positive other positive
  constructor
  · rw [← own, ← others, ← distance_mul_one, ← distance_mul_one]
    exact mul_le_mul_of_nonneg_right (rounds.nearest other finite) one_pos_rat.le
  · intro same
    rw [← own, ← others, ← distance_mul_one, ← distance_mul_one] at same
    have sameDistance := mul_right_cancel₀ one_pos_rat.ne' same
    refine (rounds.even other finite sameDistance).imp (fun sameValue => ?_) fun isEven => ?_
    · have sameScaled := (toRat_eq_iff other number).mp sameValue
      have sameRung : (rung other.rank : ℚ) = rung number.rank := by
        rw [← own, ← others, sameScaled]
      exact rung_strictMono.injective (Nat.cast_injective sameRung)
    · rwa [fraction_mod_two] at isEven

/-- What is rounded to a number is in reach of its rung: the rung is preferred to its neighbours,
and where the upper one is infinity the range ends in the middle. -/
theorem Rounds.inReach {number : Binary64} (nonneg : 0 ≤ value) (rounds : Rounds value number) :
    InReach number.rank (value * one) := by
  have finite := (isFinite_iff_rank number).mp rounds.finite
  have low : (rung (number.rank - 1) : ℚ) + rung number.rank ≤ 2 * (value * one) ∧
      (2 * (value * one) = (rung (number.rank - 1) : ℚ) + rung number.rank →
        number.rank % 2 = 0) := by
    obtain lowest | above := Nat.eq_zero_or_pos number.rank
    · have origin : rung 0 = 0 := rfl
      have positive := mul_nonneg nonneg one_pos_rat.le
      simp only [lowest, origin, Nat.zero_sub, Nat.cast_zero, Nat.zero_mod, implies_true, and_true]
      linarith
    · exact (rounds.preferred (Nat.lt_of_le_of_lt (Nat.sub_le _ _) finite)).low above
  have high : 2 * (value * one) ≤ (rung number.rank : ℚ) + rung (number.rank + 1) ∧
      (2 * (value * one) = (rung number.rank : ℚ) + rung (number.rank + 1) →
        number.rank % 2 = 0) := by
    obtain inFinite | last := Nat.lt_or_eq_of_le (Nat.succ_le_of_lt finite)
    · exact (rounds.preferred inFinite).high
    · have isLast : number.rank = infinityRank - 1 := Nat.eq_sub_of_add_eq last
      have isNext : number.rank + 1 = infinityRank := last
      have tooSmall : 2 * (value * one) < (rung number.rank : ℚ) + rung (number.rank + 1) := by
        rw [isNext, isLast, ← limit_eq]
        exact mul_lt_mul_of_pos_left (mul_lt_mul_of_pos_right rounds.inRange one_pos_rat) two_pos
      exact ⟨tooSmall.le, fun middle => absurd middle tooSmall.ne⟩
  exact ⟨low.1, high.1, fun middle => middle.elim low.2 high.2⟩

/-- Without its sign the count of units is the rung. -/
theorem abs_scaled (number : Binary64) : |(number.scaled : ℚ)| = rung number.rank := by
  rw [← magnitude_eq_rung, ← natAbs_scaled, Nat.cast_natAbs, Int.cast_abs]

/-- A number is not nearer to a value that is not negative than the positive number on its rung. -/
theorem rung_nearer {units : ℚ} (nonneg : 0 ≤ units) :
    |(rung number.rank : ℚ) - units| ≤ |(number.scaled : ℚ) - units| := by
  have triangle := abs_abs_sub_abs_le (number.scaled : ℚ) units
  rwa [abs_scaled, abs_of_nonneg nonneg] at triangle

/-- Only zero is as near as its opposite. -/
theorem InReach.scaled_eq {other : Binary64} {units : ℚ} (reaches : InReach other.rank units)
    (same : |(rung other.rank : ℚ) - units| = |(other.scaled : ℚ) - units|) :
    (other.scaled : ℚ) = rung other.rank := by
  obtain unsigned | opposite := eq_or_eq_neg_of_abs_eq (abs_scaled other)
  · exact unsigned
  · rw [opposite] at same ⊢
    have low := reaches.low
    have rungNonneg : (0 : ℚ) ≤ rung other.rank := Nat.cast_nonneg _
    have beforeNonneg : (0 : ℚ) ≤ rung (other.rank - 1) := Nat.cast_nonneg _
    obtain towards | away := abs_eq_abs.mp same
    · linarith
    · linarith

/-- A finite number is what the values in reach of its rung are rounded to. -/
theorem InReach.rounds {number : Binary64} (finite : number.isFinite = true)
    (positive : number.negative = false) (reaches : InReach number.rank (value * one)) :
    Rounds value number := by
  have own := scaled_of_positive number positive
  constructor
  · exact finite
  · exact positive
  · have inRange := reaches.inRange ((isFinite_iff_rank number).mp finite)
    rw [← limit_eq] at inRange
    exact lt_of_mul_lt_mul_right (lt_of_mul_lt_mul_left inRange two_pos.le) one_pos_rat.le
  · intro other _
    refine le_of_mul_le_mul_right ?_ one_pos_rat
    rw [distance_mul_one, distance_mul_one, own]
    exact (reaches.preferred other.rank).nearest.trans (rung_nearer other reaches.nonneg)
  · intro other _ same
    have sameDistance : |(rung number.rank : ℚ) - value * one| =
        |(other.scaled : ℚ) - value * one| := by
      rw [← own, ← distance_mul_one, ← distance_mul_one, same]
    have preferred := reaches.preferred other.rank
    have sameNearest := le_antisymm preferred.nearest
      ((rung_nearer other reaches.nonneg).trans sameDistance.ge)
    refine (preferred.even sameNearest).imp (fun sameRank => ?_) fun isEven => ?_
    · rw [← sameRank] at reaches sameDistance
      rw [toRat_eq_iff, ← Int.cast_inj (α := ℚ), own, ← sameRank]
      exact reaches.scaled_eq sameDistance
    · rwa [fraction_mod_two]

/-- A value that is not negative is rounded to a number exactly if the number is finite and has a
clear sign bit and the value is in reach of its rung. -/
theorem rounds_iff (nonneg : 0 ≤ value) :
    Rounds value number ↔ number.isFinite = true ∧ number.negative = false ∧
      InReach number.rank (value * one) := by
  constructor
  · intro rounds
    exact ⟨rounds.finite, rounds.positive, rounds.inReach nonneg⟩
  · rintro ⟨finite, positive, reaches⟩
    exact reaches.rounds finite positive

/-- A value is rounded to one number at most. -/
theorem Rounds.unique {number other : Binary64} (nonneg : 0 ≤ value)
    (rounds : Rounds value number) (otherRounds : Rounds value other) : number = other := by
  apply eq_of_rank
  · rw [rounds.positive, otherRounds.positive]
  · exact (rounds.inReach nonneg).unique (otherRounds.inReach nonneg)

end

/-! ### Rounding by remainders -/

/-- How far an integer is from the quotient that is rounded to it: at most a half, and a half only
if the integer is even. -/
structure HalfEven (numerator denominator integer : Nat) : Prop where
  low : 2 * (integer * denominator) ≤ 2 * numerator + denominator
  high : 2 * numerator ≤ 2 * (integer * denominator) + denominator
  even : 2 * (integer * denominator) = 2 * numerator + denominator ∨
    2 * numerator = 2 * (integer * denominator) + denominator → integer % 2 = 0

/-- Rounding by the remainder gives the nearest integer, and in the middle the even one. -/
theorem halfEven_roundHalfEven (numerator : Nat) {denominator : Nat} (positive : 0 < denominator) :
    HalfEven numerator denominator (roundHalfEven numerator denominator) := by
  have parts := Nat.div_add_mod' numerator denominator
  have small := Nat.mod_lt numerator positive
  have next : (numerator / denominator + 1) * denominator =
      numerator / denominator * denominator + denominator := Nat.succ_mul _ _
  unfold roundHalfEven
  dsimp only
  split_ifs
  · constructor <;> omega
  · constructor <;> omega
  · obtain isEven | isOdd := Nat.mod_two_eq_zero_or_one (numerator / denominator)
    · rw [isEven, Nat.add_zero]
      constructor <;> omega
    · rw [isOdd]
      constructor <;> omega

section

variable (numerator : Nat) {denominator : Nat}

/-- How many bits the unit to which a quotient is rounded is above the finest one. -/
def quotientShift (numerator denominator : Nat) : Nat := (numerator * one / denominator).log2 - 52

/-- The significand to which a quotient is rounded in its unit. -/
def quotientSignificand (numerator denominator : Nat) : Nat :=
  roundHalfEven (numerator * one) (denominator * 2 ^ quotientShift numerator denominator)

/-- The rung to which a quotient is rounded. -/
def quotientRank (numerator denominator : Nat) : Nat :=
  quotientSignificand numerator denominator + quotientShift numerator denominator * leadingOne

/-- The number nearest to a quotient has the rounded quotient as its significand and the unit as its
shift. -/
theorem nearest_eq (isNegative : Bool) (denominator : Nat) :
    nearest isNegative numerator denominator = ofMagnitude isNegative
      (quotientSignificand numerator denominator * 2 ^ quotientShift numerator denominator) := by
  simp only [nearest, quotientSignificand, quotientShift, Nat.shiftLeft_eq]

variable (positive : 0 < denominator)
include positive

/-- The significand of a quotient has at most one bit too many, and only if it was rounded up to a
power of two. -/
theorem quotientSignificand_le : quotientSignificand numerator denominator ≤ 2 * leadingOne := by
  let quotient := numerator * one / denominator
  let shift := quotientShift numerator denominator
  have unitPositive : 0 < denominator * 2 ^ shift := Nat.mul_pos positive (Nat.two_pow_pos _)
  apply roundHalfEven_le unitPositive
  have short : quotient + 1 ≤ 2 ^ (53 + shift) := by
    refine Nat.le_trans Nat.lt_log2_self (Nat.pow_le_pow_right two_pos ?_)
    change quotient.log2 + 1 ≤ 53 + (quotient.log2 - 52)
    omega
  calc numerator * one
      ≤ (quotient + 1) * denominator := by
        apply Nat.le_of_lt
        exact (Nat.div_lt_iff_lt_mul positive).mp (Nat.lt_succ_self quotient)
    _ ≤ 2 ^ (53 + shift) * denominator := Nat.mul_le_mul_right _ short
    _ = 2 * leadingOne * (denominator * 2 ^ shift) := by
      rw [Nat.pow_add, Nat.mul_assoc, Nat.mul_comm (2 ^ shift)]
      rfl

/-- A quotient whose unit is not the finest one has a leading one in it. -/
theorem leading_le_quotient (long : 0 < quotientShift numerator denominator) :
    leadingOne * 2 ^ quotientShift numerator denominator * denominator ≤ numerator * one := by
  have large : 2 ^ (52 + quotientShift numerator denominator) ≤ numerator * one / denominator :=
    two_pow_le_of_log2 long
  rw [Nat.pow_add] at large
  exact (Nat.le_div_iff_mul_le positive).mp large

/-- A significand has a leading one unless it is counted in the finest unit. -/
theorem le_quotientSignificand :
    quotientShift numerator denominator = 0 ∨
      leadingOne ≤ quotientSignificand numerator denominator := by
  refine (Nat.eq_zero_or_pos _).imp_right fun long => ?_
  apply le_roundHalfEven (Nat.mul_pos positive (Nat.two_pow_pos _))
  have leading := leading_le_quotient numerator positive long
  rwa [Nat.mul_assoc, Nat.mul_comm _ denominator] at leading

/-- The significand in its unit is the rung of the quotient. -/
theorem rung_quotientRank :
    rung (quotientRank numerator denominator) =
      quotientSignificand numerator denominator * 2 ^ quotientShift numerator denominator :=
  rung_add (quotientSignificand_le numerator positive) (le_quotientSignificand numerator positive)

/-- From the rung of a quotient it is at least one unit to the next rung, and to the one before it
too, unless the rung is a power of two, which the quotient then reaches. -/
theorem quotient_neighbours {place unit : Nat}
    (isPlace : place = quotientRank numerator denominator)
    (isUnit : unit = 2 ^ quotientShift numerator denominator) :
    rung place + unit ≤ rung (place + 1) ∧
      (place = 0 ∨ rung (place - 1) + unit ≤ rung place ∨
        rung (place - 1) < rung place ∧ rung place * denominator ≤ numerator * one) := by
  have large := le_quotientSignificand numerator positive
  have parts : place = quotientSignificand numerator denominator +
    quotientShift numerator denominator * leadingOne := isPlace
  rw [isUnit]
  constructor
  · have coarse : quotientShift numerator denominator ≤ rungShift place := by
      rw [rungShift, parts]
      rw [leadingOne] at large ⊢
      omega
    rw [rung_succ]
    exact Nat.add_le_add_left (Nat.pow_le_pow_right two_pos coarse) _
  · refine (Nat.eq_zero_or_pos place).imp_right fun above => ?_
    have stepped : rung place = rung (place - 1) + 2 ^ rungShift (place - 1) := by
      rw [← rung_succ, Nat.sub_add_cancel above]
    obtain coarse | fine := le_or_gt (quotientShift numerator denominator)
      (rungShift (place - 1))
    · left
      rw [stepped]
      exact Nat.add_le_add_left (Nat.pow_le_pow_right two_pos coarse) _
    · right
      have isLeading : quotientSignificand numerator denominator = leadingOne := by
        rw [rungShift, parts] at fine
        rw [leadingOne] at large fine ⊢
        omega
      refine ⟨rung_strictMono (Nat.sub_one_lt_of_lt above), ?_⟩
      rw [isPlace, rung_quotientRank numerator positive, isLeading]
      exact leading_le_quotient numerator positive (Nat.zero_lt_of_lt fine)

/-- A quotient is in reach of its rung. -/
theorem inReach_quotient :
    InReach (quotientRank numerator denominator) (numerator / denominator * one) := by
  generalize isPlace : quotientRank numerator denominator = place
  generalize isUnit : 2 ^ quotientShift numerator denominator = unit
  have near : HalfEven (numerator * one) (denominator * unit)
      (quotientSignificand numerator denominator) := by
    rw [← isUnit]
    exact halfEven_roundHalfEven _ (Nat.mul_pos positive (Nat.two_pow_pos _))
  have own : quotientSignificand numerator denominator * (denominator * unit) =
      rung place * denominator := by
    rw [← isPlace, ← isUnit, rung_quotientRank numerator positive]
    ac_rfl
  have sameParity : quotientSignificand numerator denominator % 2 = place % 2 := by
    rw [← isPlace, quotientRank, leadingOne]
    omega
  obtain ⟨low, high, even⟩ := near
  rw [own] at low high even
  rw [sameParity] at even
  -- The rungs beside this one are a unit away. There is none below the lowest, and below a power of
  -- two it is nearer, but then the quotient is not below the rung.
  obtain ⟨upper, lower⟩ := quotient_neighbours numerator positive isPlace.symm isUnit.symm
  have upperUnits : rung place * denominator + denominator * unit ≤
      rung (place + 1) * denominator := by
    have scaled := Nat.mul_le_mul_right denominator upper
    rwa [Nat.add_mul, Nat.mul_comm unit] at scaled
  have lowerUnits : place = 0 ∧ rung (place - 1) * denominator = 0 ∧ rung place * denominator = 0 ∨
      rung (place - 1) * denominator + denominator * unit ≤ rung place * denominator ∨
        rung (place - 1) * denominator < rung place * denominator ∧
          rung place * denominator ≤ numerator * one := by
    refine lower.imp (fun lowest => ?_) (Or.imp (fun below => ?_) fun reached => ?_)
    · have origin : rung 0 = 0 := rfl
      rw [lowest, Nat.zero_sub, origin, Nat.zero_mul]
      exact ⟨rfl, rfl, rfl⟩
    · have scaled := Nat.mul_le_mul_right denominator below
      rwa [Nat.add_mul, Nat.mul_comm unit] at scaled
    · exact ⟨Nat.mul_lt_mul_of_pos_right reached.1 positive, reached.2⟩
  have unitPositive : 0 < denominator * unit := by
    rw [← isUnit]
    exact Nat.mul_pos positive (Nat.two_pow_pos _)
  rw [div_mul_eq_mul_div, ← Nat.cast_mul, inReach_div_iff positive, Nat.add_mul, Nat.add_mul]
  refine ⟨?_, ?_, ?_⟩ <;> omega

/-- The number nearest to a quotient is the finite one on its rung, if the rung is one of a finite
number, and infinite otherwise. -/
theorem nearest_of_rank (fits : quotientRank numerator denominator < infinityRank) :
    (nearest false numerator denominator).isFinite = true ∧
      (nearest false numerator denominator).negative = false ∧
        (nearest false numerator denominator).rank = quotientRank numerator denominator := by
  have own := rung_quotientRank numerator positive
  have bounded : rung (quotientRank numerator denominator) < unbounded := by
    rw [← rung_infinityRank]
    exact rung_strictMono fits
  have representable : Representable (rung (quotientRank numerator denominator)) := by
    rw [own]
    exact representable_of_le (quotientSignificand_le numerator positive) _
  have written := writes_ofMagnitude false representable bounded
  rw [nearest_eq, ← own]
  refine ⟨written.finite, written.negative, rung_strictMono.injective ?_⟩
  rw [← magnitude_eq_rung, written.magnitude]

/-- A quotient that is rounded to a finite number has a rank below that of the infinity. -/
theorem rank_of_nearest (finite : (nearest false numerator denominator).isFinite = true) :
    quotientRank numerator denominator < infinityRank := by
  by_contra beyond
  have large : unbounded ≤ rung (quotientRank numerator denominator) := by
    rw [← rung_infinityRank]
    exact rung_strictMono.monotone (Nat.le_of_not_lt beyond)
  rw [nearest_eq, ← rung_quotientRank numerator positive, ofMagnitude_of_unbounded false large]
    at finite
  exact absurd finite (by decide)

/-- Rounding a quotient by its remainder is rounding it to the nearest number. -/
theorem rounds_quotient_iff (number : Binary64) :
    Rounds (numerator / denominator) number ↔
      nearest false numerator denominator = number ∧ number.isFinite = true := by
  have nonneg : (0 : ℚ) ≤ (numerator : ℚ) / denominator :=
    div_nonneg (Nat.cast_nonneg _) (Nat.cast_nonneg _)
  have reaches := inReach_quotient numerator positive
  rw [rounds_iff number nonneg]
  constructor
  · rintro ⟨finite, isPositive, ownReaches⟩
    have sameRank := reaches.unique ownReaches
    have fits : quotientRank numerator denominator < infinityRank := by
      rw [sameRank]
      exact (isFinite_iff_rank number).mp finite
    obtain ⟨-, nearestPositive, nearestRank⟩ := nearest_of_rank numerator positive fits
    refine ⟨eq_of_rank ?_ ?_, finite⟩
    · rw [nearestPositive, isPositive]
    · rw [nearestRank, sameRank]
  · rintro ⟨rfl, finite⟩
    have fits := rank_of_nearest numerator positive finite
    obtain ⟨-, nearestPositive, nearestRank⟩ := nearest_of_rank numerator positive fits
    rw [nearestRank]
    exact ⟨finite, nearestPositive, reaches⟩

end

/-! ### Decimals and integers -/

/-- A decimal whose coefficient has many binary digits has at least three decimal ones for ten of
them. -/
theorem ten_pow_le_of_log2 {coefficient : Nat} (nonzero : coefficient ≠ 0) :
    10 ^ (coefficient.log2 / 10 * 3) ≤ coefficient := by
  calc 10 ^ (coefficient.log2 / 10 * 3)
      = (10 ^ 3) ^ (coefficient.log2 / 10) := by rw [Nat.mul_comm, Nat.pow_mul]
    _ ≤ (2 ^ 10) ^ (coefficient.log2 / 10) := Nat.pow_le_pow_left (by decide) _
    _ = 2 ^ (10 * (coefficient.log2 / 10)) := (Nat.pow_mul 2 10 _).symm
    _ ≤ 2 ^ coefficient.log2 := Nat.pow_le_pow_right two_pos (Nat.mul_div_le _ _)
    _ ≤ coefficient := Nat.log2_self_le nonzero

/-- A number has at most one decimal digit for three binary ones, and one more. -/
theorem lt_ten_pow_of_log2 (coefficient : Nat) :
    coefficient < 10 ^ (coefficient.log2 / 3 + 1) := by
  calc coefficient
      < 2 ^ (coefficient.log2 + 1) := Nat.lt_log2_self
    _ ≤ 2 ^ (3 * (coefficient.log2 / 3 + 1)) := by
      apply Nat.pow_le_pow_right two_pos
      omega
    _ = (2 ^ 3) ^ (coefficient.log2 / 3 + 1) := Nat.pow_mul 2 3 _
    _ ≤ 10 ^ (coefficient.log2 / 3 + 1) := Nat.pow_le_pow_left (by decide) _

/-- A power of ten as the quotient by which the number nearest to a decimal is found. -/
theorem ten_zpow (exponent : Int) :
    (10 : ℚ) ^ exponent =
      ((Nat.pow 10 exponent.toNat : Nat) : ℚ) / (Nat.pow 10 (-exponent).toNat : Nat) := by
  simp only [Nat.pow_eq, Nat.cast_pow, Nat.cast_ofNat]
  obtain nonneg | negative := Int.le_total 0 exponent
  · have noDenominator : (-exponent).toNat = 0 := by omega
    rw [noDenominator, pow_zero, div_one, ← zpow_natCast, Int.toNat_of_nonneg nonneg]
  · have noNumerator : exponent.toNat = 0 := by omega
    have size : ((-exponent).toNat : Int) = -exponent := by omega
    rw [noNumerator, pow_zero, one_div, ← zpow_natCast, size, zpow_neg, inv_inv]

/-- Less than half a unit is in reach of zero. -/
theorem inReach_zero {units : ℚ} (nonneg : 0 ≤ units) (tiny : 2 * units < 1) : InReach 0 units := by
  have origin : rung 0 = 0 := rfl
  have first : rung 1 = 1 := rfl
  constructor
  · rw [Nat.zero_sub, origin, Nat.cast_zero]
    linarith
  · rw [origin, Nat.zero_add, first, Nat.cast_zero, Nat.cast_one]
    linarith
  · intro _
    rfl

/-- What is less than half a unit is rounded to zero. -/
theorem rounds_zero_iff {value : ℚ} (nonneg : 0 ≤ value) (tiny : 2 * (value * one) < 1)
    (number : Binary64) : Rounds value number ↔ zero = number ∧ number.isFinite = true := by
  have reaches : InReach zero.rank (value * one) :=
    inReach_zero (mul_nonneg nonneg one_pos_rat.le) tiny
  constructor
  · intro rounds
    refine ⟨eq_of_rank ?_ ?_, rounds.finite⟩
    · exact rounds.positive.symm
    · exact reaches.unique (rounds.inReach nonneg)
  · rintro ⟨rfl, finite⟩
    exact reaches.rounds finite rfl

end SearchFilter.Binary64

namespace SearchFilter

namespace Decimal

/-- The rational number that a decimal denotes. -/
def toRat (decimal : Decimal) : ℚ := decimal.coefficient * 10 ^ decimal.exponent

/-- A decimal without a sign is not negative. -/
theorem toRat_nonneg (decimal : Decimal) : 0 ≤ decimal.toRat :=
  mul_nonneg (Nat.cast_nonneg _) (zpow_pos (by norm_num) _).le

/-- A decimal with more than four hundred digits in front of the point is out of range. -/
theorem limit_le_toRat {coefficient : Nat} (nonzero : coefficient ≠ 0) {exponent : Int}
    (large : 400 < (coefficient.log2 / 10 * 3 : Nat) + exponent) :
    (2 : ℚ) ^ 1024 - 2 ^ 970 ≤ toRat ⟨coefficient, exponent⟩ := by
  have ten : (0 : ℚ) < 10 := by norm_num
  have power : (10 : ℚ) ^ (coefficient.log2 / 10 * 3) ≤ coefficient := by
    exact_mod_cast Binary64.ten_pow_le_of_log2 nonzero
  calc (2 : ℚ) ^ 1024 - 2 ^ 970
      ≤ 2 ^ 1024 := sub_le_self _ (pow_pos two_pos _).le
    _ ≤ 10 ^ 401 := by exact_mod_cast (by decide +kernel : 2 ^ 1024 ≤ 10 ^ 401)
    _ = 10 ^ (401 : Int) := (zpow_ofNat _ _).symm
    _ ≤ 10 ^ ((coefficient.log2 / 10 * 3 : Nat) + exponent) :=
      zpow_le_zpow_right₀ (by norm_num) large
    _ = 10 ^ (coefficient.log2 / 10 * 3) * 10 ^ exponent := by
      rw [zpow_add₀ ten.ne', zpow_natCast]
    _ ≤ coefficient * 10 ^ exponent := mul_le_mul_of_nonneg_right power (zpow_pos ten _).le

/-- A decimal with four hundred zeros behind the point is less than half a unit. -/
theorem toRat_tiny {coefficient : Nat} {exponent : Int}
    (small : (coefficient.log2 / 3 + 1 : Nat) + exponent < -400) :
    2 * (toRat ⟨coefficient, exponent⟩ * Binary64.one) < 1 := by
  have ten : (0 : ℚ) < 10 := by norm_num
  have power : (coefficient : ℚ) ≤ 10 ^ (coefficient.log2 / 3 + 1) := by
    exact_mod_cast (Binary64.lt_ten_pow_of_log2 coefficient).le
  have beneath : toRat ⟨coefficient, exponent⟩ ≤ 10 ^ (-401 : Int) :=
    calc (coefficient : ℚ) * 10 ^ exponent
        ≤ 10 ^ (coefficient.log2 / 3 + 1) * 10 ^ exponent :=
          mul_le_mul_of_nonneg_right power (zpow_pos ten _).le
      _ = 10 ^ ((coefficient.log2 / 3 + 1 : Nat) + exponent) := by
        rw [zpow_add₀ ten.ne', zpow_natCast]
      _ ≤ 10 ^ (-401 : Int) := zpow_le_zpow_right₀ (by norm_num) (by omega)
  have whole : 2 * Binary64.one < 10 ^ 401 := by decide +kernel
  calc 2 * (toRat ⟨coefficient, exponent⟩ * Binary64.one)
      ≤ 2 * (10 ^ (-401 : Int) * Binary64.one) :=
        mul_le_mul_of_nonneg_left
          (mul_le_mul_of_nonneg_right beneath Binary64.one_pos_rat.le) two_pos.le
    _ < 1 := by
      rw [zpow_neg, zpow_ofNat, mul_left_comm, inv_mul_lt_iff₀ (pow_pos ten _), mul_one]
      exact_mod_cast whole

end Decimal

namespace Binary64

/-- The number that is found for a decimal is the one that the decimal is rounded to. What is
settled by its size is out of range or rounded to zero. -/
theorem rounds_decimal_iff (decimal : Decimal) (number : Binary64) :
    Rounds decimal.toRat number ↔
      ofDecimal false decimal.coefficient decimal.exponent = number ∧ number.isFinite = true := by
  obtain ⟨coefficient, exponent⟩ := decimal
  have nonneg := Decimal.toRat_nonneg ⟨coefficient, exponent⟩
  have written : ofMagnitude false 0 = zero := rfl
  unfold ofDecimal
  dsimp only
  split_ifs with isZero large small
  · have value : Decimal.toRat ⟨coefficient, exponent⟩ = 0 := by
      rw [Decimal.toRat, isZero, Nat.cast_zero, zero_mul]
    rw [value, written]
    exact rounds_zero_iff le_rfl (by norm_num) number
  · constructor
    · intro rounds
      exact absurd rounds.inRange (Decimal.limit_le_toRat isZero large).not_gt
    · rintro ⟨rfl, finite⟩
      exact absurd finite (by decide)
  · rw [written]
    exact rounds_zero_iff nonneg (Decimal.toRat_tiny small) number
  · have value : Decimal.toRat ⟨coefficient, exponent⟩ =
        ((coefficient * Nat.pow 10 exponent.toNat : Nat) : ℚ) /
          (Nat.pow 10 (-exponent).toNat : Nat) := by
      rw [Decimal.toRat, ten_zpow, Nat.cast_mul, mul_div_assoc]
    rw [value]
    exact rounds_quotient_iff _ (Nat.pow_pos (by decide)) number

/-- An integer that is not negative is rounded to the number that is found for it. -/
theorem rounds_integer_iff {value : Int} (nonneg : 0 ≤ value) (number : Binary64) :
    Rounds value number ↔ ofInt value = number ∧ number.isFinite = true := by
  have isPositive : decide (value < 0) = false := decide_eq_false (Int.not_lt.mpr nonneg)
  have size : (value : ℚ) = ((value.natAbs : Nat) : ℚ) / (1 : Nat) := by
    rw [Nat.cast_one, div_one, Nat.cast_natAbs, abs_of_nonneg nonneg]
  rw [ofInt, isPositive, size]
  exact rounds_quotient_iff _ Nat.one_pos number

/-- A negative integer has a set sign bit, or it is out of range. -/
theorem negative_ofInt {value : Int} (negative : value < 0)
    (finite : (ofInt value).isFinite = true) : (ofInt value).negative = true := by
  rw [ofInt_eq, decide_eq_true negative] at finite ⊢
  obtain bounded | large := Nat.lt_or_ge (rounded (value.natAbs * one)) unbounded
  · exact (writes_ofMagnitude true (representable_rounded _) bounded).negative
  · rw [ofMagnitude_of_unbounded true large] at finite
    exact absurd finite (by decide)

end Binary64

end SearchFilter
