import Mathlib

/-!
# Rounding to binary64

A number is rounded to one that binary64 can represent.  Numbers that it can
represent are bounds for that: what is not below such a number is not rounded
below it, and what is not above it is not rounded above it.
-/

namespace OvsdbClient.Binary64

open Float.Model Float.Model.UnpackedFloat

/-- What a mantissa and an exponent stand for. -/
def scaled (mantissa : Nat) (exponent : Int) : Rat :=
  mantissa * 2 ^ exponent

/-- The number is one of binary64, as far as the lengths of mantissas and small
exponents are concerned. -/
def Representable (number : Rat) : Prop :=
  ∃ mantissa exponent, mantissa ≤ 2 ^ 53 ∧ -1074 ≤ exponent ∧
    number = scaled mantissa exponent

theorem scaled_pos {mantissa : Nat} (positive : 0 < mantissa)
    (exponent : Int) : 0 < scaled mantissa exponent := by
  unfold scaled
  positivity

theorem scaled_le_scaled_iff {first second : Nat} {exponent : Int} :
    scaled first exponent ≤ scaled second exponent ↔ first ≤ second := by
  unfold scaled
  rw [mul_le_mul_iff_of_pos_right (by positivity)]
  exact Nat.cast_le

theorem scaled_lt_scaled_iff {first second : Nat} {exponent : Int} :
    scaled first exponent < scaled second exponent ↔ first < second :=
  lt_iff_lt_of_le_iff_le scaled_le_scaled_iff

theorem scaled_le_of_exponent {exponent other : Int} (mantissa : Nat)
    (lower : exponent ≤ other) :
    scaled mantissa exponent ≤ scaled mantissa other := by
  unfold scaled
  exact mul_le_mul_of_nonneg_left
    (zpow_le_zpow_right₀ (by norm_num) lower) (by positivity)

theorem scaled_mul_two_pow (mantissa shift : Nat) (exponent : Int) :
    scaled (mantissa * 2 ^ shift) exponent =
      scaled mantissa (exponent + shift) := by
  unfold scaled
  rw [zpow_add₀ (by norm_num), zpow_natCast]
  push_cast
  ring

theorem scaled_shiftLeft (mantissa shift : Nat) (exponent : Int) :
    scaled (mantissa <<< shift) (exponent - shift) =
      scaled mantissa exponent := by
  rw [Nat.shiftLeft_eq, scaled_mul_two_pow, Int.sub_add_cancel]

/-! ## Cutting bits off -/

theorem mantissa_shiftRight (extended : ExtendedMantissa) (shift : Nat) :
    (extended >>> shift).mantissa = extended.mantissa / 2 ^ shift := by
  induction shift with
  | zero => simp [HShiftRight.hShiftRight, Nat.repeat]
  | succ shift induction =>
      change (extended >>> shift).mantissa / 2 = _
      rw [induction, Nat.div_div_eq_div_mul, Nat.pow_succ]

theorem bits_shiftRight_of_dvd {mantissa shift : Nat}
    (divides : 2 ^ shift ∣ mantissa) :
    ((ExtendedMantissa.mk mantissa false false) >>> shift).roundBit = false ∧
      ((ExtendedMantissa.mk mantissa false false) >>> shift).stickyBit =
        false := by
  induction shift with
  | zero => exact ⟨rfl, rfl⟩
  | succ shift induction =>
      obtain ⟨first, second⟩ :=
        induction (Dvd.dvd.trans (Nat.pow_dvd_pow 2 shift.le_succ) divides)
      have even : mantissa / 2 ^ shift % 2 = 0 := by
        obtain ⟨rest, rfl⟩ := divides
        rw [Nat.pow_succ, Nat.mul_assoc,
          Nat.mul_div_cancel_left _ (by positivity)]
        exact Nat.mul_mod_right ..
      constructor
      · change (((ExtendedMantissa.mk mantissa false false) >>>
          shift).mantissa % 2 != 0) = false
        rw [mantissa_shiftRight]
        simp [even]
      · exact Bool.or_eq_false_iff.mpr ⟨first, second⟩

theorem roundedMantissa_bounds (extended : ExtendedMantissa) :
    extended.mantissa ≤ extended.roundedMantissa ∧
      extended.roundedMantissa ≤ extended.mantissa + 1 := by
  obtain ⟨mantissa, roundBit, stickyBit⟩ := extended
  cases roundBit <;> cases stickyBit <;>
    simp [ExtendedMantissa.roundedMantissa, ExtendedMantissa.accuracy,
      Accuracy.roundToNearestEven]
  omega

theorem roundedMantissa_of_bits {extended : ExtendedMantissa}
    (first : extended.roundBit = false) (second : extended.stickyBit = false) :
    extended.roundedMantissa = extended.mantissa := by
  obtain ⟨mantissa, roundBit, stickyBit⟩ := extended
  cases first
  cases second
  rfl

/-- How many bits of a mantissa are cut off. -/
def excess (mantissa : Nat) (exponent : Int) : Nat :=
  (Format.binary64.targetExponent (totalExponent mantissa exponent) -
    exponent).toNat

/-- The mantissa that is left after rounding. -/
def rounded (mantissa : Nat) (exponent : Int) (accuracy : Accuracy) : Nat :=
  (shiftToTargetExponent Format.binary64 mantissa exponent
    accuracy).1.roundedMantissa

theorem target_eq (mantissa : Nat) (exponent : Int) :
    Format.binary64.targetExponent (totalExponent mantissa exponent) =
      max (mantissa.log2 + exponent - 52) (-1074) := by
  simp only [Format.targetExponent, totalExponent, Format.mantissaBits,
    Format.minExponent]
  norm_num
  omega

theorem excess_spec (mantissa : Nat) (exponent : Int) :
    -1074 ≤ exponent + excess mantissa exponent ∧
      mantissa.log2 ≤ 52 + excess mantissa exponent ∧
      (excess mantissa exponent ≠ 0 →
        exponent + excess mantissa exponent = -1074 ∨
          mantissa.log2 = 52 + excess mantissa exponent) := by
  unfold excess
  rw [target_eq]
  omega

theorem rounded_bounds (mantissa : Nat) (exponent : Int)
    (accuracy : Accuracy) :
    mantissa / 2 ^ excess mantissa exponent ≤
        rounded mantissa exponent accuracy ∧
      rounded mantissa exponent accuracy ≤
        mantissa / 2 ^ excess mantissa exponent + 1 := by
  have bounds := roundedMantissa_bounds
    (ExtendedMantissa.ofMantissaAndAccuracy mantissa accuracy >>>
      excess mantissa exponent)
  rw [mantissa_shiftRight] at bounds
  have same : (ExtendedMantissa.ofMantissaAndAccuracy mantissa
      accuracy).mantissa = mantissa := by
    cases accuracy with
    | exact => rfl
    | inexact ordering => cases ordering <;> rfl
  rw [same] at bounds
  exact bounds

theorem rounded_exact_lt (mantissa : Nat) (exponent : Int) :
    rounded mantissa exponent .exact * 2 ^ excess mantissa exponent <
      mantissa + 2 ^ excess mantissa exponent := by
  have bounds := rounded_bounds mantissa exponent .exact
  have positive : 0 < 2 ^ excess mantissa exponent := by positivity
  by_cases divides : 2 ^ excess mantissa exponent ∣ mantissa
  · obtain ⟨first, second⟩ := bits_shiftRight_of_dvd divides
    have same : rounded mantissa exponent .exact =
        mantissa / 2 ^ excess mantissa exponent := by
      refine (roundedMantissa_of_bits first second).trans ?_
      exact mantissa_shiftRight ..
    rw [same, Nat.div_mul_cancel divides]
    omega
  · have cut : mantissa / 2 ^ excess mantissa exponent *
        2 ^ excess mantissa exponent < mantissa := by
      refine Nat.lt_of_le_of_ne (Nat.div_mul_le_self ..) fun same => ?_
      exact divides ⟨_, by rw [Nat.mul_comm]; exact same.symm⟩
    have up := Nat.mul_le_mul_right (2 ^ excess mantissa exponent) bounds.2
    rw [Nat.add_mul, Nat.one_mul] at up
    omega

theorem rounded_le (mantissa : Nat) (exponent : Int) (accuracy : Accuracy) :
    rounded mantissa exponent accuracy ≤ 2 ^ 53 := by
  have bounds := rounded_bounds mantissa exponent accuracy
  have short := (excess_spec mantissa exponent).2.1
  have cut : mantissa / 2 ^ excess mantissa exponent < 2 ^ 53 := by
    apply Nat.div_lt_of_lt_mul
    rw [← Nat.pow_add]
    refine Nat.lt_of_lt_of_le Nat.lt_log2_self ?_
    exact Nat.pow_le_pow_right (by decide) (by omega)
  omega

/-- Unless the exponent is the least one, the mantissa that is left is long. -/
theorem le_cut_of_excess {mantissa : Nat} {exponent : Int}
    (long : mantissa.log2 = 52 + excess mantissa exponent) :
    2 ^ 52 ≤ mantissa / 2 ^ excess mantissa exponent := by
  have nonzero : mantissa ≠ 0 := by
    rintro rfl
    simp at long
    omega
  apply (Nat.le_div_iff_mul_le (by positivity)).mpr
  rw [← Nat.pow_add, ← long]
  exact Nat.log2_self_le nonzero

/-- A representable number with a smaller exponent than the result is below any
long mantissa. -/
theorem le_scaled_of_long {mantissa other : Nat} {exponent least : Int}
    (small : other ≤ 2 ^ 53) (finer : least < exponent)
    (long : 2 ^ 52 ≤ mantissa) :
    scaled other least ≤ scaled mantissa exponent := by
  calc scaled other least ≤ scaled (2 ^ 52 * 2 ^ 1) least :=
        scaled_le_scaled_iff.mpr small
    _ = scaled (2 ^ 52) (least + 1) := scaled_mul_two_pow ..
    _ ≤ scaled (2 ^ 52) exponent := scaled_le_of_exponent _ finer
    _ ≤ scaled mantissa exponent := scaled_le_scaled_iff.mpr long

/-- What is not below a representable number is not rounded below it. -/
theorem le_scaled_rounded {number : Rat} {mantissa : Nat} {exponent : Int}
    (accuracy : Accuracy) (bound : Representable number)
    (below : number ≤ scaled mantissa exponent) :
    number ≤ scaled (rounded mantissa exponent accuracy)
      (exponent + excess mantissa exponent) := by
  obtain ⟨bounds, _⟩ := rounded_bounds mantissa exponent accuracy
  obtain ⟨_, _, cuts⟩ := excess_spec mantissa exponent
  have long := @le_cut_of_excess mantissa exponent
  obtain ⟨other, least, small, low, rfl⟩ := bound
  generalize excess mantissa exponent = shift at *
  by_cases coarse : exponent + shift ≤ least
  · -- The bound is a whole number of units of the result.
    obtain ⟨units, rfl⟩ := Int.le.dest coarse
    rw [← scaled_mul_two_pow other units] at below ⊢
    rw [← scaled_mul_two_pow _ shift, scaled_le_scaled_iff] at below
    rw [scaled_le_scaled_iff]
    exact ((Nat.le_div_iff_mul_le (by positivity)).mpr below).trans bounds
  · by_cases whole : shift = 0
    · subst whole
      rw [Nat.pow_zero, Nat.div_one] at bounds
      simpa using below.trans (scaled_le_scaled_iff.mpr bounds)
    · rcases cuts whole with least | length
      · omega
      · exact le_scaled_of_long small (by omega) ((long length).trans bounds)

/-- What is not above a representable number is not rounded above it. -/
theorem scaled_rounded_le {number : Rat} {mantissa : Nat} {exponent : Int}
    (bound : Representable number)
    (above : scaled mantissa exponent ≤ number) :
    scaled (rounded mantissa exponent .exact)
      (exponent + excess mantissa exponent) ≤ number := by
  have less := rounded_exact_lt mantissa exponent
  obtain ⟨_, _, cuts⟩ := excess_spec mantissa exponent
  have long := @le_cut_of_excess mantissa exponent
  obtain ⟨other, least, small, low, rfl⟩ := bound
  generalize excess mantissa exponent = shift at *
  have positive : 0 < 2 ^ shift := by positivity
  by_cases coarse : exponent + shift ≤ least
  · obtain ⟨units, rfl⟩ := Int.le.dest coarse
    rw [← scaled_mul_two_pow other units] at above ⊢
    rw [← scaled_mul_two_pow _ shift, scaled_le_scaled_iff] at above
    rw [scaled_le_scaled_iff]
    have next : rounded mantissa exponent .exact * 2 ^ shift <
        (other * 2 ^ units + 1) * 2 ^ shift := by
      rw [Nat.add_mul, Nat.one_mul]
      omega
    exact Nat.le_of_lt_succ (Nat.lt_of_mul_lt_mul_right next)
  · by_cases whole : shift = 0
    · subst whole
      rw [Nat.pow_zero, Nat.mul_one] at less
      have same : scaled (rounded mantissa exponent .exact) exponent ≤
          scaled mantissa exponent := scaled_le_scaled_iff.mpr (by omega)
      simpa using same.trans above
    · rcases cuts whole with least | length
      · omega
      · have finer := le_scaled_of_long small (not_le.mp coarse) (le_refl _)
        have cut : 2 ^ 52 * 2 ^ shift ≤ mantissa :=
          (Nat.le_div_iff_mul_le positive).mp (long length)
        have tight : mantissa ≤ 2 ^ 52 * 2 ^ shift := by
          rw [← scaled_mul_two_pow] at finer
          exact scaled_le_scaled_iff.mp (above.trans finer)
        have next : rounded mantissa exponent .exact * 2 ^ shift <
            (2 ^ 52 + 1) * 2 ^ shift := by
          rw [Nat.add_mul, Nat.one_mul]
          omega
        have short := Nat.le_of_lt_succ (Nat.lt_of_mul_lt_mul_right next)
        refine le_trans (scaled_le_scaled_iff.mpr short) ?_
        rw [← scaled_mul_two_pow]
        exact le_trans (scaled_le_scaled_iff.mpr cut) above

/-! ## Rounded numbers -/

/-- A number stays within all representable bounds of another one. -/
structure Rounds (exact number : Rat) : Prop where
  below : ∀ bound, Representable bound → bound ≤ exact → bound ≤ number
  above : ∀ bound, Representable bound → exact ≤ bound → number ≤ bound

/-- An unpacked number stands, in the form that binary64 gives it, for a number
with a sign in front; a zero may have any sign. -/
inductive Stands (sign : Sign) (number : Rat) : UnpackedFloat → Prop where
  | zero (side : Sign) : number = 0 → Stands sign number (.zero side)
  | finite {mantissa : Nat} {exponent : Int} (positive : 0 < mantissa) :
      mantissa < 2 ^ 53 → -1074 ≤ exponent →
      2 ^ 52 ≤ mantissa ∨ exponent = -1074 →
      number = scaled mantissa exponent →
      Stands sign number (.finite sign mantissa exponent positive)

theorem shiftToTargetExponent_of_short {mantissa : Nat} {exponent : Int}
    (short : mantissa < 2 ^ 53) (least : -1074 ≤ exponent) :
    shiftToTargetExponent Format.binary64 mantissa exponent .exact =
      (⟨mantissa, false, false⟩, exponent) := by
  have length : mantissa.log2 ≤ 52 := by
    by_cases zero : mantissa = 0
    · simp [zero]
    · have bound := (Nat.log2_lt zero).mpr short
      omega
  have none : excess mantissa exponent = 0 := by
    unfold excess
    rw [target_eq]
    omega
  change (ExtendedMantissa.ofMantissaAndAccuracy mantissa .exact >>>
    excess mantissa exponent, exponent + excess mantissa exponent) = _
  rw [none]
  simp [HShiftRight.hShiftRight, Nat.repeat,
    ExtendedMantissa.ofMantissaAndAccuracy]

theorem shiftToTargetExponent_of_carry {exponent : Int}
    (least : -1074 ≤ exponent) :
    shiftToTargetExponent Format.binary64 (2 ^ 53) exponent .exact =
      (⟨2 ^ 52, false, false⟩, exponent + 1) := by
  have one : excess (2 ^ 53) exponent = 1 := by
    unfold excess
    rw [target_eq, Nat.log2_two_pow]
    omega
  change (ExtendedMantissa.ofMantissaAndAccuracy (2 ^ 53) .exact >>>
    excess (2 ^ 53) exponent, exponent + excess (2 ^ 53) exponent) = _
  rw [one]
  rfl

theorem stands_roundWithAccuracy (sign : Sign) {mantissa : Nat}
    {exponent : Int} (accuracy : Accuracy)
    (enough : 52 ≤ mantissa.log2 ∨ exponent ≤ -1074) :
    Stands sign
      (scaled (rounded mantissa exponent accuracy)
        (exponent + excess mantissa exponent))
      (roundWithAccuracy Format.binary64 sign mantissa exponent accuracy) := by
  obtain ⟨least, _, _⟩ := excess_spec mantissa exponent
  obtain ⟨bounds, _⟩ := rounded_bounds mantissa exponent accuracy
  have short := rounded_le mantissa exponent accuracy
  have form : 2 ^ 52 ≤ rounded mantissa exponent accuracy ∨
      exponent + excess mantissa exponent = -1074 := by
    by_cases lowest : exponent + excess mantissa exponent = -1074
    · exact .inr lowest
    · refine .inl ((le_cut_of_excess ?_).trans bounds)
      unfold excess at lowest ⊢
      rw [target_eq] at lowest ⊢
      omega
  unfold roundWithAccuracy
  change Stands sign _ (
    let second := shiftToTargetExponent Format.binary64
      (rounded mantissa exponent accuracy)
      (exponent + excess mantissa exponent) .exact
    if h : second.1.mantissa = 0 then .zero sign
    else .finite sign second.1.mantissa second.2 (Nat.pos_of_ne_zero h))
  generalize rounded mantissa exponent accuracy = left at *
  generalize exponent + excess mantissa exponent = place at *
  rcases Nat.lt_or_eq_of_le short with small | carried
  · rw [shiftToTargetExponent_of_short small least]
    by_cases zero : left = 0
    · simp only [zero, dite_true]
      exact .zero sign (by simp [scaled])
    · simp only [zero, dite_false]
      exact .finite _ small least form rfl
  · subst carried
    rw [shiftToTargetExponent_of_carry least]
    have positive : 0 < 2 ^ 52 := by decide
    have form : 2 ^ 52 ≤ 2 ^ 52 ∨ place + 1 = -1074 := .inl (le_refl _)
    exact .finite positive (by decide) (by omega) form
      (scaled_mul_two_pow (2 ^ 52) 1 place)

theorem rounds_exact (mantissa : Nat) (exponent : Int) :
    Rounds (scaled mantissa exponent)
      (scaled (rounded mantissa exponent .exact)
        (exponent + excess mantissa exponent)) where
  below _ bound := le_scaled_rounded .exact bound
  above _ bound := scaled_rounded_le bound

theorem log2_shiftLeft {mantissa : Nat} (positive : 0 < mantissa)
    (shift : Nat) : (mantissa <<< shift).log2 = mantissa.log2 + shift := by
  rw [Nat.log2_eq_iff (Nat.pos_iff_ne_zero.mp (Nat.shiftLeft_pos_iff.mpr
    positive)), Nat.shiftLeft_eq, Nat.pow_add, Nat.pow_add, Nat.pow_add]
  have low := Nat.log2_self_le (Nat.pos_iff_ne_zero.mp positive)
  have high := @Nat.lt_log2_self mantissa
  rw [Nat.pow_succ] at high
  constructor
  · exact Nat.mul_le_mul_right _ low
  · calc mantissa * 2 ^ shift < 2 ^ mantissa.log2 * 2 * 2 ^ shift :=
          Nat.mul_lt_mul_of_pos_right high (by positivity)
      _ = 2 ^ mantissa.log2 * 2 ^ shift * 2 ^ 1 := by ring

/-- A number is rounded within all representable bounds. -/
theorem exists_stands_round (sign : Sign) {mantissa : Nat}
    (positive : 0 < mantissa) (exponent : Int) :
    ∃ number, Stands sign number
        (round Format.binary64 sign mantissa exponent) ∧
      Rounds (scaled mantissa exponent) number := by
  let shift := (exponent - Format.binary64.targetExponent
    (totalExponent mantissa exponent)).toNat
  have length : (mantissa <<< shift).log2 = mantissa.log2 + shift :=
    log2_shiftLeft positive shift
  have enough : 52 ≤ (mantissa <<< shift).log2 ∨
      exponent - shift ≤ -1074 := by
    rw [length]
    simp only [shift, target_eq]
    omega
  refine ⟨_, stands_roundWithAccuracy sign .exact enough, ?_⟩
  rw [← scaled_shiftLeft mantissa shift exponent]
  exact rounds_exact _ _

end OvsdbClient.Binary64
