import OvsdbClient.Proofs.Rounding

/-!
# Arithmetic of binary64

What the operations make of numbers that are not negative: each result is the
exact one after rounding, so that it stays within all bounds that binary64 can
represent.  Results that are too large are infinite.
-/

namespace OvsdbClient.Binary64

open Float.Model (Format UnpackedFloat totalExponent)
open Float.Model.UnpackedFloat

variable {sign : Sign} {number bound : Rat} {unpacked : UnpackedFloat}

/-! ## Packing -/

theorem unpack_normal (sign : Sign) {exponent : BitVec 11}
    (mantissa : BitVec 52) (notZero : exponent ≠ 0#11)
    (notLast : exponent ≠ -1#11) (positive : 0 < (1#1 ++ mantissa).toNat) :
    unpack Format.binary64
        (packComponents Format.binary64 sign exponent mantissa) =
      .finite sign (1#1 ++ mantissa).toNat (exponent.toNat - 1075)
        positive := by
  simp only [unpack, unpackExponent_packComponents,
    unpackMantissa_packComponents, unpackSign_packComponents,
    Sign.ofBitVec_toBitVec]
  rw [if_neg notLast, if_neg notZero]
  rfl

theorem unpack_subnormal (sign : Sign) {mantissa : BitVec 52}
    (notZero : mantissa ≠ 0#52) (positive : 0 < mantissa.toNat) :
    unpack Format.binary64
        (packComponents Format.binary64 sign 0#11 mantissa) =
      .finite sign mantissa.toNat (-1074) positive := by
  simp only [unpack, unpackExponent_packComponents,
    unpackMantissa_packComponents, unpackSign_packComponents,
    Sign.ofBitVec_toBitVec]
  rw [if_neg (by decide), if_pos trivial, dif_neg notZero]
  rfl

theorem unpack_packedInfinity (sign : Sign) :
    unpack Format.binary64 (packedInfinity Format.binary64 sign) =
      .infinity sign := by
  cases sign <;> rfl

/-- A normal number has a leading bit that is not stored. -/
theorem toNat_append_one (mantissa : BitVec 52) :
    (1#1 ++ mantissa).toNat = 2 ^ 52 + mantissa.toNat := by
  simp only [BitVec.toNat_append, Nat.shiftLeft_eq]
  change 2 ^ 52 ||| mantissa.toNat = _
  rw [Nat.or_comm, Nat.or_two_pow_eq_add_of_lt mantissa.isLt, Nat.add_comm]

theorem unpack_packed_normal (sign : Sign) {mantissa : Nat} {exponent : Int}
    (positive : 0 < mantissa) (long : 2 ^ 52 ≤ mantissa)
    (short : mantissa < 2 ^ 53) (least : -1074 ≤ exponent)
    (most : exponent ≤ 971) :
    unpack Format.binary64
        (packComponents Format.binary64 sign
          (BitVec.ofNat 11 (exponent + 1023 + 52).toNat)
          (BitVec.ofNat 52 mantissa)) =
      .finite sign mantissa exponent positive := by
  have place : (BitVec.ofNat 11 (exponent + 1023 + 52).toNat).toNat =
      (exponent + 1023 + 52).toNat := by
    rw [BitVec.toNat_ofNat]
    omega
  have whole : (1#1 ++ BitVec.ofNat 52 mantissa).toNat = mantissa := by
    rw [toNat_append_one, BitVec.toNat_ofNat]
    omega
  rw [unpack_normal]
  · simp only [whole, place]
    congr 1
    omega
  · intro zero
    rw [zero] at place
    simp at place
    omega
  · intro last
    rw [last] at place
    simp at place
    omega
  · rwa [whole]

theorem unpack_packed_subnormal (sign : Sign) {mantissa : Nat}
    (positive : 0 < mantissa) (small : mantissa < 2 ^ 52) :
    unpack Format.binary64
        (packComponents Format.binary64 sign 0#11
          (BitVec.ofNat 52 mantissa)) =
      .finite sign mantissa (-1074) positive := by
  have value : (BitVec.ofNat 52 mantissa).toNat = mantissa := by
    rw [BitVec.toNat_ofNat]
    omega
  rw [unpack_subnormal]
  · simp only [value]
  · intro zero
    rw [zero] at value
    simp at value
    omega
  · rwa [value]

theorem unpack_pack_finite {mantissa : Nat} {exponent : Int}
    (positive : 0 < mantissa) (short : mantissa < 2 ^ 53)
    (least : -1074 ≤ exponent)
    (form : 2 ^ 52 ≤ mantissa ∨ exponent = -1074) :
    (Float.Model.pack (.finite sign mantissa exponent positive)).unpack =
      if exponent ≤ 971 then .finite sign mantissa exponent positive
      else .infinity sign := by
  have packed : pack Format.binary64
      (.finite sign mantissa exponent positive) =
      if 2 ^ 11 ≤ (exponent + 1023 + 52).toNat + 1 then
        packedInfinity Format.binary64 sign
      else if mantissa.log2 + 1 = 53 then
        packComponents Format.binary64 sign
          (BitVec.ofNat 11 (exponent + 1023 + 52).toNat)
          (BitVec.ofNat 52 mantissa)
      else
        packComponents Format.binary64 sign 0#11 (BitVec.ofNat 52 mantissa) :=
    rfl
  change unpack Format.binary64 (pack Format.binary64 _) = _
  rw [packed]
  by_cases most : exponent ≤ 971
  · rw [if_pos most, if_neg (by omega)]
    by_cases long : 2 ^ 52 ≤ mantissa
    · have length : mantissa.log2 = 52 :=
        (Nat.log2_eq_iff (by omega)).mpr ⟨long, short⟩
      rw [length, if_pos rfl]
      exact unpack_packed_normal sign positive long short least most
    · have length : mantissa.log2 < 52 :=
        (Nat.log2_lt (by omega)).mpr (by omega)
      have lowest : exponent = -1074 := form.resolve_left long
      subst lowest
      rw [if_neg (by omega)]
      exact unpack_packed_subnormal sign positive (by omega)
  · rw [if_neg most, if_pos (by omega)]
    exact unpack_packedInfinity sign

/-- A binary64 number is finite and not negative, and this is its value. -/
def IsNumber (x : Float) (number : Rat) : Prop :=
  Stands .positive number x.toModel.unpack

/-- A binary64 number is not below a bound, and may be infinite. -/
def AtLeast (x : Float) (bound : Rat) : Prop :=
  x.toModel.unpack = .infinity .positive ∨
    ∃ number, IsNumber x number ∧ bound ≤ number

/-- Packing keeps a number unless it is too large. -/
theorem Stands.unpack_pack (stands : Stands sign number unpacked) :
    (Float.Model.pack unpacked).unpack = unpacked ∨
      (Float.Model.pack unpacked).unpack = .infinity sign ∧
        2 ^ 200 < number := by
  cases stands with
  | zero side zero => cases side <;> exact .inl rfl
  | @finite mantissa exponent positive short least form value =>
      rw [unpack_pack_finite positive short least form]
      by_cases most : exponent ≤ 971
      · exact .inl (if_pos most)
      · refine .inr ⟨if_neg most, ?_⟩
        rw [value]
        calc (2 ^ 200 : Rat) < scaled (2 ^ 52) 200 := by
              unfold scaled
              norm_num
          _ ≤ scaled (2 ^ 52) exponent := scaled_le_of_exponent _ (by omega)
          _ ≤ scaled mantissa exponent :=
              scaled_le_scaled_iff.mpr (by omega)

theorem isNumber_pack (stands : Stands .positive number unpacked)
    (small : number ≤ 2 ^ 200) :
    IsNumber (.ofModel (.pack unpacked)) number := by
  rcases stands.unpack_pack with same | ⟨_, large⟩
  · rw [IsNumber, same]
    exact stands
  · exact absurd small large.not_ge

theorem atLeast_pack (stands : Stands .positive number unpacked)
    (above : bound ≤ number) : AtLeast (.ofModel (.pack unpacked)) bound := by
  rcases stands.unpack_pack with same | ⟨infinite, _⟩
  · refine .inr ⟨number, ?_, above⟩
    rw [IsNumber, same]
    exact stands
  · exact .inl infinite

/-! ## Arithmetic -/

theorem Stands.nonneg (stands : Stands sign number unpacked) :
    0 ≤ number := by
  cases stands with
  | zero side zero => exact zero.ge
  | finite positive short least form value =>
      exact value ▸ (scaled_pos positive _).le

theorem Stands.representable (stands : Stands sign number unpacked) :
    Representable number := by
  cases stands with
  | zero side zero =>
      exact ⟨0, 0, by decide, by decide, by simp [zero, scaled]⟩
  | finite positive short least form value =>
      exact ⟨_, _, short.le, least, value⟩

theorem Rounds.refl (number : Rat) : Rounds number number where
  below _ _ below := below
  above _ _ above := above

theorem exists_stands_normalize (mantissa : Nat) (exponent : Int) :
    ∃ number, Stands .positive number
        (UnpackedFloat.normalize Format.binary64 mantissa exponent .positive) ∧
      Rounds (scaled mantissa exponent) number := by
  rcases Nat.eq_zero_or_pos mantissa with rfl | positive
  · refine ⟨0, .zero .positive rfl, ?_⟩
    simp only [scaled, Nat.cast_zero, zero_mul]
    exact .refl 0
  · have larger : compare (mantissa : Int) 0 = .gt := by
      rw [Int.compare_eq_gt]
      omega
    simp only [UnpackedFloat.normalize, larger, Int.toNat_natCast]
    exact exists_stands_round .positive positive exponent

/-- The mantissa of a product is long unless its exponent is small. -/
theorem enough_mul {first second : Nat} {here there : Int}
    (positive : 0 < first) (other : 0 < second)
    (form : 2 ^ 52 ≤ first ∨ here = -1074)
    (shape : 2 ^ 52 ≤ second ∨ there = -1074) :
    52 ≤ (first * second).log2 ∨ here + there ≤ -1074 := by
  by_cases both : here = -1074 ∧ there = -1074
  · omega
  · left
    rw [Nat.le_log2 (Nat.mul_pos positive other).ne']
    rcases form with long | lowest
    · exact long.trans (Nat.le_mul_of_pos_right _ other)
    · rcases shape with long | small
      · exact long.trans (Nat.le_mul_of_pos_left _ positive)
      · exact absurd ⟨lowest, small⟩ both

theorem scaled_mul_scaled (first second : Nat) (here there : Int) :
    scaled first here * scaled second there =
      scaled (first * second) (here + there) := by
  unfold scaled
  rw [zpow_add₀ (by norm_num)]
  push_cast
  ring

theorem Stands.mul {other : Rat} {operand : UnpackedFloat}
    (first : Stands .positive number unpacked)
    (second : Stands .positive other operand) :
    ∃ product, Stands .positive product
        (mul Format.binary64 unpacked operand) ∧
      Rounds (number * other) product := by
  cases first with
  | zero side zero =>
      subst zero
      rw [zero_mul]
      cases second <;> exact ⟨0, .zero _ rfl, .refl 0⟩
  | finite positive short least form value =>
      cases second with
      | zero side zero =>
          subst zero
          rw [mul_zero]
          exact ⟨0, .zero _ rfl, .refl 0⟩
      | finite also thin most shape same =>
          subst value same
          rw [scaled_mul_scaled]
          exact ⟨_, stands_roundWithAccuracy .positive .exact
            (enough_mul positive also form shape), rounds_exact ..⟩

theorem scaled_decreaseExponent {mantissa : Nat} {exponent target : Int}
    (lower : target ≤ exponent) :
    scaled (decreaseExponent mantissa exponent target).1 target =
      scaled mantissa exponent := by
  have same : exponent - (exponent - target).toNat = target := by omega
  have shifted := scaled_shiftLeft mantissa (exponent - target).toNat exponent
  rwa [same] at shifted

theorem Stands.add {other : Rat} {operand : UnpackedFloat}
    (first : Stands .positive number unpacked)
    (second : Stands .positive other operand) :
    ∃ sum, Stands .positive sum (add Format.binary64 unpacked operand) ∧
      Rounds (number + other) sum := by
  cases first with
  | zero side zero =>
      subst zero
      rw [zero_add]
      cases second with
      | zero edge none =>
          subst none
          cases side <;> cases edge <;> exact ⟨0, .zero _ rfl, .refl 0⟩
      | finite also thin most shape same =>
          exact ⟨other, .finite also thin most shape same, .refl other⟩
  | @finite mantissa exponent positive short least form value =>
      cases second with
      | zero side zero =>
          subst zero
          rw [add_zero]
          exact ⟨number, .finite positive short least form value,
            .refl number⟩
      | @finite addend place also thin most shape same =>
          subst value same
          rw [← scaled_decreaseExponent (min_le_left exponent place),
            ← scaled_decreaseExponent (min_le_right exponent place)]
          unfold scaled
          rw [← add_mul, ← Nat.cast_add]
          exact exists_stands_normalize ..

theorem Stands.sub {other : Rat} {operand : UnpackedFloat}
    (first : Stands .positive number unpacked)
    (second : Stands .positive other operand) (less : other ≤ number) :
    ∃ difference, Stands .positive difference
        (sub Format.binary64 unpacked operand) ∧
      Rounds (number - other) difference := by
  cases first with
  | zero side zero =>
      subst zero
      cases second with
      | zero edge none =>
          subst none
          rw [sub_zero]
          cases side <;> cases edge <;> exact ⟨0, .zero _ rfl, .refl 0⟩
      | finite also thin most shape same =>
          exact absurd (same ▸ less) (scaled_pos also _).not_ge
  | @finite mantissa exponent positive short least form value =>
      cases second with
      | zero side zero =>
          subst zero
          rw [sub_zero]
          exact ⟨number, .finite positive short least form value,
            .refl number⟩
      | @finite subtrahend place also thin most shape same =>
          subst value same
          rw [← scaled_decreaseExponent (min_le_left exponent place),
            ← scaled_decreaseExponent (min_le_right exponent place)]
            at less ⊢
          have fits := scaled_le_scaled_iff.mp less
          unfold scaled
          rw [← sub_mul, ← Nat.cast_sub fits]
          obtain ⟨difference, stands, rounds⟩ := exists_stands_normalize
            ((decreaseExponent mantissa exponent (min exponent place)).1 -
              (decreaseExponent subtrahend place (min exponent place)).1)
            (min exponent place)
          rw [Nat.cast_sub fits] at stands
          exact ⟨difference, stands, rounds⟩

/-! ## Numbers -/

theorem representable_natCast {natural : Nat} (short : natural ≤ 2 ^ 53) :
    Representable natural :=
  ⟨natural, 0, short, by decide, by simp [scaled]⟩

theorem representable_two_pow (place : Nat) : Representable (2 ^ place) :=
  ⟨1, place, by decide, by omega, by simp [scaled]⟩

section Operations

variable {x y : Float} {first second : Rat}

theorem Rounds.natCast_le (rounds : Rounds first number) {natural : Nat}
    (short : natural ≤ 2 ^ 53) (below : natural ≤ first) :
    natural ≤ number :=
  rounds.below _ (representable_natCast short) below

theorem Rounds.le_two_pow (rounds : Rounds first number) {place : Nat}
    (above : first ≤ 2 ^ place) : number ≤ 2 ^ place :=
  rounds.above _ (representable_two_pow place) above

theorem Rounds.pack (rounds : Rounds first number)
    (stands : Stands .positive number unpacked) (small : first ≤ 2 ^ 200) :
    ∃ result, IsNumber (.ofModel (.pack unpacked)) result ∧
      Rounds first result :=
  ⟨number, isNumber_pack stands (rounds.le_two_pow small), rounds⟩

theorem IsNumber.mul (left : IsNumber x first) (right : IsNumber y second)
    (small : first * second ≤ 2 ^ 200) :
    ∃ product, IsNumber (x * y) product ∧
      Rounds (first * second) product := by
  obtain ⟨_, stands, rounds⟩ := Stands.mul left right
  exact rounds.pack stands small

theorem IsNumber.add (left : IsNumber x first) (right : IsNumber y second)
    (small : first + second ≤ 2 ^ 200) :
    ∃ sum, IsNumber (x + y) sum ∧ Rounds (first + second) sum := by
  obtain ⟨_, stands, rounds⟩ := Stands.add left right
  exact rounds.pack stands small

theorem IsNumber.sub (left : IsNumber x first) (right : IsNumber y second)
    (less : second ≤ first) (small : first - second ≤ 2 ^ 200) :
    ∃ difference, IsNumber (x - y) difference ∧
      Rounds (first - second) difference := by
  obtain ⟨_, stands, rounds⟩ := Stands.sub left right less
  exact rounds.pack stands small

theorem isNumber_one : IsNumber 1.0 1 := by
  have positive : 0 < 2 ^ 52 := by decide
  have same : (1 : Rat) = scaled (2 ^ 52) (-52) := by
    unfold scaled
    norm_num
  exact .finite positive (by decide) (by decide) (.inl (le_refl _)) same

theorem Rounds.eq (rounds : Rounds first number)
    (exact : Representable first) : number = first :=
  le_antisymm (rounds.above _ exact (le_refl _))
    (rounds.below _ exact (le_refl _))

theorem ofNat_of_short {natural : Nat} (short : natural < 2 ^ 53) :
    Float.ofNat natural = natural.toUInt64.toFloat * 1.0 := by
  change Float.ofScientific natural false 0 = _
  unfold Float.ofScientific
  rw [dif_pos ⟨short, by decide⟩]
  rfl

theorem ofNat_of_long {natural : Nat} (long : ¬natural < 2 ^ 53) :
    Float.ofNat natural = .ofModel (.ofScientific natural 0) := by
  change Float.ofScientific natural false 0 = _
  unfold Float.ofScientific
  rw [dif_neg fun both => long both.1]
  rfl

theorem toFloat_toUInt64 {natural : Nat} (short : natural < 2 ^ 53) :
    natural.toUInt64.toFloat = .ofModel (.pack
      (UnpackedFloat.normalize Format.binary64 natural 0 .positive)) := by
  have size : natural.toUInt64.toNat = natural := by
    rw [Nat.toUInt64_eq, UInt64.toNat_ofNat']
    omega
  simp only [UInt64.toFloat, Float.Model.ofUInt64, UnpackedFloat.ofUInt64,
    UnpackedFloat.ofNat, UnpackedFloat.ofInt, size]

theorem ofScientific_of_pos {natural : Nat} (positive : 0 < natural) :
    UnpackedFloat.ofScientific Format.binary64 natural 0 =
      roundWithAccuracy Format.binary64 .positive (natural <<< 53) (-53)
        .exact := by
  have low : ¬(0 : Int) < -((2 ^ 11 : Int) + natural.log2) := by omega
  have product : (natural <<< 53) * 10 ^ (0 : Int).toNat = natural <<< 53 :=
    Nat.mul_one _
  unfold UnpackedFloat.ofScientific
  rw [dif_neg (Nat.pos_iff_ne_zero.mp positive), if_neg (by decide),
    if_neg low, if_pos (by decide)]
  conv_rhs => rw [← product]
  rfl

/-- A whole number is rounded once. -/
theorem isNumber_ofNat {natural : Nat} (small : natural ≤ 2 ^ 200) :
    ∃ number, IsNumber (.ofNat natural) number ∧ Rounds natural number := by
  have least : (natural : Rat) ≤ 2 ^ 200 := by exact_mod_cast small
  have value : scaled natural 0 = natural := by simp [scaled]
  by_cases short : natural < 2 ^ 53
  · obtain ⟨number, stands, rounds⟩ := exists_stands_normalize natural 0
    rw [value] at rounds
    obtain ⟨whole, here, same⟩ := rounds.pack stands least
    rw [same.eq (representable_natCast short.le),
      ← toFloat_toUInt64 short] at here
    have product := here.mul isNumber_one (by rwa [mul_one])
    rwa [mul_one, ← ofNat_of_short short] at product
  · have positive : 0 < natural := by omega
    have long : 52 ≤ (natural <<< 53).log2 := by
      rw [log2_shiftLeft positive]
      omega
    have rounds := rounds_exact (natural <<< 53) (0 - (53 : Nat))
    rw [scaled_shiftLeft, value] at rounds
    rw [ofNat_of_long short, Float.Model.ofScientific,
      ofScientific_of_pos positive]
    exact rounds.pack
      (stands_roundWithAccuracy .positive .exact (.inl long)) least

theorem IsNumber.exists_finite (left : IsNumber x first)
    (positive : 0 < first) :
    ∃ mantissa exponent, ∃ nonzero : 0 < mantissa,
      x.toModel.unpack = .finite .positive mantissa exponent nonzero ∧
        first = scaled mantissa exponent ∧ mantissa < 2 ^ 53 ∧
        -1074 ≤ exponent ∧ (2 ^ 52 ≤ mantissa ∨ exponent = -1074) := by
  unfold IsNumber at left
  generalize x.toModel.unpack = unpacked at left
  cases left with
  | zero side zero => exact absurd zero positive.ne'
  | finite nonzero short least form value =>
      exact ⟨_, _, nonzero, rfl, value, short, least, form⟩

/-! ## Numbers that may be infinite -/

theorem atLeast_pack_infinity (bound : Rat) :
    AtLeast (.ofModel (.pack (.infinity .positive))) bound :=
  .inl rfl

/-- A positive number times infinity is infinite. -/
theorem AtLeast.mul (left : IsNumber x first) (right : AtLeast y bound)
    (positive : 0 < first) {least : Rat} (exact : Representable least)
    (above : least ≤ first * bound) : AtLeast (x * y) least := by
  change AtLeast (.ofModel (.pack (UnpackedFloat.mul _ _ _))) least
  rcases right with infinite | ⟨second, right, within⟩
  · obtain ⟨_, _, _, here, -⟩ := left.exists_finite positive
    rw [infinite, here]
    exact atLeast_pack_infinity least
  · obtain ⟨_, stands, rounds⟩ := Stands.mul left right
    exact atLeast_pack stands (rounds.below _ exact (above.trans
      (mul_le_mul_of_nonneg_left within positive.le)))

/-- A dividend is shifted until its quotient is long, or its exponent small. -/
theorem divCore_spec (dividend divisor : Nat) (here there : Int) :
    ∃ (shift : Nat) (target : Int) (accuracy : Accuracy),
      divCore Format.binary64 dividend here divisor there =
          ((dividend <<< shift) / divisor, target, accuracy) ∧
        here - shift = there + target ∧
        (divisor.log2 + 53 ≤ dividend.log2 + shift ∨ target ≤ -1074) := by
  refine ⟨_, _, _, rfl, ?_⟩
  have bits : ((Format.binary64.mantissaBits : Nat) : Int) = 53 := rfl
  have least : Format.binary64.minExponent = -1074 := rfl
  simp only [Format.targetExponent, totalExponent, bits, least]
  omega

/-- The quotient of two mantissas has enough bits, and cutting it does not bring
it below one. -/
theorem one_le_divCore {dividend divisor : Nat} {here there : Int}
    (positive : 0 < dividend) (also : 0 < divisor)
    (less : scaled divisor there ≤ scaled dividend here) :
    let quotient := divCore Format.binary64 dividend here divisor there
    1 ≤ scaled quotient.1 quotient.2.1 ∧
      (52 ≤ quotient.1.log2 ∨ quotient.2.1 ≤ -1074) := by
  obtain ⟨shift, target, accuracy, divided, places, bits⟩ :=
    divCore_spec dividend divisor here there
  simp only [divided]
  have long : divisor.log2 + 53 ≤ dividend.log2 + shift →
      2 ^ 52 ≤ (dividend <<< shift) / divisor := by
    intro more
    rw [Nat.le_div_iff_mul_le also]
    calc 2 ^ 52 * divisor ≤ 2 ^ 52 * 2 ^ (divisor.log2 + 1) :=
          Nat.mul_le_mul_left _ Nat.lt_log2_self.le
      _ = 2 ^ (divisor.log2 + 53) := by ring
      _ ≤ 2 ^ (dividend <<< shift).log2 := by
          rw [log2_shiftLeft positive]
          exact Nat.pow_le_pow_right (by decide) more
      _ ≤ dividend <<< shift := Nat.log2_self_le (by
          rw [Nat.shiftLeft_eq]
          positivity)
  constructor
  · by_cases small : target ≤ 0
    · have one : (1 : Rat) = scaled (2 ^ (-target).toNat) target := by
        have same : target + (-target).toNat = 0 := by omega
        rw [← Nat.one_mul (2 ^ _), scaled_mul_two_pow, same]
        simp [scaled]
      rw [one, scaled_le_scaled_iff, Nat.le_div_iff_mul_le also,
        ← @scaled_le_scaled_iff _ _ (here - shift), scaled_shiftLeft,
        Nat.mul_comm, scaled_mul_two_pow]
      convert less using 2
      omega
    · have whole : 1 ≤ (dividend <<< shift) / divisor := by
        have enough := long (by omega)
        omega
      calc (1 : Rat) = scaled 1 0 := by simp [scaled]
        _ ≤ scaled 1 target := scaled_le_of_exponent _ (by omega)
        _ ≤ _ := scaled_le_scaled_iff.mpr whole
  · rcases bits with more | lowest
    · left
      have enough := long more
      rw [Nat.le_log2 (by omega)]
      exact enough
    · exact .inr lowest

theorem AtLeast.div (left : AtLeast x bound) (right : IsNumber y second)
    (positive : 0 < second) (above : second ≤ bound) :
    AtLeast (x / y) 1 := by
  obtain ⟨divisor, place, also, there, equal, -⟩ :=
    right.exists_finite positive
  change AtLeast (.ofModel (.pack (UnpackedFloat.div _ _ _))) 1
  rcases left with infinite | ⟨first, left, within⟩
  · rw [infinite, there]
    exact atLeast_pack_infinity 1
  · obtain ⟨dividend, exponent, nonzero, here, value, -⟩ :=
      left.exists_finite (positive.trans_le (above.trans within))
    have less := above.trans within
    rw [value, equal] at less
    have quotient := one_le_divCore nonzero also less
    rw [here, there]
    exact atLeast_pack (stands_roundWithAccuracy .positive _ quotient.2)
      (le_scaled_rounded _ (representable_two_pow 0) quotient.1)

/-! ## Cutting to whole numbers -/

theorem le_toNat_ofNatClamp_iff {whole natural : Nat}
    (small : whole < 2 ^ 64) :
    whole ≤ (UInt64.ofNatClamp natural).toNat ↔ whole ≤ natural := by
  unfold UInt64.ofNatClamp
  simp only [UInt64.size]
  split
  · rw [UInt64.toNat_ofNatLT]
  · rw [UInt64.toNat_ofNatLT]
    omega

theorem roundToInt_eq (mantissa : Nat) (exponent : Int) :
    roundToInt .positive mantissa exponent =
      ((mantissa <<< exponent.toNat / 2 ^ (-exponent).toNat : Nat) : Int) := by
  have places : (0 - (exponent - exponent.toNat)).toNat =
      (-exponent).toNat := by omega
  simp only [roundToInt, decreaseExponent, shiftToExponent, Sign.apply,
    mantissa_shiftRight, ExtendedMantissa.ofMantissaAndAccuracy, Int.sub_zero,
    places]

theorem le_cut_iff (whole mantissa : Nat) (exponent : Int) :
    whole ≤ mantissa <<< exponent.toNat / 2 ^ (-exponent).toNat ↔
      (whole : Rat) ≤ scaled mantissa exponent := by
  have value : (whole : Rat) =
      scaled (whole * 2 ^ (-exponent).toNat) (exponent - exponent.toNat) := by
    rw [scaled_mul_two_pow]
    have same : exponent - exponent.toNat + (-exponent).toNat = 0 := by omega
    rw [same]
    simp [scaled]
  rw [Nat.le_div_iff_mul_le (by positivity), value,
    ← scaled_shiftLeft mantissa exponent.toNat, scaled_le_scaled_iff]

/-- A number is cut to the largest whole number that is not above it. -/
theorem IsNumber.le_toUInt64_iff (left : IsNumber x first) {whole : Nat}
    (small : whole < 2 ^ 64) :
    whole ≤ x.toUInt64.toNat ↔ (whole : Rat) ≤ first := by
  change whole ≤ (UInt64.ofNatClamp
    (x.toModel.unpack.toInt 0 _).toNat).toNat ↔ _
  rw [le_toNat_ofNatClamp_iff small]
  unfold IsNumber at left
  generalize x.toModel.unpack = unpacked at left
  cases left with
  | zero side zero =>
      subst zero
      simp [UnpackedFloat.toInt]
  | finite nonzero short least form value =>
      rw [value, ← le_cut_iff, UnpackedFloat.toInt, roundToInt_eq,
        Int.toNat_natCast]

theorem AtLeast.le_toUInt64 {whole : Nat} (left : AtLeast x whole)
    (small : whole < 2 ^ 64) : whole ≤ x.toUInt64.toNat := by
  rcases left with infinite | ⟨first, left, within⟩
  · change _ ≤ x.toModel.unpack.toUInt64.toNat
    rw [infinite]
    exact Nat.le_of_lt_succ small
  · exact (left.le_toUInt64_iff small).mpr within

/-! ## Gaps -/

/-- Numbers of binary64 are not that fine unless they are small. -/
theorem IsNumber.exists_long (here : IsNumber x number) (large : 1 ≤ number) :
    ∃ mantissa exponent, 2 ^ 52 ≤ mantissa ∧ mantissa < 2 ^ 53 ∧
      -1074 ≤ exponent ∧ number = scaled mantissa exponent := by
  obtain ⟨mantissa, exponent, _, _, rfl, short, least, long | rfl⟩ :=
    here.exists_finite (zero_lt_one.trans_le large)
  · exact ⟨_, _, long, short, least, rfl⟩
  · have tiny : scaled (2 ^ 53) (-1074) < 1 := by
      calc scaled (2 ^ 53) (-1074) ≤ scaled (2 ^ 53) (-54) :=
            scaled_le_of_exponent _ (by decide)
        _ < 1 := by
            unfold scaled
            norm_num
    exact absurd large
      ((scaled_lt_scaled_iff.mpr short).trans tiny).not_ge

/-- Between a large number and what a small part of it leaves lie numbers that
binary64 can represent. -/
theorem IsNumber.exists_gap (here : IsNumber x number)
    (large : 2 ^ 18 ≤ number) :
    ∃ bound, Representable bound ∧ (1 - 1 / 2 ^ 17) * number ≤ bound ∧
      bound + 1 ≤ number := by
  obtain ⟨mantissa, exponent, long, short, least, rfl⟩ :=
    here.exists_long (le_trans (by norm_num) large)
  have unit : (0 : Rat) < 2 ^ exponent := by positivity
  have cut : mantissa / 2 ^ 17 * 2 ^ 17 ≤ mantissa := Nat.div_mul_le_self ..
  have much : mantissa ≤ mantissa / 2 ^ 17 * 2 ^ 18 := by omega
  have less : mantissa / 2 ^ 17 ≤ mantissa := Nat.div_le_self ..
  refine ⟨scaled (mantissa - mantissa / 2 ^ 17) exponent,
    ⟨_, _, by omega, least, rfl⟩, ?_, ?_⟩
  · have left : (1 - 1 / 2 ^ 17 : Rat) * mantissa ≤
        (mantissa - mantissa / 2 ^ 17 : Nat) := by
      have part : ((mantissa / 2 ^ 17 * 2 ^ 17 : Nat) : Rat) ≤ mantissa :=
        Nat.cast_le.mpr cut
      rw [Nat.cast_sub less]
      push_cast at part ⊢
      linarith
    unfold scaled
    rw [← mul_assoc]
    exact mul_le_mul_of_nonneg_right left unit.le
  · have taken : 1 ≤ scaled (mantissa / 2 ^ 17) exponent := by
      have whole : scaled mantissa exponent ≤
          scaled (mantissa / 2 ^ 17 * 2 ^ 18) exponent :=
        scaled_le_scaled_iff.mpr much
      unfold scaled at *
      push_cast at whole
      linarith
    have split : scaled (mantissa - mantissa / 2 ^ 17) exponent +
        scaled (mantissa / 2 ^ 17) exponent = scaled mantissa exponent := by
      unfold scaled
      rw [← add_mul, ← Nat.cast_add, Nat.sub_add_cancel less]
    linarith

end Operations

end OvsdbClient.Binary64
