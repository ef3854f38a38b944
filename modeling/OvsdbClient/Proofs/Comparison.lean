import OvsdbClient.Proofs.Arithmetic

/-!
# Comparing binary64 numbers

Numbers are compared by their values.  Those that are not negative stand between
infinity and the negative ones, and what is not a number is not comparable.
-/

namespace OvsdbClient.Binary64

open Float.Model (Format UnpackedFloat)
open Float.Model.UnpackedFloat

variable {number : Rat} {unpacked : UnpackedFloat} {x y : Float}
  {first second : Rat}

/-- What a binary64 number can be. -/
theorem stands_unpack (x : Float.Model) :
    x.unpack = .notANumber ∨ (∃ sign, x.unpack = .infinity sign) ∨
      ∃ sign number, Stands sign number x.unpack := by
  have short := (@unpackMantissa Format.binary64 x.toBits.toBitVec).isLt
  have whole :=
    toNat_append_one (@unpackMantissa Format.binary64 x.toBits.toBitVec)
  have bias : ((Format.binary64.exponentBias : Nat) : Int) = 1023 := rfl
  rw [Float.Model.unpack, UnpackedFloat.unpack]
  dsimp only at *
  split
  · split
    · exact .inr (.inl ⟨_, rfl⟩)
    · exact .inl rfl
  · right
    right
    split
    case isTrue first =>
      split
      · exact ⟨.positive, 0, .zero _ rfl⟩
      · rw [first]
        exact ⟨_, _,
          .finite _ (by omega) (by decide) (.inr (by decide)) rfl⟩
    case isFalse notFirst =>
      have least : 1 ≤
          (@unpackExponent Format.binary64 x.toBits.toBitVec).toNat := by
        rw [Nat.one_le_iff_ne_zero]
        intro zero
        exact notFirst (BitVec.eq_of_toNat_eq zero)
      refine ⟨_, _, .finite _ ?_ ?_ (.inl ?_) rfl⟩
      · rw [whole]
        omega
      · rw [bias]
        omega
      · rw [whole]
        omega

theorem scaled_lt_of_exponent {mantissa rival : Nat} {exponent place : Int}
    (short : mantissa < 2 ^ 53) (long : 2 ^ 52 ≤ rival)
    (lower : exponent < place) :
    scaled mantissa exponent < scaled rival place :=
  (scaled_lt_scaled_iff.mpr short).trans_le
    (le_scaled_of_long (le_refl _) lower long)

/-- Numbers in the form of binary64 are compared by their values. -/
theorem Stands.compare_eq {other : Rat} {operand : UnpackedFloat}
    (first : Stands .positive number unpacked)
    (second : Stands .positive other operand) :
    unpacked.compare operand = some (compare number other) := by
  cases first with
  | zero side zero =>
      subst zero
      cases second with
      | zero edge none =>
          rw [none, Std.compare_self]
          rfl
      | finite also thin most shape same =>
          rw [same, compare_lt_iff_lt.mpr (scaled_pos also _)]
          rfl
  | @finite mantissa exponent positive short least form value =>
      cases second with
      | zero side zero =>
          rw [zero, value, compare_gt_iff_gt.mpr (scaled_pos positive _)]
          rfl
      | @finite rival place also thin most shape same =>
          subst value same
          change some ((compare exponent place).then
            (compare mantissa rival)) = _
          congr 1
          rcases Int.lt_trichotomy exponent place with lower | equal | higher
          · rw [Int.compare_eq_lt.mpr lower, compare_lt_iff_lt.mpr
              (scaled_lt_of_exponent short (by omega) lower)]
            rfl
          · subst equal
            rw [Std.compare_self, Ordering.eq_then]
            rcases Nat.lt_trichotomy mantissa rival with less | same | more
            · rw [compare_lt_iff_lt.mpr less,
                compare_lt_iff_lt.mpr (scaled_lt_scaled_iff.mpr less)]
            · rw [same, Std.compare_self, Std.compare_self]
            · rw [compare_gt_iff_gt.mpr more,
                compare_gt_iff_gt.mpr (scaled_lt_scaled_iff.mpr more)]
          · rw [Int.compare_eq_gt.mpr higher, compare_gt_iff_gt.mpr
              (scaled_lt_of_exponent thin (by omega) higher)]
            rfl

theorem Stands.compare_infinity (stands : Stands .positive number unpacked) :
    (infinity .positive).compare unpacked = some .gt := by
  cases stands <;> rfl

theorem Stands.compare_negative_infinity
    (stands : Stands .positive number unpacked) :
    (infinity .negative).compare unpacked = some .lt ∧
      unpacked.compare (infinity .negative) = some .gt := by
  cases stands <;> exact ⟨rfl, rfl⟩

theorem Stands.compare_negative (stands : Stands .positive number unpacked)
    {mantissa : Nat} (exponent : Int) (positive : 0 < mantissa) :
    (UnpackedFloat.finite .negative mantissa exponent positive).compare
        unpacked = some .lt ∧
      unpacked.compare (.finite .negative mantissa exponent positive) =
        some .gt := by
  cases stands <;> exact ⟨rfl, rfl⟩

theorem le_iff_compare :
    x ≤ y ↔
      (x.toModel.unpack.compare y.toModel.unpack).any (·.isLE) = true :=
  decide_eq_true_iff

theorem lt_iff_compare :
    x < y ↔
      (x.toModel.unpack.compare y.toModel.unpack == some .lt) = true :=
  decide_eq_true_iff

theorem IsNumber.le_iff (left : IsNumber x first) (right : IsNumber y second) :
    x ≤ y ↔ first ≤ second := by
  rw [le_iff_compare, Stands.compare_eq left right, Option.any_some]
  exact Ordering.isLE_iff_ne_gt.trans compare_le_iff_le

theorem IsNumber.lt_iff (left : IsNumber x first) (right : IsNumber y second) :
    x < y ↔ first < second := by
  rw [lt_iff_compare, Stands.compare_eq left right, beq_iff_eq, Option.some_inj]
  exact compare_lt_iff_lt

/-- Apart from what is not comparable, from numbers that are not negative and
from infinity there are those that are less than all others. -/
theorem isNaN_or_atLeast_or_lt (x : Float) :
    x.isNaN = true ∨ AtLeast x 0 ∨
      ∀ y second, IsNumber y second → x < y ∧ ¬y ≤ x := by
  have under : ∀ y second, IsNumber y second →
      x.toModel.unpack.compare y.toModel.unpack = some .lt ∧
        y.toModel.unpack.compare x.toModel.unpack = some .gt →
      x < y ∧ ¬y ≤ x := by
    intro y second right order
    rw [lt_iff_compare, le_iff_compare, order.1, order.2]
    exact ⟨rfl, nofun⟩
  rcases stands_unpack x.toModel with none | ⟨sign, infinite⟩ |
    ⟨sign, number, stands⟩
  · left
    change x.toModel.unpack.isNaN = true
    rw [none]
    rfl
  · cases sign with
    | positive => exact .inr (.inl (.inl infinite))
    | negative =>
        refine .inr (.inr fun y second right => under y second right ?_)
        rw [infinite]
        exact Stands.compare_negative_infinity right
  · cases sign with
    | positive => exact .inr (.inl (.inr ⟨number, stands, stands.nonneg⟩))
    | negative =>
        right
        generalize here : x.toModel.unpack = unpacked at stands under
        cases stands with
        | zero side zero =>
            refine .inl (.inr ⟨0, ?_, le_refl 0⟩)
            rw [IsNumber, here]
            exact .zero side rfl
        | finite =>
            exact .inr fun y second right =>
              under y second right (Stands.compare_negative right _ _)

theorem not_le_of_isNaN (none : y.isNaN = true) : ¬x ≤ y := by
  have same : y.toModel.unpack = .notANumber := isNaN_iff.mp none
  rw [le_iff_compare, same]
  cases x.toModel.unpack <;> exact nofun

theorem AtLeast.of_le (left : IsNumber x first) (less : x ≤ y) :
    AtLeast y first := by
  rcases isNaN_or_atLeast_or_lt y with
    none | (infinite | ⟨second, right, _⟩) | under
  · exact absurd less (not_le_of_isNaN none)
  · exact .inl infinite
  · exact .inr ⟨second, right, (left.le_iff right).mp less⟩
  · exact absurd less (under x first left).2

theorem AtLeast.of_not_lt (right : IsNumber y second)
    (comparable : x.isNaN = false) (notLess : ¬x < y) : AtLeast x second := by
  rcases isNaN_or_atLeast_or_lt x with
    none | (infinite | ⟨first, left, _⟩) | under
  · exact absurd none (by rw [comparable]; decide)
  · exact .inl infinite
  · exact .inr
      ⟨first, left, not_lt.mp (mt (left.lt_iff right).mpr notLess)⟩
  · exact absurd (under y second right).1 notLess

theorem IsNumber.of_le (right : IsNumber y second) (nonneg : AtLeast x 0)
    (less : x ≤ y) : ∃ first ≤ second, IsNumber x first := by
  rcases nonneg with infinite | ⟨first, left, _⟩
  · rw [le_iff_compare, infinite] at less
    rw [Stands.compare_infinity right] at less
    cases less
  · exact ⟨first, (left.le_iff right).mp less, left⟩

theorem IsNumber.of_lt (right : IsNumber y second) (nonneg : AtLeast x 0)
    (less : x < y) : ∃ first < second, IsNumber x first := by
  rcases nonneg with infinite | ⟨first, left, _⟩
  · rw [lt_iff_compare, infinite] at less
    rw [Stands.compare_infinity right] at less
    cases less
  · exact ⟨first, (left.lt_iff right).mp less, left⟩

end OvsdbClient.Binary64
