import Mathlib.Data.List.Induction
import OvsdbClient.Text.Numeral

/-!
# Decimal numbers

A number is written with the decimal digits that it is read from, and without
leading zeros there is no other way to write it.
-/

namespace OvsdbClient.Text

variable {text : List Char} {number limit : Nat}

theorem digit?_ten_eq_some_iff {char : Char} {value : Nat} :
    digit? 10 char = some value ↔ value < 10 ∧ char = Nat.digitChar value := by
  constructor
  · intro read
    have range : 48 ≤ char.toNat ∧ char.toNat ≤ 57 ∧
        value = char.toNat - 48 := by
      obtain ⟨found, low⟩ := Option.filter_eq_some_iff.mp read
      rw [decide_eq_true_eq] at low
      split at found
      case isTrue decimal =>
        cases found
        exact ⟨decimal.1, decimal.2, rfl⟩
      case isFalse =>
        split at found
        · cases found
          omega
        · split at found
          · cases found
            omega
          · cases found
    obtain ⟨least, greatest, rfl⟩ := range
    have low : char.toNat - 48 < 10 := by omega
    refine ⟨low, Char.toNat_inj.mp ?_⟩
    rw [Nat.toNat_digitChar_of_lt_ten low]
    omega
  · rintro ⟨low, rfl⟩
    have every : ∀ digit < 10,
        digit? 10 (Nat.digitChar digit) = some digit := by decide
    exact every value low

theorem digits?_concat_eq_some_iff {base : Nat} {char : Char} :
    digits? base (text ++ [char]) = some number ↔
      ∃ before digit, digits? base text = some before ∧
        digit? base char = some digit ∧ number = before * base + digit := by
  have last : digits? base (text ++ [char]) =
      (do return (← digits? base text) * base + (← digit? base char)) :=
    List.foldl_append
  simp only [last, Option.bind_eq_bind, Option.bind_eq_some_iff,
    Option.pure_def, Option.some.injEq, exists_and_left,
    eq_comm (b := number)]

/-- A number is read from the digits that it is written with. -/
theorem digits?_toDigits (number : Nat) :
    digits? 10 (Nat.toDigits 10 number) = some number := by
  induction number using Nat.strongRecOn with
  | ind number induction =>
      rw [Nat.toDigits_eq_if (by decide)]
      split
      case isTrue low =>
        rw [← List.nil_append [number.digitChar]]
        exact digits?_concat_eq_some_iff.mpr ⟨0, number, rfl,
          digit?_ten_eq_some_iff.mpr ⟨low, rfl⟩, by omega⟩
      case isFalse high =>
        exact digits?_concat_eq_some_iff.mpr ⟨number / 10, number % 10,
          induction (number / 10) (by omega),
          digit?_ten_eq_some_iff.mpr ⟨by omega, rfl⟩, by omega⟩

theorem toDigits_injective : Function.Injective (Nat.toDigits 10) := by
  intro number other same
  have read := digits?_toDigits number
  rw [same, digits?_toDigits other] at read
  exact (Option.some.inj read).symm

theorem notMem_toDigits {mark : Char} (other : mark.isDigit = false)
    (number : Nat) : mark ∉ Nat.toDigits 10 number := by
  intro member
  have isDigit : mark.isDigit = true :=
    Nat.isDigit_of_mem_toDigits (by decide) (by decide) member
  exact absurd (isDigit.symm.trans other) (by decide)

/-- Digits that do not begin with a zero, unless it is the only one, are those
that their number is written with. -/
theorem eq_toDigits_of_digits? (read : digits? 10 text = some number)
    (nonempty : text ≠ [])
    (shortest : text.head? ≠ some '0' ∨ text.length = 1) :
    text = Nat.toDigits 10 number := by
  -- The last digit is the least one, and the rest is a shorter numeral.
  induction text using List.reverseRecOn generalizing number with
  | nil => exact absurd rfl nonempty
  | append_singleton front last induction =>
      obtain ⟨before, digit, earlier, final, rfl⟩ :=
        digits?_concat_eq_some_iff.mp read
      obtain ⟨low, rfl⟩ := digit?_ten_eq_some_iff.mp final
      cases front with
      | nil =>
          cases earlier
          rw [Nat.zero_mul, Nat.zero_add, Nat.toDigits_of_lt_base low]
          rfl
      | cons first rest =>
          have unpadded : first ≠ '0' := by simpa using shortest
          have same := induction earlier (List.cons_ne_nil _ _)
            (.inl (by simpa using unpadded))
          have positive : 0 < before := by
            refine Nat.pos_of_ne_zero ?_
            rintro rfl
            exact unpadded (List.cons.inj same).1
          rw [same, ← Nat.toDigits_of_lt_base low,
            Nat.toDigits_append_toDigits (by decide) positive low,
            Nat.mul_comm]

theorem numeral?_toDigits (low : number ≤ limit) :
    numeral? limit (Nat.toDigits 10 number) = some number := by
  unfold numeral?
  have digits := digits?_toDigits number
  split
  case h_1 rest written =>
    have isDigit : '+'.isDigit = true :=
      Nat.isDigit_of_mem_toDigits (by decide) (by decide)
        (written ▸ List.mem_cons_self)
    exact absurd isDigit (by decide)
  case h_2 =>
    dsimp only
    rw [if_neg (by simp), digits, Option.filter_some,
      if_pos (by simpa using low)]

theorem le_of_numeral? (read : numeral? limit text = some number) :
    number ≤ limit := by
  unfold numeral? at read
  rw [Option.ite_none_left_eq_some, Option.filter_eq_some_iff] at read
  simpa using read.2.2

end OvsdbClient.Text
