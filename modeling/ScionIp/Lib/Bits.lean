import Mathlib

/-!
# Bit fields of natural numbers

`bitField x off n` is the number in the `n` bits of `x` from bit `off` on. The operators a program
spells fields with (`>>`, `&` with a mask of ones, `|` with a shifted value) are turned into
arithmetic here, so that later proofs are about quotients and remainders only.

* `shiftRight_and_ones`, `and_ones`, `and_shifted_ones` — reading a field.
* `or_shiftLeft`, `or_eq_add_of_dvd`, `or_lt_two_pow_iff` — writing a field above or below others.
* `bitField_add` — a field cut in two at any place.
* `bitField_bitField` — a field of a field.
-/

namespace ScionIp.Lib

/-- The `n` bits of `x` from bit `off` on. Kind: D -/
def bitField (x off n : ℕ) : ℕ := x / 2 ^ off % 2 ^ n

/-- A field is as small as its width says. Kind: L -/
theorem bitField_lt (x off n : ℕ) : bitField x off n < 2 ^ n :=
  Nat.mod_lt _ (Nat.two_pow_pos n)

/-- An empty field holds nothing. Kind: L -/
@[simp] theorem bitField_zero_width (x off : ℕ) : bitField x off 0 = 0 := Nat.mod_one _

/-- Reading a field with a shift and a mask of ones. Kind: L -/
theorem shiftRight_and_ones (x off n : ℕ) : (x >>> off) &&& (2 ^ n - 1) = bitField x off n := by
  rw [Nat.and_two_pow_sub_one_eq_mod, Nat.shiftRight_eq_div_pow, bitField]

/-- Reading the lowest field with a mask of ones. Kind: L -/
theorem and_ones (x n : ℕ) : x &&& (2 ^ n - 1) = bitField x 0 n := by
  rw [← shiftRight_and_ones, Nat.shiftRight_zero]

/-- Keeping a field in place. Kind: L -/
theorem and_shifted_ones (x off n : ℕ) :
    x &&& ((2 ^ n - 1) <<< off) = bitField x off n * 2 ^ off := by
  rw [← shiftRight_and_ones, ← Nat.shiftLeft_eq]
  refine Nat.eq_of_testBit_eq fun i => ?_
  simp only [Nat.testBit_and, Nat.testBit_shiftLeft, Nat.testBit_shiftRight]
  by_cases hi : off ≤ i
  · simp [hi]
  · simp [hi]

/-- Writing a field above everything that is there already. Kind: L -/
theorem or_shiftLeft {x k : ℕ} (hx : x < 2 ^ k) (v : ℕ) : (v <<< k) ||| x = v * 2 ^ k + x := by
  rw [← Nat.shiftLeft_add_eq_or_of_lt hx, Nat.shiftLeft_eq]

/-- Writing a field below everything that is there already. Kind: L -/
theorem or_eq_add_of_dvd {a x k : ℕ} (ha : 2 ^ k ∣ a) (hx : x < 2 ^ k) : a ||| x = a + x := by
  obtain ⟨v, rfl⟩ := ha
  rw [Nat.mul_comm, ← or_shiftLeft hx, Nat.shiftLeft_eq]

/-- Two numbers or-ed together are as small as both of them. Kind: L -/
theorem or_lt_two_pow_iff (a b k : ℕ) : a ||| b < 2 ^ k ↔ a < 2 ^ k ∧ b < 2 ^ k := by
  constructor
  · intro h
    exact ⟨lt_of_le_of_lt Nat.left_le_or h, lt_of_le_of_lt Nat.right_le_or h⟩
  · rintro ⟨ha, hb⟩
    exact Nat.or_lt_two_pow ha hb

/-- A field is the field above it and the field below it. Kind: L -/
theorem bitField_add (x off m n : ℕ) :
    bitField x off (m + n) = bitField x (off + m) n * 2 ^ m + bitField x off m := by
  unfold bitField
  rw [pow_add, pow_add, Nat.mod_mul, Nat.div_div_eq_div_mul]
  ring

/-- A field is zero exactly when both of its parts are. Kind: L -/
theorem bitField_add_eq_zero_iff (x off m n : ℕ) :
    bitField x off (m + n) = 0 ↔ bitField x (off + m) n = 0 ∧ bitField x off m = 0 := by
  rw [bitField_add, Nat.add_eq_zero_iff, Nat.mul_eq_zero]
  simp

/-- A field of a field. Kind: L -/
theorem bitField_bitField (x o : ℕ) {m off n : ℕ} (h : off + n ≤ m) :
    bitField (bitField x o m) off n = bitField x (o + off) n := by
  obtain ⟨d, rfl⟩ := Nat.exists_eq_add_of_le h
  unfold bitField
  rw [add_assoc, pow_add 2 off, Nat.mod_mul_right_div_self, Nat.div_div_eq_div_mul, ← pow_add,
    Nat.mod_mod_of_dvd _ (pow_dvd_pow 2 (Nat.le_add_right n d))]

/-- Two fields put together are as wide as both. Kind: L -/
theorem mul_two_pow_add_lt {hi lo k n : ℕ} (hlo : lo < 2 ^ k) (hhi : hi < 2 ^ n) :
    hi * 2 ^ k + lo < 2 ^ (n + k) := by
  have hle : (hi + 1) * 2 ^ k ≤ 2 ^ n * 2 ^ k := Nat.mul_le_mul_right _ hhi
  rw [Nat.add_mul, Nat.one_mul] at hle
  rw [pow_add]
  exact lt_of_lt_of_le (Nat.add_lt_add_left hlo _) hle

/-- The two fields of a number put together from them. Kind: L -/
theorem bitField_mul_add {hi lo k n : ℕ} (hlo : lo < 2 ^ k) (hhi : hi < 2 ^ n) :
    bitField (hi * 2 ^ k + lo) k n = hi ∧ bitField (hi * 2 ^ k + lo) 0 k = lo := by
  constructor
  · rw [bitField, Nat.add_comm, Nat.add_mul_div_right _ _ (Nat.two_pow_pos k),
      Nat.div_eq_of_lt hlo, Nat.zero_add, Nat.mod_eq_of_lt hhi]
  · rw [bitField, pow_zero, Nat.div_one, Nat.add_comm, Nat.add_mul_mod_self_right,
      Nat.mod_eq_of_lt hlo]

/-- The field of all bits is the number. Kind: L -/
theorem bitField_of_lt {x n : ℕ} (h : x < 2 ^ n) : bitField x 0 n = x := by
  rw [bitField, pow_zero, Nat.div_one, Nat.mod_eq_of_lt h]

end ScionIp.Lib
