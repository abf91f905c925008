import ScionIp.Lib.ByteOrder

/-!
# The Internet checksum

* `wordSum` — the sum of the 16-bit words of a byte string, an odd last byte padded with zero.
* `onesSum` — the one's complement sum: the carries of `wordSum` are added back until none is left.
* A receiver accepts data whose one's complement sum, the checksum included, is `0xFFFF`.
  `onesSum_eq_ones_iff` turns this into a statement about remainders, and `accepted_behind_iff` says
  when data accepted behind one header is accepted behind another one.
-/

namespace ScionIp.Lib

/-- The sum of the 16-bit words. Kind: D -/
def wordSum : Bytes → ℕ
  | [] => 0
  | [a] => a.toNat * 2 ^ 8
  | a :: b :: bs => (a.toNat * 2 ^ 8 + b.toNat) + wordSum bs

/-- The carries beyond 16 bits, added back. Kind: D -/
def foldCarry (n : ℕ) : ℕ := if n < 2 ^ 16 then n else foldCarry (n / 2 ^ 16 + n % 2 ^ 16)
termination_by n
decreasing_by omega

/-- The one's complement sum. Kind: D -/
def onesSum (bs : Bytes) : ℕ := foldCarry (wordSum bs)

/-! ## Sums -/

/-- The words of a string of even length are followed by the words of the rest. Kind: L -/
theorem wordSum_append {as : Bytes} (h : as.length % 2 = 0) (bs : Bytes) :
    wordSum (as ++ bs) = wordSum as + wordSum bs := by
  induction as using wordSum.induct with
  | case1 => rw [List.nil_append, wordSum, Nat.zero_add]
  | case2 a => cases h
  | case3 a b as ih =>
      have hrest : as.length % 2 = 0 := by
        rw [List.length_cons, List.length_cons] at h
        omega
      rw [List.cons_append, List.cons_append, wordSum, wordSum, ih hrest]
      ring

/-- A word has 16 bits. Kind: L -/
theorem wordSum_le (bs : Bytes) : wordSum bs ≤ (bs.length + 1) / 2 * 0xFFFF := by
  induction bs using wordSum.induct with
  | case1 => exact Nat.zero_le _
  | case2 a =>
      have ha := a.toNat_lt
      rw [wordSum, List.length_singleton]
      omega
  | case3 a b bs ih =>
      have ha := a.toNat_lt
      have hb := b.toNat_lt
      rw [wordSum, List.length_cons, List.length_cons]
      omega

/-! ## Carries -/

/-- The folded sum has 16 bits. Kind: L -/
theorem foldCarry_lt (n : ℕ) : foldCarry n < 2 ^ 16 := by
  induction n using foldCarry.induct with
  | case1 n hlt => rwa [foldCarry, if_pos hlt]
  | case2 n hge ih => rwa [foldCarry, if_neg hge]

/-- Adding the carries back keeps the remainder. Kind: L -/
theorem foldCarry_mod (n : ℕ) : foldCarry n % 65535 = n % 65535 := by
  induction n using foldCarry.induct with
  | case1 n hlt => rw [foldCarry, if_pos hlt]
  | case2 n hge ih =>
      rw [foldCarry, if_neg hge, ih]
      omega

/-- Only nothing folds to zero. Kind: L -/
theorem foldCarry_eq_zero_iff (n : ℕ) : foldCarry n = 0 ↔ n = 0 := by
  induction n using foldCarry.induct with
  | case1 n hlt => rw [foldCarry, if_pos hlt]
  | case2 n hge ih =>
      rw [foldCarry, if_neg hge, ih]
      omega

/-- **When dropping the carries is as good as adding them back**: if there are none. The bound keeps
them below the modulus. Kind: L -/
theorem mod_eq_foldCarry_iff {n : ℕ} (hn : n < 2 ^ 31) : n % 2 ^ 16 = foldCarry n ↔ n < 2 ^ 16 := by
  constructor
  · intro h
    have hmod := foldCarry_mod n
    have hzero := foldCarry_eq_zero_iff n
    omega
  · intro hlt
    rw [foldCarry, if_pos hlt, Nat.mod_eq_of_lt hlt]

/-- **When the one's complement sum is all ones.** Kind: P -/
theorem onesSum_eq_ones_iff (bs : Bytes) :
    onesSum bs = 0xFFFF ↔ wordSum bs ≠ 0 ∧ wordSum bs % 65535 = 0 := by
  have hlt := foldCarry_lt (wordSum bs)
  have hmod := foldCarry_mod (wordSum bs)
  have hzero := foldCarry_eq_zero_iff (wordSum bs)
  unfold onesSum
  omega

/-- **Data accepted behind one header is accepted behind another** exactly if the two headers have
the same sum, up to carries. Kind: P -/
theorem accepted_behind_iff {as bs : Bytes} (ha : as.length % 2 = 0) (hb : bs.length % 2 = 0)
    (hbs : wordSum bs ≠ 0) {data : Bytes} (h : onesSum (as ++ data) = 0xFFFF) :
    onesSum (bs ++ data) = 0xFFFF ↔ wordSum as % 65535 = wordSum bs % 65535 := by
  rw [onesSum_eq_ones_iff, wordSum_append ha] at h
  rw [onesSum_eq_ones_iff, wordSum_append hb]
  omega

end ScionIp.Lib
