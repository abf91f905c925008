import ScionIp.Lib.Bits
import ScionIp.Lib.ByteOrder

/-!
# A linear buffer: reading and overwriting byte ranges

* `peek m off n` — the `n` bytes at offset `off`; `byteAt m off` — the single byte there.
* `poke m off bs` — the buffer with `bs` written at offset `off`. The buffer never changes size:
  bytes that would fall past its end are not written, so `length_poke` has no side condition, and
  neither has the frame rule `peek_poke_of_disjoint`.
* Everything is derived from one pointwise description of a write, `getElem?_poke`: a read inside
  the written range sees the bytes written (`peek_poke_self`), a read beside it sees the old
  buffer (`peek_poke_of_disjoint`), and the tail past the range is untouched
  (`drop_poke_of_le`).
-/

namespace ScionIp.Lib

/-- The `n` bytes of a buffer at offset `off`. Kind: D -/
def peek (m : Bytes) (off n : ℕ) : Bytes := (m.drop off).take n

/-- The byte at offset `off`, zero past the end. Kind: D -/
def byteAt (m : Bytes) (off : ℕ) : UInt8 := m.getD off 0

/-- The buffer with `bs` written over it at offset `off`; what falls past the end is lost.
Kind: D -/
def poke : Bytes → ℕ → Bytes → Bytes
  | [], _, _ => []
  | b :: m, 0, [] => b :: m
  | _ :: m, 0, c :: cs => c :: poke m 0 cs
  | b :: m, off + 1, cs => b :: poke m off cs

/-! ## The pointwise description of a write -/

/-- A write keeps the size of the buffer. Kind: L -/
@[simp] theorem length_poke (m : Bytes) (off : ℕ) (bs : Bytes) :
    (poke m off bs).length = m.length := by
  induction m, off, bs using poke.induct with
  | case1 off bs => rfl
  | case2 b m => rfl
  | case3 b m c cs ih => simp [poke, ih]
  | case4 b m off cs ih => simp [poke, ih]

/-- **What a write does to each byte.** Kind: P -/
theorem getElem?_poke (m : Bytes) (off : ℕ) (bs : Bytes) (i : ℕ) :
    (poke m off bs)[i]? =
      if off ≤ i ∧ i < off + bs.length ∧ i < m.length then bs[i - off]? else m[i]? := by
  induction m, off, bs using poke.induct generalizing i with
  | case1 off bs => simp [poke]
  | case2 b m => simp [poke]
  | case3 b m c cs ih =>
      cases i with
      | zero => simp [poke]
      | succ i => simp [poke, ih]
  | case4 b m off cs ih =>
      cases i with
      | zero => simp [poke]
      | succ i =>
          simp only [poke, List.getElem?_cons_succ, ih, List.length_cons, Nat.reduceSubDiff]
          exact if_congr (by omega) rfl rfl

/-- What a read sees at each position. Kind: L -/
theorem getElem?_peek (m : Bytes) (off n i : ℕ) :
    (peek m off n)[i]? = if i < n then m[off + i]? else none := by
  simp [peek, List.getElem?_take]

/-- A read inside the buffer has the width asked for. Kind: L -/
theorem length_peek {m : Bytes} {off n : ℕ} (h : off + n ≤ m.length) :
    (peek m off n).length = n := by
  simp [peek]
  omega

/-- A byte of a read. Kind: L -/
theorem byteAt_peek {m : Bytes} {off n i : ℕ} (h : i < n) :
    byteAt (peek m off n) i = byteAt m (off + i) := by
  simp [byteAt, List.getD_eq_getElem?_getD, getElem?_peek, h]

/-- Equal reads see equal first bytes. Kind: L -/
theorem byteAt_of_peek_eq {m m' : Bytes} {off off' n : ℕ} (h : peek m off n = peek m' off' n)
    (hn : 0 < n) : byteAt m off = byteAt m' off' := by
  rw [← Nat.add_zero off, ← Nat.add_zero off', ← byteAt_peek hn, h, byteAt_peek hn]

/-- A read of one byte. Kind: L -/
theorem peek_one {m : Bytes} {off : ℕ} (h : off < m.length) : peek m off 1 = [byteAt m off] := by
  rw [peek, List.drop_eq_getElem_cons h, List.take_succ_cons, List.take_zero, byteAt,
    List.getD_eq_getElem _ _ h]

/-! ## Reads after writes -/

/-- A read of exactly the range written. Kind: L -/
theorem peek_poke_self {m : Bytes} {off : ℕ} {bs : Bytes} (h : off + bs.length ≤ m.length) :
    peek (poke m off bs) off bs.length = bs := by
  apply List.ext_getElem?
  intro i
  rw [getElem?_peek, getElem?_poke]
  by_cases hi : i < bs.length
  · rw [if_pos hi, if_pos (by omega)]
    simp
  · rw [if_neg hi, List.getElem?_eq_none (by omega)]

/-- A read of the range written, with the width spelled otherwise. Kind: L -/
theorem peek_poke_same {m : Bytes} {off n : ℕ} {bs : Bytes} (hn : bs.length = n)
    (h : off + n ≤ m.length) : peek (poke m off bs) off n = bs := by
  subst hn
  exact peek_poke_self h

/-- A read inside the range written. Kind: L -/
theorem peek_poke_inside {m : Bytes} {off off' n : ℕ} {bs : Bytes} (hlo : off' ≤ off)
    (hhi : off + n ≤ off' + bs.length) (h : off' + bs.length ≤ m.length) :
    peek (poke m off' bs) off n = peek bs (off - off') n := by
  apply List.ext_getElem?
  intro i
  rw [getElem?_peek, getElem?_peek, getElem?_poke]
  by_cases hi : i < n
  · rw [if_pos hi, if_pos hi, if_pos (by omega)]
    congr 1
    omega
  · rw [if_neg hi, if_neg hi]

/-- **Frame rule**: a read beside the range written sees the old buffer. Kind: P -/
theorem peek_poke_of_disjoint (m : Bytes) {off n off' : ℕ} {bs : Bytes}
    (h : off + n ≤ off' ∨ off' + bs.length ≤ off) :
    peek (poke m off' bs) off n = peek m off n := by
  apply List.ext_getElem?
  intro i
  rw [getElem?_peek, getElem?_peek, getElem?_poke]
  by_cases hi : i < n
  · rw [if_pos hi, if_pos hi, if_neg (by omega)]
  · rw [if_neg hi, if_neg hi]

/-- The frame rule for one byte. Kind: L -/
theorem byteAt_poke_of_disjoint (m : Bytes) {off off' : ℕ} {bs : Bytes}
    (h : off < off' ∨ off' + bs.length ≤ off) : byteAt (poke m off' bs) off = byteAt m off := by
  simp only [byteAt, List.getD_eq_getElem?_getD, getElem?_poke]
  rw [if_neg (by omega)]

/-- One byte inside the range written. Kind: L -/
theorem byteAt_poke_inside {m : Bytes} {off off' : ℕ} {bs : Bytes} (hlo : off' ≤ off)
    (hhi : off < off' + bs.length) (h : off' + bs.length ≤ m.length) :
    byteAt (poke m off' bs) off = byteAt bs (off - off') := by
  simp only [byteAt, List.getD_eq_getElem?_getD, getElem?_poke]
  rw [if_pos (by omega)]

/-- The tail past the range written is untouched. Kind: L -/
theorem drop_poke_of_le (m : Bytes) {off k : ℕ} {bs : Bytes} (h : off + bs.length ≤ k) :
    (poke m off bs).drop k = m.drop k := by
  apply List.ext_getElem?
  intro i
  rw [List.getElem?_drop, List.getElem?_drop, getElem?_poke, if_neg (by omega)]

/-- A read of a window sees the write cut to the window. Kind: L -/
theorem peek_poke_window {m : Bytes} {off n : ℕ} (bs : Bytes) (h : off + n ≤ m.length) :
    peek (poke m off bs) off n = poke (peek m off n) 0 bs := by
  have hw : (peek m off n).length = n := length_peek h
  apply List.ext_getElem?
  intro i
  rw [getElem?_peek, getElem?_poke, getElem?_poke, getElem?_peek, hw]
  by_cases hi : i < n
  · rw [if_pos hi, if_pos hi, Nat.add_sub_cancel_left, Nat.sub_zero]
    exact if_congr (by omega) rfl rfl
  · rw [if_neg hi, if_neg hi, if_neg (by omega)]

/-- What lies behind an offset inside the range written: the rest of the bytes is written over it.
Kind: L -/
theorem drop_poke (m : Bytes) {off k : ℕ} (bs : Bytes) (h : off ≤ k) :
    (poke m off bs).drop k = poke (m.drop k) 0 (bs.drop (k - off)) := by
  apply List.ext_getElem?
  intro i
  rw [List.getElem?_drop, getElem?_poke, getElem?_poke, List.getElem?_drop, List.getElem?_drop,
    List.length_drop, List.length_drop, Nat.sub_zero,
    show k + i - off = k - off + i by omega]
  exact if_congr (by omega) rfl rfl

/-- Two adjacent writes are one. Kind: L -/
theorem poke_append (m : Bytes) (off : ℕ) (as bs : Bytes) :
    poke (poke m off as) (off + as.length) bs = poke m off (as ++ bs) := by
  apply List.ext_getElem?
  intro i
  simp only [getElem?_poke, length_poke, List.length_append, List.getElem?_append]
  split_ifs <;> first | rfl | omega | (congr 1; omega)

/-- Writing nothing changes nothing. Kind: L -/
@[simp] theorem poke_nil (m : Bytes) (off : ℕ) : poke m off [] = m := by
  apply List.ext_getElem?
  intro i
  rw [getElem?_poke, if_neg (by simp; omega)]

/-! ## Reads of a concatenation -/

/-- A read inside the first part of a concatenation. Kind: L -/
theorem peek_append_left {as bs : Bytes} {off n : ℕ} (h : off + n ≤ as.length) :
    peek (as ++ bs) off n = peek as off n := by
  apply List.ext_getElem?
  intro i
  rw [getElem?_peek, getElem?_peek]
  by_cases hi : i < n
  · rw [if_pos hi, if_pos hi, List.getElem?_append_left (by omega)]
  · rw [if_neg hi, if_neg hi]

/-- A read inside the second part of a concatenation. Kind: L -/
theorem peek_append_right {as : Bytes} (bs : Bytes) {off : ℕ} (n : ℕ) (h : as.length ≤ off) :
    peek (as ++ bs) off n = peek bs (off - as.length) n := by
  simp [peek, List.drop_append, List.drop_eq_nil_of_le h]

/-- A read behind the first byte. Kind: L -/
theorem peek_cons_of_pos (b : UInt8) (m : Bytes) {off : ℕ} (n : ℕ) (h : 0 < off) :
    peek (b :: m) off n = peek m (off - 1) n := by
  obtain ⟨k, rfl⟩ := Nat.exists_eq_succ_of_ne_zero h.ne'
  rfl

/-- A read of equal bytes. Kind: L -/
theorem peek_replicate (b : UInt8) {size off n : ℕ} (h : off + n ≤ size) :
    peek (List.replicate size b) off n = List.replicate n b := by
  rw [peek, List.drop_replicate, List.take_replicate, Nat.min_eq_left (by omega)]

/-- A read inside a read. Kind: L -/
theorem peek_peek (m : Bytes) {off n i k : ℕ} (h : i + k ≤ n) :
    peek (peek m off n) i k = peek m (off + i) k := by
  apply List.ext_getElem?
  intro j
  simp only [getElem?_peek]
  by_cases hj : j < k
  · rw [if_pos hj, if_pos hj, if_pos (by omega), Nat.add_assoc]
  · rw [if_neg hj, if_neg hj]

/-- A read inside what remains after dropping a front part. Kind: L -/
theorem peek_drop (m : Bytes) (k off n : ℕ) : peek (m.drop k) off n = peek m (k + off) n := by
  simp [peek]

/-- A read inside a front part. Kind: L -/
theorem peek_take {m : Bytes} {k off n : ℕ} (h : off + n ≤ k) :
    peek (m.take k) off n = peek m off n := by
  apply List.ext_getElem?
  intro i
  rw [getElem?_peek, getElem?_peek]
  by_cases hi : i < n
  · rw [if_pos hi, if_pos hi, List.getElem?_take, if_pos (by omega)]
  · rw [if_neg hi, if_neg hi]

/-- Two adjacent reads are one. Kind: L -/
theorem peek_add (m : Bytes) (off n k : ℕ) :
    peek m off (n + k) = peek m off n ++ peek m (off + n) k := by
  simp [peek, List.take_add, List.drop_drop]

/-- What remains from an offset on, split behind its first `n` bytes. Kind: L -/
theorem drop_eq_peek_append (m : Bytes) (off n : ℕ) :
    m.drop off = peek m off n ++ m.drop (off + n) := by
  rw [peek, ← List.drop_drop, List.take_append_drop]

/-- A read of a whole buffer. Kind: L -/
theorem peek_zero {m : Bytes} {n : ℕ} (h : m.length ≤ n) : peek m 0 n = m := by
  simp [peek, List.take_of_length_le h]

/-- **A byte range read as a number is a field of the whole number**; `r` bytes follow the range.
Kind: P -/
theorem ofBE_peek (m : Bytes) (off n r : ℕ) (h : m.length = off + n + r) :
    ofBE (peek m off n) = bitField (ofBE m) (8 * r) (8 * n) := by
  have hn : (peek m off n).length = n := length_peek (by omega)
  have hr : (m.drop (off + n)).length = r := by
    rw [List.length_drop]
    omega
  have hsplit : m = m.take off ++ (peek m off n ++ m.drop (off + n)) := by
    rw [← drop_eq_peek_append, List.take_append_drop]
  have hmid : ofBE (peek m off n) < 256 ^ n := by
    have hlt := ofBE_lt (peek m off n)
    rwa [hn] at hlt
  have hlow : ofBE (m.drop (off + n)) < 256 ^ r := by
    have hlt := ofBE_lt (m.drop (off + n))
    rwa [hr] at hlt
  have hnum : ofBE m = (ofBE (m.take off) * 256 ^ n + ofBE (peek m off n)) * 256 ^ r
      + ofBE (m.drop (off + n)) := by
    conv_lhs => rw [hsplit]
    rw [ofBE_append, ofBE_append, List.length_append, hn, hr, pow_add]
    ring
  have hbyte : (2 : ℕ) ^ 8 = 256 := by norm_num
  rw [bitField, pow_mul, pow_mul, hbyte, hnum, Nat.add_comm,
    Nat.add_mul_div_right _ _ (by positivity), Nat.div_eq_of_lt hlow, Nat.zero_add, Nat.add_comm,
    Nat.add_mul_mod_self_right, Nat.mod_eq_of_lt hmid]

end ScionIp.Lib
