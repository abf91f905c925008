import Mathlib

/-!
# Byte strings as numbers, and the byte order of a host

* `ofBE` / `toBE n` — a byte string read as a number, most significant byte first, and a number
  written in exactly `n` bytes (keeping the low `8n` bits). They are mutually inverse on strings
  of `n` bytes (`ofBE_toBE`, `toBE_ofBE`).
* `Endian`, `load`, `store` — how a host of either byte order reads a word of its memory and
  writes one.
* `hton n` — the host/network conversion of an `n`-byte word: the identity on a big-endian host,
  a byte reversal on a little-endian one.

The two facts the packet code rests on do not mention the host's byte order:
`store_hton` (a converted word stored is the big-endian text of the number) and `hton_load`
(a word loaded and converted is the number the bytes spell, most significant first). Whatever is
stored *without* a conversion keeps the byte order in its statement.

In all modules `Kind` tells what a declaration is for: D a definition, L a supporting lemma, P a
principal result, C a corollary on one input.
-/

namespace ScionIp.Lib

/-- A string of octets. Kind: D -/
abbrev Bytes := List UInt8

/-! ## Most significant byte first -/

/-- The number a byte string spells, most significant byte first. Kind: D -/
def ofBE (bs : Bytes) : ℕ := bs.foldl (fun acc b => acc * 256 + b.toNat) 0

/-- The low `8n` bits of `v` in exactly `n` bytes, most significant byte first. Kind: D -/
def toBE : ℕ → ℕ → Bytes
  | 0, _ => []
  | n + 1, v => toBE n (v / 256) ++ [UInt8.ofNat v]

/-- The empty string spells zero. Kind: L -/
@[simp] theorem ofBE_nil : ofBE [] = 0 := rfl

/-- One more byte at the end is one more digit in base 256. Kind: L -/
@[simp] theorem ofBE_concat (bs : Bytes) (b : UInt8) :
    ofBE (bs ++ [b]) = ofBE bs * 256 + b.toNat := by
  simp [ofBE]

/-- The number of a concatenation: the first part is shifted past the second. Kind: L -/
theorem ofBE_append (as bs : Bytes) : ofBE (as ++ bs) = ofBE as * 256 ^ bs.length + ofBE bs := by
  induction bs using List.reverseRecOn with
  | nil => simp
  | append_singleton bs b ih =>
      rw [← List.append_assoc, ofBE_concat, ofBE_concat, ih, List.length_append,
        List.length_singleton, pow_succ]
      ring

/-- A string of `n` bytes spells a number below `256 ^ n`. Kind: L -/
theorem ofBE_lt (bs : Bytes) : ofBE bs < 256 ^ bs.length := by
  induction bs using List.reverseRecOn with
  | nil => simp
  | append_singleton bs b ih =>
      have hb : b.toNat < 256 := b.toNat_lt
      rw [ofBE_concat, List.length_append, List.length_singleton, pow_succ]
      omega

/-- `toBE n` writes `n` bytes. Kind: L -/
@[simp] theorem length_toBE (n v : ℕ) : (toBE n v).length = n := by
  induction n generalizing v with
  | zero => rfl
  | succ n ih => simp [toBE, ih]

/-- Writing and reading back keeps the low `8n` bits. Kind: P -/
theorem ofBE_toBE (n v : ℕ) : ofBE (toBE n v) = v % 256 ^ n := by
  induction n generalizing v with
  | zero => simp [toBE, Nat.mod_one]
  | succ n ih =>
      rw [toBE, ofBE_concat, ih, pow_succ, mul_comm (256 ^ n) 256, Nat.mod_mul]
      simp only [UInt8.toNat_ofNat']
      omega

/-- Reading and writing back gives the string. Kind: P -/
theorem toBE_ofBE (bs : Bytes) : toBE bs.length (ofBE bs) = bs := by
  induction bs using List.reverseRecOn with
  | nil => rfl
  | append_singleton bs b ih =>
      have hb : b.toNat < 256 := b.toNat_lt
      have hdiv : (ofBE bs * 256 + b.toNat) / 256 = ofBE bs := by omega
      have hlow : UInt8.ofNat (ofBE bs * 256 + b.toNat) = b := by
        apply UInt8.toNat_inj.mp
        simp only [UInt8.toNat_ofNat']
        omega
      rw [List.length_append, List.length_singleton, toBE, ofBE_concat, hdiv, hlow, ih]

/-- Only the low `8n` bits are written. Kind: L -/
@[simp] theorem toBE_mod (n v : ℕ) : toBE n (v % 256 ^ n) = toBE n v := by
  have h := toBE_ofBE (toBE n v)
  rwa [length_toBE, ofBE_toBE] at h

/-- A string is the text of a number exactly when it spells it. Kind: L -/
theorem eq_toBE_iff {bs : Bytes} {n : ℕ} (h : bs.length = n) (v : ℕ) :
    bs = toBE n v ↔ ofBE bs = v % 256 ^ n := by
  constructor
  · intro heq
    rw [heq, ofBE_toBE]
  · intro heq
    have hback := toBE_ofBE bs
    rw [h, heq, toBE_mod] at hback
    exact hback.symm

/-! ## The byte order of a host -/

/-- The two byte orders. Kind: D -/
inductive Endian where
  | little
  | big
  deriving DecidableEq, Repr

/-- The number a host of order `e` loads from a word of its memory. Kind: D -/
def load : Endian → Bytes → ℕ
  | .little, bs => ofBE bs.reverse
  | .big, bs => ofBE bs

/-- The `n` bytes a host of order `e` stores for a word. Kind: D -/
def store : Endian → ℕ → ℕ → Bytes
  | .little, n, v => (toBE n v).reverse
  | .big, n, v => toBE n v

/-- Host/network conversion of an `n`-byte word. Kind: D -/
def hton : Endian → ℕ → ℕ → ℕ
  | .little, n, v => ofBE (toBE n v).reverse
  | .big, n, v => v % 256 ^ n

/-- A stored word has the width asked for. Kind: L -/
@[simp] theorem length_store (e : Endian) (n v : ℕ) : (store e n v).length = n := by
  cases e <;> simp [store]

/-- A word loaded from `n` bytes is below `256 ^ n`. Kind: L -/
theorem load_lt (e : Endian) (bs : Bytes) : load e bs < 256 ^ bs.length := by
  cases e with
  | little => simpa [load] using ofBE_lt bs.reverse
  | big => exact ofBE_lt bs

/-- A converted word fits its width. Kind: L -/
theorem hton_lt (e : Endian) (n v : ℕ) : hton e n v < 256 ^ n := by
  cases e with
  | little => simpa [hton] using ofBE_lt (toBE n v).reverse
  | big => exact Nat.mod_lt _ (by positivity)

/-- Loading what was stored keeps the low bits. Kind: L -/
theorem load_store (e : Endian) (n v : ℕ) : load e (store e n v) = v % 256 ^ n := by
  cases e <;> simp [load, store, ofBE_toBE]

/-- Storing what was loaded gives the same bytes. Kind: L -/
theorem store_load (e : Endian) (bs : Bytes) : store e bs.length (load e bs) = bs := by
  cases e with
  | little =>
      have h := toBE_ofBE bs.reverse
      rw [List.length_reverse] at h
      simp [store, load, h]
  | big => exact toBE_ofBE bs

/-- **A converted word, stored, is the number in network byte order**, on either host. Kind: P -/
theorem store_hton (e : Endian) (n v : ℕ) : store e n (hton e n v) = toBE n v := by
  cases e with
  | little =>
      have h := toBE_ofBE (toBE n v).reverse
      rw [List.length_reverse, length_toBE] at h
      simp [store, hton, h]
  | big => exact toBE_mod n v

/-- **A loaded word, converted, is the number its bytes spell in network byte order**, on either
host. Kind: P -/
theorem hton_load (e : Endian) (bs : Bytes) : hton e bs.length (load e bs) = ofBE bs := by
  cases e with
  | little =>
      have h := toBE_ofBE bs.reverse
      rw [List.length_reverse] at h
      simp [hton, load, h]
  | big => exact Nat.mod_eq_of_lt (ofBE_lt bs)

end ScionIp.Lib
