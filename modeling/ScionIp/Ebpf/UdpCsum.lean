import ScionIp.Lib.Bits
import ScionIp.Lib.InternetChecksum

/-!
# `udp_csum`: the checksum of a pseudo-header

The words of both addresses, the protocol and the length are added up in 32 bits, which is enough
for them (`toNat_pseudoSum`). The statement that should add the carries back puts the two low bytes
of the sum together again, so the carries are dropped.

* `toNat_udpCsum` — what `udp_csum` returns.
* `udpCsum_iff` — it is the Internet checksum exactly if the sum has no carry.
-/

namespace ScionIp.Ebpf

open ScionIp.Lib

/-- The statements about one address: its bytes are added up in pairs, the first byte of a pair on
top. Source: `common.h`, `udp_csum`. Kind: D -/
def addWords : UInt32 → Bytes → UInt32
  | res, a :: b :: rest => addWords (res + ((a.toUInt32 <<< 8) ||| b.toUInt32)) rest
  | res, _ => res

/-- The sum of the pseudo-header. Source: `common.h`, `udp_csum`. Kind: D -/
def pseudoSum (saddr daddr : List.Vector UInt8 16) (proto : UInt8) (udpLen : UInt16) : UInt32 :=
  addWords (addWords 0 saddr.toList) daddr.toList + proto.toUInt32 + udpLen.toUInt32

/-- Source: `common.h`, `udp_csum`. Kind: D -/
def udpCsum (saddr daddr : List.Vector UInt8 16) (proto : UInt8) (udpLen : UInt16) : UInt16 :=
  let res := pseudoSum saddr daddr proto udpLen
  let res := (res &&& 0xFF00) + (res &&& 0xFF)
  ~~~ res.toUInt16

/-- The sum of the words of the pseudo-header, of any size. Kind: D -/
def headerSum (saddr daddr : List.Vector UInt8 16) (proto : UInt8) (udpLen : UInt16) : ℕ :=
  wordSum saddr.toList + wordSum daddr.toList + proto.toNat + udpLen.toNat

/-- **The Internet checksum of the pseudo-header**: the complement of the one's complement sum.
Kind: D -/
def ChecksumRight (saddr daddr : List.Vector UInt8 16) (proto : UInt8) (udpLen : UInt16) : Prop :=
  (udpCsum saddr daddr proto udpLen).toNat
    = 0xFFFF - foldCarry (headerSum saddr daddr proto udpLen)

/-- Two bytes are a word. Kind: L -/
theorem toNat_word (a b : UInt8) :
    ((a.toUInt32 <<< 8) ||| b.toUInt32).toNat = a.toNat * 2 ^ 8 + b.toNat := by
  have ha := a.toNat_lt
  have hshift : (a.toUInt32 <<< 8).toNat = a.toNat <<< 8 := by
    rw [UInt32.toNat_shiftLeft, UInt8.toNat_toUInt32]
    apply Nat.mod_eq_of_lt
    rw [Nat.shiftLeft_eq]
    exact lt_of_lt_of_le (Nat.mul_lt_mul_of_pos_right ha (Nat.two_pow_pos _)) (by decide)
  rw [UInt32.toNat_or, hshift, UInt8.toNat_toUInt32]
  exact or_shiftLeft b.toNat_lt a.toNat

/-- The words of an address are added without an overflow. Kind: L -/
theorem toNat_addWords {res : UInt32} {bs : Bytes} (heven : bs.length % 2 = 0)
    (hroom : res.toNat + wordSum bs < 2 ^ 32) :
    (addWords res bs).toNat = res.toNat + wordSum bs := by
  induction bs using wordSum.induct generalizing res with
  | case1 => rfl
  | case2 a => cases heven
  | case3 a b bs ih =>
      have hrest : bs.length % 2 = 0 := by
        rw [List.length_cons, List.length_cons] at heven
        omega
      rw [wordSum] at hroom ⊢
      have hadd : (res + ((a.toUInt32 <<< 8) ||| b.toUInt32)).toNat
          = res.toNat + (a.toNat * 2 ^ 8 + b.toNat) := by
        rw [UInt32.toNat_add, toNat_word]
        apply Nat.mod_eq_of_lt
        exact lt_of_le_of_lt (Nat.add_le_add_left (Nat.le_add_right _ _) _) hroom
      have hnext : (res + ((a.toUInt32 <<< 8) ||| b.toUInt32)).toNat + wordSum bs < 2 ^ 32 := by
        rwa [hadd, Nat.add_assoc]
      rw [addWords, ih hrest hnext, hadd, Nat.add_assoc]

section Csum

variable (saddr daddr : List.Vector UInt8 16) (proto : UInt8) (udpLen : UInt16)

/-- The eighteen terms are below eighteen words. Kind: L -/
theorem headerSum_lt : headerSum saddr daddr proto udpLen < 2 ^ 21 := by
  have hs := wordSum_le saddr.toList
  have hd := wordSum_le daddr.toList
  have hproto := proto.toNat_lt
  have hlen := udpLen.toNat_lt
  rw [List.Vector.toList_length] at hs hd
  rw [headerSum]
  omega

/-- **The sum does not overflow.** Kind: L -/
theorem toNat_pseudoSum :
    (pseudoSum saddr daddr proto udpLen).toNat = headerSum saddr daddr proto udpLen := by
  have hlt := headerSum_lt saddr daddr proto udpLen
  rw [headerSum] at hlt ⊢
  have heven : ∀ addr : List.Vector UInt8 16, addr.toList.length % 2 = 0 := by
    intro addr
    rw [List.Vector.toList_length]
  have hs : (addWords 0 saddr.toList).toNat = wordSum saddr.toList := by
    rw [toNat_addWords (heven saddr), UInt32.toNat_zero, Nat.zero_add]
    rw [UInt32.toNat_zero]
    omega
  have hd : (addWords (addWords 0 saddr.toList) daddr.toList).toNat
      = wordSum saddr.toList + wordSum daddr.toList := by
    rw [toNat_addWords (heven daddr), hs]
    rw [hs]
    omega
  rw [pseudoSum, UInt32.toNat_add, UInt32.toNat_add, hd, UInt8.toNat_toUInt32,
    UInt16.toNat_toUInt32]
  omega

/-- Two bytes of a sum put together again are the sum without its carries. Kind: L -/
theorem toNat_bytes (res : UInt32) :
    ((res &&& 0xFF00) + (res &&& 0xFF)).toNat = res.toNat % 2 ^ 16 := by
  have hhigh : (res &&& 0xFF00).toNat = bitField res.toNat 8 8 * 2 ^ 8 :=
    and_shifted_ones res.toNat 8 8
  have hlow : (res &&& 0xFF).toNat = bitField res.toNat 0 8 := and_ones res.toNat 8
  have hboth : bitField res.toNat 8 8 * 2 ^ 8 + bitField res.toNat 0 8 = res.toNat % 2 ^ 16 := by
    have h := bitField_add res.toNat 0 8 8
    rw [Nat.zero_add] at h
    rw [← h, bitField, pow_zero, Nat.div_one]
  rw [UInt32.toNat_add, hhigh, hlow, hboth]
  omega

/-- **What `udp_csum` returns**: the complement of the low 16 bits of the sum. Kind: L -/
theorem toNat_udpCsum :
    (udpCsum saddr daddr proto udpLen).toNat
      = 0xFFFF - headerSum saddr daddr proto udpLen % 2 ^ 16 := by
  rw [udpCsum, UInt16.toNat_not, UInt32.toNat_toUInt16, toNat_bytes, toNat_pseudoSum,
    Nat.mod_mod]
  rfl

/-- **When `udp_csum` returns the Internet checksum.** For all addresses, protocols and lengths:
exactly if their sum has no carry beyond 16 bits. Kind: P -/
theorem udpCsum_iff :
    ChecksumRight saddr daddr proto udpLen ↔ headerSum saddr daddr proto udpLen < 2 ^ 16 := by
  have hlt := headerSum_lt saddr daddr proto udpLen
  have hfold := foldCarry_lt (headerSum saddr daddr proto udpLen)
  have hmod : headerSum saddr daddr proto udpLen % 2 ^ 16 < 2 ^ 16 := Nat.mod_lt _ (by norm_num)
  rw [← mod_eq_foldCarry_iff (by omega), ChecksumRight, toNat_udpCsum]
  omega

end Csum

/-- An address whose first word is all ones. Kind: D -/
def onesAddress : List.Vector UInt8 16 := 0xFF ::ᵥ 0xFF ::ᵥ List.Vector.replicate 14 0

/-- **The carry is dropped**: for an address whose first word is all ones and protocol 1 the sum is
`0x10000`, the checksum `0xFFFE`, and `udp_csum` returns `0xFFFF`. Kind: C -/
theorem udpCsum_drops_carry :
    udpCsum onesAddress (List.Vector.replicate 16 0) 1 0 = 0xFFFF ∧
      ¬ ChecksumRight onesAddress (List.Vector.replicate 16 0) 1 0 := by
  have hreturns : udpCsum onesAddress (List.Vector.replicate 16 0) 1 0 = 0xFFFF := by decide +kernel
  have hsum : headerSum onesAddress (List.Vector.replicate 16 0) 1 0 = 0x10000 := by decide +kernel
  refine ⟨hreturns, ?_⟩
  rw [ChecksumRight, hreturns, hsum, foldCarry, if_neg (by norm_num), foldCarry,
    if_pos (by norm_num)]
  decide

end ScionIp.Ebpf
