import ScionIp.Lib.Bits
import ScionIp.Ebpf.ScionTypes

/-!
# The fields of a map key

A key is cut out of an address, with the ISD above the AS, and the macros of `scion.h` read and
write its two fields. `SADDR_GET_ISD` masks with `&&` where the other three have `&`, so it says
whether the ISD is zero.

* `KeyFields` — a key as the pair of its fields. `keyFields_write` and `keyFields_run` say that the
  macros that write are updates of the pair, one by one and in any order.
* `keyFields_getScionAddr` — the fields of the key of an address.
* `accessorsAgree_iff` — the macros agree with the layout exactly for the ISDs 0 and 1.
-/

namespace ScionIp.Ebpf

open ScionIp.Lib

/-! ## The macros -/

/-- The operator `&&` of C. Kind: D -/
def logicalAnd (a b : UInt32) : ℤ := if a ≠ 0 ∧ b ≠ 0 then 1 else 0

/-- The operator is the logical one. Source: `scion.h`, `SADDR_GET_ISD`. Kind: D -/
def SADDR_GET_ISD (k : ScionAddr) : ℤ := logicalAnd (k >>> 20) 0xFFF

/-- Source: `scion.h`, `SADDR_GET_AS`. Kind: D -/
def SADDR_GET_AS (k : ScionAddr) : UInt32 := k &&& 0xFFFFF

/-- The value that is assigned to the key. Source: `scion.h`, `SADDR_SET_ISD`. Kind: D -/
def SADDR_SET_ISD (k : ScionAddr) (v : UInt32) : ScionAddr :=
  (k &&& (0xFFFFF : UInt32)) ||| ((v &&& 0xFFF) <<< 20)

/-- The value that is assigned to the key. Source: `scion.h`, `SADDR_SET_AS`. Kind: D -/
def SADDR_SET_AS (k : ScionAddr) (v : UInt32) : ScionAddr :=
  (k &&& (0xFFF00000 : UInt32)) ||| (v &&& 0xFFFFF)

/-! ## A key as a pair -/

/-- The ISD and the code of the AS. Kind: D -/
@[ext] structure KeyFields where
  isd : Fin (2 ^ 12)
  asCode : Fin (2 ^ 20)
  deriving DecidableEq

/-- The fields of a key. Kind: D -/
def keyFields (k : ScionAddr) : KeyFields where
  isd := ⟨bitField k.toNat 20 12, bitField_lt _ _ _⟩
  asCode := ⟨bitField k.toNat 0 20, bitField_lt _ _ _⟩

/-- A key is its two fields. Kind: L -/
theorem toNat_eq_keyFields (k : ScionAddr) :
    k.toNat = (keyFields k).isd * 2 ^ 20 + (keyFields k).asCode := by
  have hall : bitField k.toNat 0 (20 + 12) = k.toNat := bitField_of_lt k.toNat_lt
  have hcut := bitField_add k.toNat 0 20 12
  rw [hall] at hcut
  exact hcut

/-- A key put together from two fields has these fields. Kind: L -/
theorem keyFields_eq_of_toNat {k : ScionAddr} {fields : KeyFields}
    (h : k.toNat = fields.isd * 2 ^ 20 + fields.asCode) : keyFields k = fields := by
  obtain ⟨hisd, hcode⟩ := bitField_mul_add fields.asCode.isLt fields.isd.isLt
  rw [← h] at hisd hcode
  exact KeyFields.ext (Fin.ext hisd) (Fin.ext hcode)

/-- **A key is told by its fields.** Kind: P -/
theorem keyFields_injective : Function.Injective keyFields := by
  intro k k' h
  apply UInt32.toNat_inj.mp
  rw [toNat_eq_keyFields k, h, ← toNat_eq_keyFields k']

/-! ## Reading -/

/-- The mask of the AS. Kind: L -/
theorem toNat_and_asMask (w : UInt32) : (w &&& 0xFFFFF).toNat = bitField w.toNat 0 20 := by
  rw [UInt32.toNat_and]
  exact and_ones w.toNat 20

/-- The mask of the ISD in its place. Kind: L -/
theorem toNat_and_isdMask (w : UInt32) :
    (w &&& 0xFFF00000).toNat = bitField w.toNat 20 12 * 2 ^ 20 := by
  rw [UInt32.toNat_and]
  exact and_shifted_ones w.toNat 20 12

/-- **What `SADDR_GET_AS` reads**: the AS. Kind: P -/
theorem toNat_SADDR_GET_AS (k : ScionAddr) :
    (SADDR_GET_AS k).toNat = (keyFields k).asCode := toNat_and_asMask k

/-- The bits above the AS. Kind: L -/
theorem toNat_shiftRight_isd (k : ScionAddr) : (k >>> 20).toNat = (keyFields k).isd := by
  have hkey := k.toNat_lt
  rw [UInt32.toNat_shiftRight, Nat.shiftRight_eq_div_pow]
  exact (Nat.mod_eq_of_lt (by
    change k.toNat / 2 ^ 20 < 2 ^ 12
    omega)).symm

/-- **What `SADDR_GET_ISD` reads**: whether the ISD is zero. Kind: P -/
theorem SADDR_GET_ISD_eq (k : ScionAddr) :
    SADDR_GET_ISD k = if (keyFields k).isd = 0 then 0 else 1 := by
  have hzero : k >>> 20 = 0 ↔ (keyFields k).isd = 0 := by
    rw [← UInt32.toNat_inj, toNat_shiftRight_isd, ← Fin.val_inj]
    rfl
  rw [SADDR_GET_ISD, logicalAnd]
  by_cases hisd : (keyFields k).isd = 0
  · rw [if_pos hisd, if_neg (fun h => h.1 (hzero.mpr hisd))]
  · rw [if_neg hisd, if_pos ⟨mt hzero.mp hisd, by decide⟩]

/-- It reads the ISDs 0 and 1 rightly, and no other one. Kind: L -/
theorem SADDR_GET_ISD_eq_isd_iff (k : ScionAddr) :
    SADDR_GET_ISD k = ((keyFields k).isd : ℕ) ↔ ((keyFields k).isd : ℕ) ≤ 1 := by
  rw [SADDR_GET_ISD_eq]
  by_cases hisd : (keyFields k).isd = 0
  · rw [if_pos hisd, hisd]
    exact iff_of_true rfl (Nat.zero_le 1)
  · have hne : ((keyFields k).isd : ℕ) ≠ 0 := Fin.val_ne_zero_iff.mpr hisd
    rw [if_neg hisd]
    omega

/-! ## Writing -/

/-- A write of one field. Kind: D -/
inductive KeyWrite where
  | isd (v : UInt32)
  | asCode (v : UInt32)

/-- What the macro does to a key. Kind: D -/
def KeyWrite.apply (k : ScionAddr) : KeyWrite → ScionAddr
  | .isd v => SADDR_SET_ISD k v
  | .asCode v => SADDR_SET_AS k v

/-- What is meant by it: the field takes the low bits of the value, the other one stays. Kind: D -/
def KeyWrite.update (fields : KeyFields) : KeyWrite → KeyFields
  | .isd v => { fields with isd := Fin.ofNat (2 ^ 12) v.toNat }
  | .asCode v => { fields with asCode := Fin.ofNat (2 ^ 20) v.toNat }

/-- The number `SADDR_SET_ISD` makes. Kind: L -/
theorem toNat_SADDR_SET_ISD (k : ScionAddr) (v : UInt32) :
    (SADDR_SET_ISD k v).toNat = bitField v.toNat 0 12 * 2 ^ 20 + bitField k.toNat 0 20 := by
  have hvalue : (v &&& 0xFFF).toNat = bitField v.toNat 0 12 := by
    rw [UInt32.toNat_and]
    exact and_ones v.toNat 12
  have hlow := bitField_lt k.toNat 0 20
  have hhigh := bitField_lt v.toNat 0 12
  have hshift : ((v &&& 0xFFF) <<< 20).toNat = bitField v.toNat 0 12 <<< 20 := by
    rw [UInt32.toNat_shiftLeft, hvalue]
    apply Nat.mod_eq_of_lt
    rw [Nat.shiftLeft_eq]
    change bitField v.toNat 0 12 * 2 ^ 20 < 2 ^ 32
    omega
  rw [SADDR_SET_ISD, UInt32.toNat_or, toNat_and_asMask, hshift, Nat.or_comm, or_shiftLeft hlow]

/-- The number `SADDR_SET_AS` makes. Kind: L -/
theorem toNat_SADDR_SET_AS (k : ScionAddr) (v : UInt32) :
    (SADDR_SET_AS k v).toNat = bitField k.toNat 20 12 * 2 ^ 20 + bitField v.toNat 0 20 := by
  rw [SADDR_SET_AS, UInt32.toNat_or, toNat_and_isdMask, toNat_and_asMask]
  exact or_eq_add_of_dvd (Nat.dvd_mul_left _ _) (bitField_lt _ _ _)

/-- `SADDR_SET_ISD` on the fields: the AS is kept. Kind: L -/
theorem keyFields_SADDR_SET_ISD (k : ScionAddr) (v : UInt32) :
    keyFields (SADDR_SET_ISD k v) = { keyFields k with isd := Fin.ofNat (2 ^ 12) v.toNat } := by
  apply keyFields_eq_of_toNat
  rw [toNat_SADDR_SET_ISD]
  simp only [keyFields, Fin.val_ofNat, bitField, pow_zero, Nat.div_one]

/-- `SADDR_SET_AS` on the fields: the ISD is kept. Kind: L -/
theorem keyFields_SADDR_SET_AS (k : ScionAddr) (v : UInt32) :
    keyFields (SADDR_SET_AS k v) = { keyFields k with asCode := Fin.ofNat (2 ^ 20) v.toNat } := by
  apply keyFields_eq_of_toNat
  rw [toNat_SADDR_SET_AS]
  simp only [keyFields, Fin.val_ofNat, bitField, pow_zero, Nat.div_one]

/-- **One write**: the field takes the value, and the other field is kept. Kind: L -/
theorem keyFields_write (k : ScionAddr) (w : KeyWrite) :
    keyFields (w.apply k) = w.update (keyFields k) := by
  cases w with
  | isd v => exact keyFields_SADDR_SET_ISD k v
  | asCode v => exact keyFields_SADDR_SET_AS k v

/-- **Any writes in any order** do to the fields what is meant by them. Kind: P -/
theorem keyFields_run (k : ScionAddr) (ws : List KeyWrite) :
    keyFields (ws.foldl KeyWrite.apply k) = ws.foldl KeyWrite.update (keyFields k) :=
  (List.foldl_hom keyFields fun k w => (keyFields_write k w).symm).symm

/-! ## The key of an address -/

/-- The key of an address is its bits 88 to 119. Kind: L -/
theorem getScionAddr_eq_bitField (e : Endian) {addr : Bytes} (h : addr.length = 16) :
    (getScionAddr e addr).toNat = bitField (ofBE addr) 88 32 := by
  rw [getScionAddr_toNat e h]
  exact ofBE_peek addr 1 4 11 h

/-- **The fields of the key of an address** are its bits 108 to 119, the ISD, and 88 to 107, the AS.
Kind: P -/
theorem keyFields_getScionAddr (e : Endian) {addr : Bytes} (h : addr.length = 16) :
    ((keyFields (getScionAddr e addr)).isd : ℕ) = bitField (ofBE addr) 108 12 ∧
      ((keyFields (getScionAddr e addr)).asCode : ℕ) = bitField (ofBE addr) 88 20 := by
  have hkey := getScionAddr_eq_bitField e h
  constructor
  · show bitField (getScionAddr e addr).toNat 20 12 = _
    rw [hkey]
    exact bitField_bitField (ofBE addr) 88 (le_refl (20 + 12))
  · show bitField (getScionAddr e addr).toNat 0 20 = _
    rw [hkey]
    exact bitField_bitField (ofBE addr) 88 (show 0 + 20 ≤ 32 by norm_num)

/-! ## The accessors and the layout -/

/-- What is said of the four macros, at an address, at a key, and for two values that are set. Of
the ISD it is said both that the field is kept and that it reads as before. Kind: D -/
structure AccessorsAgree (e : Endian) (addr : List.Vector UInt8 16) (k i v : UInt32) : Prop where
  isdOfAddress : SADDR_GET_ISD (getScionAddr e addr.toList) = bitField (ofBE addr.toList) 108 12
  asOfAddress :
    (SADDR_GET_AS (getScionAddr e addr.toList)).toNat = bitField (ofBE addr.toList) 88 20
  isdSet : SADDR_GET_ISD (SADDR_SET_ISD k i) = i.toNat
  asKept : SADDR_GET_AS (SADDR_SET_ISD k i) = SADDR_GET_AS k
  asSet : SADDR_GET_AS (SADDR_SET_AS k v) = v
  isdKept : (keyFields (SADDR_SET_AS k v)).isd = (keyFields k).isd
  isdReadKept : SADDR_GET_ISD (SADDR_SET_AS k v) = SADDR_GET_ISD k

/-- The ISD of an address is read rightly if it is 0 or 1. Kind: L -/
theorem SADDR_GET_ISD_getScionAddr_iff (e : Endian) {addr : Bytes} (h : addr.length = 16) :
    SADDR_GET_ISD (getScionAddr e addr) = bitField (ofBE addr) 108 12 ↔
      bitField (ofBE addr) 108 12 ≤ 1 := by
  rw [← (keyFields_getScionAddr e h).1]
  exact SADDR_GET_ISD_eq_isd_iff _

/-- The ISD that is set is read back if it is 0 or 1. Kind: L -/
theorem SADDR_GET_ISD_set_iff (k : ScionAddr) {i : UInt32} (hi : i.toNat < 2 ^ 12) :
    SADDR_GET_ISD (SADDR_SET_ISD k i) = i.toNat ↔ i.toNat ≤ 1 := by
  have hfield : ((keyFields (SADDR_SET_ISD k i)).isd : ℕ) = i.toNat := by
    rw [keyFields_SADDR_SET_ISD]
    exact Nat.mod_eq_of_lt hi
  rw [← hfield]
  exact SADDR_GET_ISD_eq_isd_iff _

/-- The AS that is set is read back. Kind: L -/
theorem SADDR_GET_AS_set (k : ScionAddr) {v : UInt32} (hv : v.toNat < 2 ^ 20) :
    SADDR_GET_AS (SADDR_SET_AS k v) = v := by
  apply UInt32.toNat_inj.mp
  rw [toNat_SADDR_GET_AS, keyFields_SADDR_SET_AS]
  exact Nat.mod_eq_of_lt hv

/-- **The accessors agree with the layout** exactly if the ISD of the address and the ISD that is
set are 0 or 1. Kind: P -/
theorem accessorsAgree_iff (e : Endian) (addr : List.Vector UInt8 16) (k : ScionAddr)
    {i v : UInt32} (hi : i.toNat < 2 ^ 12) (hv : v.toNat < 2 ^ 20) :
    AccessorsAgree e addr k i v ↔
      bitField (ofBE addr.toList) 108 12 ≤ 1 ∧ i.toNat ≤ 1 := by
  have haddr := SADDR_GET_ISD_getScionAddr_iff e addr.toList_length
  constructor
  · intro h
    exact ⟨haddr.mp h.isdOfAddress, (SADDR_GET_ISD_set_iff k hi).mp h.isdSet⟩
  · rintro ⟨hisd, hset⟩
    have hkept : (keyFields (SADDR_SET_AS k v)).isd = (keyFields k).isd := by
      rw [keyFields_SADDR_SET_AS]
    refine ⟨haddr.mpr hisd, ?_, (SADDR_GET_ISD_set_iff k hi).mpr hset, ?_, SADDR_GET_AS_set k hv,
      hkept, ?_⟩
    · rw [toNat_SADDR_GET_AS]
      exact (keyFields_getScionAddr e addr.toList_length).2
    · apply UInt32.toNat_inj.mp
      rw [toNat_SADDR_GET_AS, toNat_SADDR_GET_AS, keyFields_SADDR_SET_ISD]
    · rw [SADDR_GET_ISD_eq, SADDR_GET_ISD_eq, hkept]

/-- An address of AS `1-1`, `fc00:1000:100::`. Kind: D -/
def addressOfIsdOne : List.Vector UInt8 16 :=
  ⟨[0xfc, 0, 0x10, 0, 0x01, 0, 0, 0, 0, 0, 0, 0, 0, 0, 0, 0], rfl⟩

/-- An address of ISD 2. Kind: D -/
def addressOfIsdTwo : List.Vector UInt8 16 :=
  ⟨[0xfc, 0, 0x20, 0xfc, 0, 0, 0, 0, 0, 0, 0, 0, 0, 0, 0, 1], rfl⟩

/-- ISD 1 at an address and at a key whose fields are full. Kind: C -/
theorem accessorsAgree_isdOne : AccessorsAgree .little addressOfIsdOne 0xFFFFFFFF 1 0x12345 :=
  (accessorsAgree_iff .little addressOfIsdOne 0xFFFFFFFF (by decide) (by decide)).mpr
    ⟨by decide, by decide⟩

/-- ISD 2 is read as ISD 1, at an address and after it is set. Kind: C -/
theorem accessors_isdTwo :
    SADDR_GET_ISD (getScionAddr .little addressOfIsdTwo.toList) = 1 ∧
      bitField (ofBE addressOfIsdTwo.toList) 108 12 = 2 ∧
      SADDR_GET_ISD (SADDR_SET_ISD 0 2) = 1 ∧
      ¬ ∀ (addr : List.Vector UInt8 16) (k i v : UInt32), i.toNat < 2 ^ 12 → v.toNat < 2 ^ 20 →
        AccessorsAgree .little addr k i v := by
  refine ⟨by decide, by decide, by decide, fun h => ?_⟩
  have hset := (h addressOfIsdTwo 0 2 0 (by decide) (by decide)).isdSet
  revert hset
  decide

end ScionIp.Ebpf
