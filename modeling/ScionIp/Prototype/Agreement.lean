import ScionIp.Ebpf.KeyFields
import ScionIp.Ebpf.PathService
import ScionIp.Prototype.Mapping

/-!
# Do the two prototypes read the same ISD-ASN from an address?

The kernel program cuts a 32-bit key out of the address and the path service unpacks it; the Python
prototype shifts the 128-bit number. Both read the same ISD and the same 20-bit code
(`getScionAddr_packed`, `getPathsDst_toNat`). The Python side then expands a code whose top bit is
set to an ASN of the range `2:0:0` to `2:7:ffff`; the path service has no such step. So they agree
exactly on the addresses with that bit clear (`getPathsDst_eq_unmapIpv6_iff`).
-/

namespace ScionIp.Prototype

open ScionIp.Lib ScionIp.Python ScionIp.Ebpf

/-- The map key is bits 88 to 119 of the address. Kind: L -/
theorem getScionAddr_packed (e : Endian) (ip : IPv6Address) :
    (getScionAddr e ip.packed).toNat = bitField ip.ip 88 32 := by
  rw [getScionAddr_eq_bitField e ip.length_packed, ip.ofBE_packed]

/-- The ISD-ASN queried for a key: its upper 12 bits as ISD, its lower 20 bits as ASN. Kind: L -/
theorem getPathsDst_toNat (key : ScionAddr) :
    (getPathsDst key).toNat
      = bitField key.toNat 20 12 * 2 ^ 48 + bitField key.toNat 0 20 := by
  have hkey : key.toNat < 2 ^ 32 := key.toNat_lt
  have hisd : key.toNat &&& 0xFFF00000 = bitField key.toNat 20 12 * 2 ^ 20 :=
    and_shifted_ones key.toNat 20 12
  have hisdLt := bitField_lt key.toNat 20 12
  have hasnLt := bitField_lt key.toNat 0 20
  simp only [getPathsDst, UInt64.toNat_or, UInt64.toNat_shiftLeft, UInt64.toNat_and,
    UInt32.toNat_toUInt64, toNat_and_asMask, UInt64.reduceToNat, hisd]
  have hshift : (bitField key.toNat 20 12 * 2 ^ 20) <<< (28 % 64) % 2 ^ 64
      = bitField key.toNat 20 12 * 2 ^ 48 := by
    rw [Nat.shiftLeft_eq, show 28 % 64 = 28 from rfl]
    omega
  rw [hshift]
  exact or_eq_add_of_dvd (k := 48) (by omega) (by omega)

/-- The ISD-ASN of an address as the Python side reads it. Kind: L -/
theorem isd_shift_or_asn (isd : ℕ) {asn : ℕ} (h : asn < 2 ^ 48) :
    (isd <<< 48) ||| asn = isd * 2 ^ 48 + asn := or_shiftLeft h isd

/-- **The two prototypes agree on the addresses with bit 107 clear**, and on no others in
`fc00::/8`. Kind: P -/
theorem getPathsDst_eq_unmapIpv6_iff (e : Endian) {ip : IPv6Address}
    (hnet : SCION_NETWORK ip = true) :
    (∃ u, unmapIpv6 ip 8 = .ok u ∧
      (getPathsDst (getScionAddr e ip.packed)).toNat = (u.isd <<< 48) ||| u.asn) ↔
      ip.ip.testBit 107 = false := by
  have hcode := bitField_lt ip.ip 88 20
  have hasn : asnOfCode (bitField ip.ip 88 20) < 2 ^ 48 := by
    unfold asnOfCode
    split_ifs <;> omega
  have hbit : ip.ip.testBit 107 = false ↔ bitField ip.ip 88 20 < 2 ^ 19 := by
    rw [Nat.testBit_eq_decide_div_mod_eq, decide_eq_false_iff_not, bitField]
    omega
  have hquery : (getPathsDst (getScionAddr e ip.packed)).toNat
      = bitField ip.ip 108 12 * 2 ^ 48 + bitField ip.ip 88 20 := by
    rw [getPathsDst_toNat, getScionAddr_packed, bitField_bitField _ _ (by norm_num),
      bitField_bitField _ _ (by norm_num)]
  rw [unmapIpv6_of_network hnet (by norm_num), hbit, hquery]
  constructor
  · rintro ⟨u, hu, heq⟩
    obtain rfl := Except.ok.inj hu
    rw [show (unmapped ip 8).isd = bitField ip.ip 108 12 from rfl,
      show (unmapped ip 8).asn = asnOfCode (bitField ip.ip 88 20) from rfl,
      isd_shift_or_asn _ hasn, asnOfCode] at heq
    split_ifs at heq <;> omega
  · intro hlow
    refine ⟨unmapped ip 8, rfl, ?_⟩
    rw [show (unmapped ip 8).isd = bitField ip.ip 108 12 from rfl,
      show (unmapped ip 8).asn = asnOfCode (bitField ip.ip 88 20) from rfl,
      isd_shift_or_asn _ hasn, asnOfCode, if_pos hlow]

/-- The two sides agree on `fc00:10fc::1`, a host in `1-64512`. Kind: C -/
theorem getPathsDst_eq_unmapIpv6_sample :
    ∃ u, unmapIpv6 ⟨0xfc0010fc000000000000000000000001, by norm_num⟩ 8 = .ok u ∧
      (getPathsDst (getScionAddr .little
        (IPv6Address.packed ⟨0xfc0010fc000000000000000000000001, by norm_num⟩))).toNat
        = (u.isd <<< 48) ||| u.asn :=
  (getPathsDst_eq_unmapIpv6_iff .little (by decide +kernel)).mpr (by decide +kernel)

/-- **The two prototypes do not agree everywhere**: on `fc00:1800::1` the path service asks for the
ASN `0:8:0`, the Python side for `2:0:0`. Kind: C -/
theorem getPathsDst_ne_unmapIpv6 :
    ¬ ∀ (e : Endian) (ip : IPv6Address), SCION_NETWORK ip = true →
      ∃ u, unmapIpv6 ip 8 = .ok u ∧
        (getPathsDst (getScionAddr e ip.packed)).toNat = (u.isd <<< 48) ||| u.asn := by
  intro hall
  obtain ⟨u, hu, heq⟩ :=
    hall .little ⟨0xfc001800000000000000000000000001, by norm_num⟩ (by decide +kernel)
  have hval : unmapIpv6 ⟨0xfc001800000000000000000000000001, by norm_num⟩ 8
      = .ok ⟨1, 0x200000000, 0, 0, .iid 1⟩ := by decide +kernel
  obtain rfl := Except.ok.inj (hval.symm.trans hu)
  exact absurd heq (by decide +kernel)

end ScionIp.Prototype
