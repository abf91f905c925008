import ScionIp.Python.IpAddress

/-!
# `map_ipv4` and `unmap_ipv6`

The address layout of the Python prototype, from the most significant bit on: 8 bits `fc`, 12 bits
ISD, 20 bits encoded ASN, `24 - subnet_bits` bits local prefix, `subnet_bits` bits subnet and 64
bits interface. An interface of the form `0:ffff:w.x.y.z` below a zero prefix and subnet is an IPv4
host.

* `Encodable`, `asnCode`, `asnOfCode` — the two ranges of ASNs that fit 20 bits.
* `mapIpv4_of_encodable`, `unmapIpv6_of_network` — both functions in closed form.
* `mapIpv4_unmapIpv6` — they are mutually inverse.
-/

namespace ScionIp.Prototype

open ScionIp.Lib ScionIp.Python

/-! ## The functions -/

/-- The branches that set `encoded_asn`. Source: `scitun.py`, `map_ipv4`. Kind: D -/
def encodedAsn (asn : ℕ) : Py ℕ :=
  if asn < 2 ^ 19 then .ok asn
  else if 0x200000000 ≤ asn ∧ asn ≤ 0x20007ffff then .ok ((1 <<< 19) ||| (asn &&& 0x7ffff))
  else .error (.InvalidArgument "ASN cannot be encoded")

/-- Source: `scitun.py`, `map_ipv4`. Kind: D -/
def mapIpv4 (isd asn : ℕ) (interface : IPv4Address) : Py IPv6Address := do
  if ¬ (0 ≤ isd ∧ isd < 2 ^ 12) then
    throw (.InvalidArgument "ISD cannot be encoded")
  let encoded ← encodedAsn asn
  let ip := SCION_PREFIX ||| (isd <<< 108) ||| (encoded <<< 88)
  let ip := ip ||| (0xffff <<< 32)
  let ip := ip ||| ofBE interface.packed
  IPv6Address.ofInt ip

/-- The tuple `unmap_ipv6` returns. Kind: D -/
@[ext] structure Unmapped where
  isd : ℕ
  asn : ℕ
  localPrefix : ℕ
  subnet : ℕ
  interface : Interface
  deriving DecidableEq

/-- The shift of the local prefix raises for more than 24 subnet bits.
Source: `scitun.py`, `unmap_ipv6`. Kind: D -/
def unmapIpv6 (ip : IPv6Address) (subnetBits : ℕ) : Py Unmapped := do
  if ¬ SCION_NETWORK ip then
    throw (.InvalidArgument "not a SCION-mapped IPv6 address")
  let ip := ip.ip
  let interface := ip &&& 0xffffffffffffffff
  let subnet := (ip >>> 64) &&& lowMask subnetBits
  if 24 < subnetBits then throw (.ValueError "negative shift count")
  let localPrefix := (ip >>> (64 + subnetBits)) &&& lowMask (24 - subnetBits)
  let asn := (ip >>> 88) &&& 0xfffff
  let isd := (ip >>> 108) &&& 0xfff
  let asn := if asn &&& (1 <<< 19) ≠ 0 then 0x200000000 ||| (asn &&& 0x7ffff) else asn
  if interface &&& (0xffffffff <<< 32) = 0x0000ffff <<< 32 ∧ localPrefix = 0 ∧ subnet = 0 then
    let host ← IPv4Address.ofInt (interface &&& 0xffffffff)
    return ⟨isd, asn, localPrefix, subnet, .ipv4 host⟩
  else
    return ⟨isd, asn, localPrefix, subnet, .iid interface⟩

/-! ## The two ranges of ASNs -/

/-- The ISD-ASNs the address layout has room for. Kind: D -/
def Encodable (isd asn : ℕ) : Prop :=
  isd < 2 ^ 12 ∧ (asn < 2 ^ 19 ∨ (0x200000000 ≤ asn ∧ asn ≤ 0x20007ffff))

instance (isd asn : ℕ) : Decidable (Encodable isd asn) :=
  inferInstanceAs (Decidable (_ ∧ (_ ∨ (_ ∧ _))))

/-- The 20-bit code of an ASN. Kind: D -/
def asnCode (asn : ℕ) : ℕ := if asn < 2 ^ 19 then asn else 2 ^ 19 + asn % 2 ^ 19

/-- The ASN of a 20-bit code. Kind: D -/
def asnOfCode (code : ℕ) : ℕ :=
  if code < 2 ^ 19 then code else 0x200000000 + code % 2 ^ 19

/-- A code has 20 bits. Kind: L -/
theorem asnCode_lt (asn : ℕ) : asnCode asn < 2 ^ 20 := by
  unfold asnCode
  split_ifs <;> omega

/-- Decoding undoes encoding on the two ranges. Kind: L -/
theorem asnOfCode_asnCode {isd asn : ℕ} (h : Encodable isd asn) :
    asnOfCode (asnCode asn) = asn := by
  obtain ⟨-, hasn⟩ := h
  unfold asnOfCode asnCode
  split_ifs <;> omega

/-- Encoding undoes decoding, and every decoded ASN is in one of the ranges. Kind: L -/
theorem asnCode_asnOfCode {isd code : ℕ} (hisd : isd < 2 ^ 12) (hcode : code < 2 ^ 20) :
    Encodable isd (asnOfCode code) ∧ asnCode (asnOfCode code) = code := by
  unfold Encodable asnOfCode asnCode
  split_ifs <;> omega

/-- The code the source computes for an ASN of the second range. Kind: L -/
theorem asn_code_eq (asn : ℕ) :
    (1 <<< 19) ||| (asn &&& 0x7ffff) = 2 ^ 19 + asn % 2 ^ 19 := by
  rw [show (0x7ffff : ℕ) = 2 ^ 19 - 1 by norm_num, Nat.and_two_pow_sub_one_eq_mod,
    or_shiftLeft (Nat.mod_lt _ (by norm_num)), Nat.one_mul]

/-- The ASN the source computes for a 20-bit code. Kind: L -/
theorem asn_of_code_eq {code : ℕ} (h : code < 2 ^ 20) :
    (if code &&& (1 <<< 19) ≠ 0 then 0x200000000 ||| (code &&& 0x7ffff) else code)
      = asnOfCode code := by
  have htop : code &&& (1 <<< 19) = bitField code 19 1 * 2 ^ 19 := and_shifted_ones code 19 1
  have hlow : (0x200000000 : ℕ) ||| (code &&& 0x7ffff) = 0x200000000 + code % 2 ^ 19 := by
    rw [show (0x7ffff : ℕ) = 2 ^ 19 - 1 by norm_num, Nat.and_two_pow_sub_one_eq_mod]
    exact or_eq_add_of_dvd (by norm_num) (Nat.mod_lt _ (by norm_num))
  rw [htop, hlow, asnOfCode, bitField]
  split_ifs <;> omega

/-! ## Closed forms -/

/-- The number of a mapped IPv4 host. Kind: D -/
def mappedIp (isd code host : ℕ) : ℕ :=
  0xfc * 2 ^ 120 + isd * 2 ^ 108 + code * 2 ^ 88 + 0xffff * 2 ^ 32 + host

/-- Prefix, ISD and code put together bitwise. Kind: L -/
theorem isdAsnPrefix_eq_or {isd code : ℕ} (hisd : isd < 2 ^ 12) (hcode : code < 2 ^ 20) :
    SCION_PREFIX ||| (isd <<< 108) ||| (code <<< 88)
      = 0xfc * 2 ^ 120 + isd * 2 ^ 108 + code * 2 ^ 88 := by
  have hfirst : 0xfc * 2 ^ 120 ||| isd * 2 ^ 108 = 0xfc * 2 ^ 120 + isd * 2 ^ 108 :=
    or_eq_add_of_dvd (k := 120) (by omega) (by omega)
  rw [SCION_PREFIX, SCION_PREFIX_LEN, Nat.shiftLeft_eq, Nat.shiftLeft_eq, Nat.shiftLeft_eq, hfirst]
  exact or_eq_add_of_dvd (k := 108) (by omega) (by omega)

/-- The bitwise composition of the source is a sum. Kind: L -/
theorem mappedIp_eq_or {isd code host : ℕ} (hisd : isd < 2 ^ 12) (hcode : code < 2 ^ 20)
    (hhost : host < 2 ^ 32) :
    SCION_PREFIX ||| (isd <<< 108) ||| (code <<< 88) ||| (0xffff <<< 32) ||| host
      = mappedIp isd code host := by
  have hmarker : (0xfc * 2 ^ 120 + isd * 2 ^ 108 + code * 2 ^ 88) ||| 0xffff * 2 ^ 32 = _ :=
    or_eq_add_of_dvd (k := 88) (by omega) (by omega)
  rw [isdAsnPrefix_eq_or hisd hcode, Nat.shiftLeft_eq, hmarker]
  exact or_eq_add_of_dvd (k := 32) (by omega) hhost

/-- A mapped IPv4 host is an address. Kind: L -/
theorem mappedIp_lt {isd asn : ℕ} (h : Encodable isd asn) (host : IPv4Address) :
    mappedIp isd (asnCode asn) host.ip < 2 ^ 128 := by
  have hisd := h.1
  have hcode := asnCode_lt asn
  have hhost := host.ip_lt
  unfold mappedIp
  omega

/-- The address of an IPv4 host in an AS the layout has room for. Kind: D -/
def mapped {isd asn : ℕ} (h : Encodable isd asn) (host : IPv4Address) : IPv6Address :=
  ⟨mappedIp isd (asnCode asn) host.ip, mappedIp_lt h host⟩

@[simp] theorem mapped_ip {isd asn : ℕ} (h : Encodable isd asn) (host : IPv4Address) :
    (mapped h host).ip = mappedIp isd (asnCode asn) host.ip := rfl

/-- The branches on the ASN inside the domain. Kind: L -/
theorem encodedAsn_of_encodable {isd asn : ℕ} (h : Encodable isd asn) :
    encodedAsn asn = .ok (asnCode asn) := by
  unfold encodedAsn asnCode
  rcases h.2 with hbgp | hscion
  · rw [if_pos hbgp, if_pos hbgp]
  · rw [if_neg (by omega), if_pos hscion, if_neg (by omega), asn_code_eq]

/-- `map_ipv4` inside its domain. Kind: L -/
theorem mapIpv4_of_encodable {isd asn : ℕ} (h : Encodable isd asn) (host : IPv4Address) :
    mapIpv4 isd asn host = .ok (mapped h host) := by
  have hisd : ¬ ¬ (0 ≤ isd ∧ isd < 2 ^ 12) := not_not.mpr ⟨Nat.zero_le _, h.1⟩
  simp only [mapIpv4, if_neg hisd, encodedAsn_of_encodable h]
  have hip := mappedIp_eq_or h.1 (asnCode_lt asn) host.ip_lt
  rw [← host.ofBE_packed] at hip
  show IPv6Address.ofInt _ = _
  rw [hip, IPv6Address.ofInt_of_lt (by rw [host.ofBE_packed]; exact mappedIp_lt h host)]
  simp only [mapped, host.ofBE_packed]

/-- `map_ipv4` outside its domain. Kind: L -/
theorem mapIpv4_of_not_encodable {isd asn : ℕ} (h : ¬ Encodable isd asn) (host : IPv4Address) :
    ∃ message, mapIpv4 isd asn host = .error (.InvalidArgument message) := by
  by_cases hisd : isd < 2 ^ 12
  · have hasn : ¬ asn < 2 ^ 19 ∧ ¬ (0x200000000 ≤ asn ∧ asn ≤ 0x20007ffff) := by
      unfold Encodable at h
      tauto
    refine ⟨"ASN cannot be encoded", ?_⟩
    simp only [mapIpv4, if_neg (not_not.mpr (⟨Nat.zero_le _, hisd⟩ : 0 ≤ isd ∧ isd < 2 ^ 12)),
      encodedAsn, if_neg hasn.1, if_neg hasn.2]
    rfl
  · refine ⟨"ISD cannot be encoded", ?_⟩
    have hneg : ¬ (0 ≤ isd ∧ isd < 2 ^ 12) := fun hc => hisd hc.2
    simp only [mapIpv4, if_pos hneg]
    rfl

/-- The pattern of an IPv4 host: `0:ffff` above the host, nothing in prefix and subnet. Kind: D -/
def IsIpv4Mapped (ip : IPv6Address) : Prop := bitField ip.ip 32 56 = 0xffff

instance (ip : IPv6Address) : Decidable (IsIpv4Mapped ip) :=
  inferInstanceAs (Decidable (_ = _))

/-- The low 32 bits as an IPv4 address. Kind: D -/
def lowHost (ip : IPv6Address) : IPv4Address := ⟨bitField ip.ip 0 32, bitField_lt _ _ _⟩

/-- What an address in `fc00::/8` means. Kind: D -/
def unmapped (ip : IPv6Address) (subnetBits : ℕ) : Unmapped where
  isd := bitField ip.ip 108 12
  asn := asnOfCode (bitField ip.ip 88 20)
  localPrefix := bitField ip.ip (64 + subnetBits) (24 - subnetBits)
  subnet := bitField ip.ip 64 subnetBits
  interface := if IsIpv4Mapped ip then .ipv4 (lowHost ip) else .iid (bitField ip.ip 0 64)

/-- Where the boundary between prefix and subnet lies does not matter for the pattern. Kind: L -/
theorem isIpv4Mapped_iff (ip : IPv6Address) {subnetBits : ℕ} (hs : subnetBits ≤ 24) :
    IsIpv4Mapped ip ↔ bitField ip.ip 32 32 = 0xffff ∧
      bitField ip.ip (64 + subnetBits) (24 - subnetBits) = 0 ∧
        bitField ip.ip 64 subnetBits = 0 := by
  have hmarker := bitField_lt ip.ip 32 32
  have hsplit : bitField ip.ip 32 56 = bitField ip.ip 64 24 * 2 ^ 32 + bitField ip.ip 32 32 :=
    bitField_add ip.ip 32 32 24
  have hzero := bitField_add_eq_zero_iff ip.ip 64 subnetBits (24 - subnetBits)
  rw [Nat.add_sub_cancel' hs] at hzero
  rw [IsIpv4Mapped, hsplit, ← hzero]
  omega

/-- The ISD as the source reads it. Kind: L -/
theorem isd_field (ip : ℕ) : (ip >>> 108) &&& 0xfff = bitField ip 108 12 :=
  shiftRight_and_ones ip 108 12

/-- The code of the ASN as the source reads it. Kind: L -/
theorem code_field (ip : ℕ) : (ip >>> 88) &&& 0xfffff = bitField ip 88 20 :=
  shiftRight_and_ones ip 88 20

/-- The interface as the source reads it. Kind: L -/
theorem interface_field (ip : ℕ) : ip &&& 0xffffffffffffffff = bitField ip 0 64 := and_ones ip 64

/-- The IPv4 host as the source reads it. Kind: L -/
theorem host_field (ip : ℕ) : bitField ip 0 64 &&& 0xffffffff = bitField ip 0 32 := by
  rw [show (0xffffffff : ℕ) = 2 ^ 32 - 1 by norm_num, and_ones, bitField_bitField _ _ (by norm_num)]

/-- The interface test of the source. Kind: L -/
theorem interface_test_iff (ip : ℕ) :
    bitField ip 0 64 &&& (0xffffffff <<< 32) = 0x0000ffff <<< 32 ↔ bitField ip 32 32 = 0xffff := by
  have hmid : bitField ip 0 64 &&& (0xffffffff <<< 32) = bitField ip 32 32 * 2 ^ 32 := by
    rw [show (0xffffffff : ℕ) = 2 ^ 32 - 1 by norm_num, and_shifted_ones,
      bitField_bitField _ _ (by norm_num)]
  rw [hmid, Nat.shiftLeft_eq]
  omega

/-- `unmap_ipv6` inside the network, for an admissible number of subnet bits. Kind: L -/
theorem unmapIpv6_of_network {ip : IPv6Address} (h : SCION_NETWORK ip = true) {subnetBits : ℕ}
    (hs : subnetBits ≤ 24) : unmapIpv6 ip subnetBits = .ok (unmapped ip subnetBits) := by
  simp only [unmapIpv6, h, not_true_eq_false, if_false, if_neg (not_lt.mpr hs), lowMask_eq,
    shiftRight_and_ones, isd_field, code_field, interface_field, host_field, interface_test_iff,
    ← isIpv4Mapped_iff ip hs, asn_of_code_eq (bitField_lt ip.ip 88 20)]
  by_cases hmap : IsIpv4Mapped ip
  · simp only [hmap, if_true, unmapped, lowHost, IPv4Address.ofInt_of_lt (bitField_lt ip.ip 0 32)]
    rfl
  · simp only [hmap, if_false, unmapped]
    rfl

/-- `unmap_ipv6` outside the network. Kind: L -/
theorem unmapIpv6_of_not_network {ip : IPv6Address} (h : ¬ SCION_NETWORK ip = true)
    (subnetBits : ℕ) :
    unmapIpv6 ip subnetBits = .error (.InvalidArgument "not a SCION-mapped IPv6 address") := by
  simp only [unmapIpv6, if_pos h]
  rfl

/-! ## The two directions -/

/-- A mapped host is in the network. Kind: L -/
theorem mapped_network {isd asn : ℕ} (h : Encodable isd asn) (host : IPv4Address) :
    SCION_NETWORK (mapped h host) = true := by
  have hisd := h.1
  have hcode := asnCode_lt asn
  have hhost := host.ip_lt
  rw [SCION_NETWORK_iff, mapped_ip, mappedIp]
  omega

/-- A mapped host is recognised, and all its fields are read back. Kind: L -/
theorem unmapped_mapped {isd asn : ℕ} (h : Encodable isd asn) (host : IPv4Address)
    {subnetBits : ℕ} (hs : subnetBits ≤ 24) :
    unmapped (mapped h host) subnetBits = ⟨isd, asn, 0, 0, .ipv4 host⟩ := by
  have hisd := h.1
  have hcode := asnCode_lt asn
  have hhost := host.ip_lt
  have hmap : IsIpv4Mapped (mapped h host) := by
    rw [IsIpv4Mapped, mapped_ip, mappedIp, bitField]
    omega
  obtain ⟨-, hprefix, hsubnet⟩ := (isIpv4Mapped_iff _ hs).mp hmap
  have hlow : lowHost (mapped h host) = host := by
    ext
    simp only [lowHost, mapped_ip, mappedIp, bitField]
    omega
  have hfields : bitField (mapped h host).ip 108 12 = isd ∧
      bitField (mapped h host).ip 88 20 = asnCode asn := by
    simp only [mapped_ip, mappedIp, bitField]
    omega
  rw [unmapped, if_pos hmap, hprefix, hsubnet, hlow, hfields.1, hfields.2, asnOfCode_asnCode h]

/-- An address recognised as an IPv4 host is the mapped address of that host. Kind: L -/
theorem mapped_unmapped {ip : IPv6Address} (hnet : SCION_NETWORK ip = true)
    (hmap : IsIpv4Mapped ip)
    (h : Encodable (bitField ip.ip 108 12) (asnOfCode (bitField ip.ip 88 20))) :
    mapped h (lowHost ip) = ip := by
  have hcode := (asnCode_asnOfCode (bitField_lt ip.ip 108 12) (bitField_lt ip.ip 88 20)).2
  have hlt := ip.ip_lt
  rw [SCION_NETWORK_iff] at hnet
  ext
  simp only [mapped_ip, mappedIp, hcode, lowHost]
  unfold IsIpv4Mapped at hmap
  simp only [bitField] at hmap ⊢
  omega

/-- **`map_ipv4` and `unmap_ipv6` are mutually inverse.** `map_ipv4` raises `InvalidArgument`
exactly outside its two ranges; its results are in `fc00::/8` and read back for every subnet
length; and an address read as an IPv4 host is the mapped address of that host. Kind: P -/
theorem mapIpv4_unmapIpv6 :
    (∀ (isd asn : ℕ) (host : IPv4Address),
      ((∃ message, mapIpv4 isd asn host = .error (.InvalidArgument message)) ↔
        2 ^ 12 ≤ isd ∨ ¬ (asn < 2 ^ 19 ∨ (0x200000000 ≤ asn ∧ asn ≤ 0x20007ffff))) ∧
      (¬ (2 ^ 12 ≤ isd ∨ ¬ (asn < 2 ^ 19 ∨ (0x200000000 ≤ asn ∧ asn ≤ 0x20007ffff))) →
        ∃ ip, mapIpv4 isd asn host = .ok ip ∧ SCION_NETWORK ip = true ∧
          ∀ subnetBits ≤ 24, unmapIpv6 ip subnetBits = .ok ⟨isd, asn, 0, 0, .ipv4 host⟩)) ∧
    (∀ (ip : IPv6Address) (subnetBits isd asn localPrefix subnet : ℕ) (host : IPv4Address),
      subnetBits ≤ 24 →
      unmapIpv6 ip subnetBits = .ok ⟨isd, asn, localPrefix, subnet, .ipv4 host⟩ →
        mapIpv4 isd asn host = .ok ip) := by
  have hdomain : ∀ isd asn : ℕ, (2 ^ 12 ≤ isd ∨
      ¬ (asn < 2 ^ 19 ∨ (0x200000000 ≤ asn ∧ asn ≤ 0x20007ffff))) ↔ ¬ Encodable isd asn := by
    intro isd asn
    unfold Encodable
    rw [not_and_or, not_lt]
  refine ⟨fun isd asn host => ?_, fun ip subnetBits isd asn localPrefix subnet host hs hun => ?_⟩
  · rw [hdomain, not_not]
    refine ⟨⟨?_, fun h => mapIpv4_of_not_encodable h host⟩, fun h => ?_⟩
    · rintro ⟨message, herr⟩ h
      rw [mapIpv4_of_encodable h] at herr
      cases herr
    · refine ⟨mapped h host, mapIpv4_of_encodable h host, mapped_network h host, fun s hs => ?_⟩
      rw [unmapIpv6_of_network (mapped_network h host) hs, unmapped_mapped h host hs]
  · by_cases hnet : SCION_NETWORK ip = true
    · rw [unmapIpv6_of_network hnet hs] at hun
      have hfields := Except.ok.inj hun
      by_cases hmap : IsIpv4Mapped ip
      · simp only [unmapped, if_pos hmap, Unmapped.mk.injEq, Interface.ipv4.injEq] at hfields
        obtain ⟨rfl, rfl, -, -, rfl⟩ := hfields
        have henc := (asnCode_asnOfCode (bitField_lt ip.ip 108 12) (bitField_lt ip.ip 88 20)).1
        rw [mapIpv4_of_encodable henc, mapped_unmapped hnet hmap henc]
      · simp only [unmapped, if_neg hmap, Unmapped.mk.injEq] at hfields
        obtain ⟨-, -, -, -, hiid⟩ := hfields
        cases hiid
    · rw [unmapIpv6_of_not_network hnet] at hun
      cases hun

end ScionIp.Prototype
