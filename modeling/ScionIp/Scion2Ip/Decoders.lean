import ScionIp.Scion2Ip.Convert

/-!
# Two decoders of one address layout

`ip2s` of `scion2ip` and `unmap_ipv6` of the prototype read the same bits. They differ in two
places: outside `fc00::/8` the one prints a message and goes on, the other raises; and the one
writes a dotted quad for every interface of the form `0:ffff:w.x.y.z`, the other asks for a zero
prefix and subnet as well.

* `Shows` — what a printed tuple says, by the parsers of `scion2ip`.
* `decodersAgree_iff` — the two agree exactly on the addresses where neither difference matters.
-/

namespace ScionIp.Scion2Ip

open ScionIp.Lib ScionIp.Python ScionIp.Prototype

/-- **The text shows the tuple `u`**: it is four tokens, and each of them is read back as its
field. The interface is read as it is below a zero prefix and subnet, where both kinds are
allowed. Kind: D -/
def Shows (text : Text) (subnetBits : ℕ) (u : Unmapped) : Prop :=
  ∃ isdAsn localPrefix subnet interface isd asn : Text,
    text.splitOn ' ' = [isdAsn, localPrefix, subnet, interface] ∧
      isdAsn.splitOn '-' = [isd, asn] ∧
      pyInt 10 isd = .ok u.isd ∧
      ASN.asnInt <$> ASN.ofText asn = .ok u.asn ∧
      parseHex localPrefix (24 - subnetBits) = .ok u.localPrefix ∧
      parseHex subnet subnetBits = .ok u.subnet ∧
      parseInterface 0 0 interface = .ok u.interface

/-- The two decoders agree on an address: `ip2s` fails exactly when `unmap_ipv6` raises
`InvalidArgument`, and otherwise shows the tuple of `unmap_ipv6`. Kind: D -/
def DecodersAgree (ip : IPv6Address) (subnetBits : ℕ) : Prop :=
  ((∃ exc, ip2s ip subnetBits = .error exc) ↔
      ∃ message, unmapIpv6 ip subnetBits = .error (.InvalidArgument message)) ∧
    ∀ r u, ip2s ip subnetBits = .ok r → unmapIpv6 ip subnetBits = .ok u →
      Shows r.text subnetBits u

/-- The last token on its own. Kind: L -/
theorem parseInterface_zero (ip : IPv6Address) :
    parseInterface 0 0 (interfaceToken ip) = .ok (interfaceOf ip) := by
  by_cases hv4 : LooksIpv4 ip
  · rw [interfaceToken, if_pos hv4, parseInterface_str, if_neg (by simp), interfaceOf, if_pos hv4]
  · rw [interfaceToken, if_neg hv4, parseInterface_formatHex _ _ (bitField_lt _ _ _), interfaceOf,
      if_neg hv4]

/-- The two readings of the interface are the same exactly when no IPv4 host is seen below a
nonzero prefix or subnet. Kind: L -/
theorem interfaceOf_eq_unmapped_iff (ip : IPv6Address) (subnetBits : ℕ) :
    interfaceOf ip = (unmapped ip subnetBits).interface ↔
      ¬ (LooksIpv4 ip ∧ bitField ip.ip 64 24 ≠ 0) := by
  have hmapped : IsIpv4Mapped ip ↔ LooksIpv4 ip ∧ bitField ip.ip 64 24 = 0 := by
    have hcut := isIpv4Mapped_iff ip (Nat.le_refl 24)
    rw [Nat.sub_self, bitField_zero_width] at hcut
    simpa [LooksIpv4] using hcut
  rw [interfaceOf, unmapped]
  by_cases hv4 : LooksIpv4 ip
  · by_cases hzero : bitField ip.ip 64 24 = 0
    · simp [hmapped, hv4, hzero]
    · simp [hmapped, hv4, hzero]
  · simp [hmapped, hv4]

/-- **What the printed tuple shows**: every field of `unmapped`, the interface if the two readings
of it are the same. Kind: L -/
theorem shows_iff (ip : IPv6Address) (printed : Option String) (subnetBits : ℕ) :
    Shows (Ip2s.text ⟨printed, [' '].intercalate [isdAsnToken ip,
        formatHex (bitField ip.ip (64 + subnetBits) (24 - subnetBits)),
        formatHex (bitField ip.ip 64 subnetBits), interfaceToken ip]⟩) subnetBits
        (unmapped ip subnetBits) ↔
      interfaceOf ip = (unmapped ip subnetBits).interface := by
  unfold Shows
  rw [splitOn_tokens]
  constructor
  · rintro ⟨isdAsn, localPrefix, subnet, interface, isd, asn, htokens, -, -, -, -, -, hint⟩
    obtain ⟨-, -, -, rfl, -⟩ : isdAsnToken ip = isdAsn ∧ _ ∧ _ ∧ interfaceToken ip = interface ∧
      True := by simpa using htokens
    rw [parseInterface_zero] at hint
    exact Except.ok.inj hint
  · intro hint
    have hisdLt := bitField_lt ip.ip 108 12
    refine ⟨_, _, _, _, _, _, rfl, splitOn_isdAsnToken ip, pyInt_decimal (by omega), ?_,
      parseHex_formatHex (bitField_lt _ _ _), parseHex_formatHex (bitField_lt _ _ _), ?_⟩
    · rw [ASN.ofText_str]
      rfl
    · rw [parseInterface_zero, hint]

/-- **When the two decoders agree**: on the addresses of `fc00::/8` that do not look like an IPv4
host below a nonzero prefix or subnet, and on no others. Kind: P -/
theorem decodersAgree_iff (ip : IPv6Address) {subnetBits : ℕ} (hs : subnetBits ≤ 24) :
    DecodersAgree ip subnetBits ↔
      SCION_NETWORK ip = true ∧ ¬ (LooksIpv4 ip ∧ bitField ip.ip 64 24 ≠ 0) := by
  have hip2s := ip2s_eq ip hs
  unfold DecodersAgree
  by_cases hnet : SCION_NETWORK ip = true
  · have hun := unmapIpv6_of_network hnet hs
    rw [← interfaceOf_eq_unmapped_iff ip subnetBits, ← shows_iff ip none subnetBits]
    constructor
    · rintro ⟨-, hshows⟩
      refine ⟨hnet, ?_⟩
      exact hshows _ _ (by rw [hip2s, if_pos hnet]) hun
    · rintro ⟨-, hshows⟩
      refine ⟨?_, ?_⟩
      · rw [hip2s, hun]
        simp
      · intro r u hr hu
        rw [hip2s, if_pos hnet] at hr
        rw [hun] at hu
        cases hr
        cases hu
        exact hshows
  · -- `unmap_ipv6` raises, `ip2s` does not
    constructor
    · rintro ⟨hfails, -⟩
      obtain ⟨exc, hexc⟩ := hfails.mpr ⟨_, unmapIpv6_of_not_network hnet subnetBits⟩
      rw [hip2s] at hexc
      cases hexc
    · rintro ⟨hin, -⟩
      exact absurd hin hnet

/-- `fc00:10fc:0:100::1` with eight subnet bits is read alike. Kind: C -/
theorem decodersAgree_sample :
    DecodersAgree ⟨0xfc0010fc000001000000000000000001, by norm_num⟩ 8 :=
  (decodersAgree_iff _ (by norm_num)).mpr (by decide +kernel)

/-- On `2001:db8::1` only `unmap_ipv6` raises; of `fc00:10fc:0:1:0:ffff:102:304` only `ip2s` makes
an IPv4 host. Kind: C -/
theorem not_decodersAgree :
    ¬ DecodersAgree ⟨0x20010db8000000000000000000000001, by norm_num⟩ 8 ∧
      ¬ DecodersAgree ⟨0xfc0010fc000000010000ffff01020304, by norm_num⟩ 8 := by
  rw [decodersAgree_iff _ (by norm_num), decodersAgree_iff _ (by norm_num)]
  decide +kernel

end ScionIp.Scion2Ip
