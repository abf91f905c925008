import ScionIp.Prototype.Translate

/-!
# Under whose identity does `translate_ingress` deliver?

A source of four bytes is mapped into the AS of the SCION header, so its identity is right by
construction. A source of sixteen bytes is copied; of it only the prefix is looked at.

* `translateIngress_inversion`, `srcAddr_inversion` — what an accepted packet has passed.
* `sourceOfAs_iff` — when the source of the returned packet belongs to the AS of the header.
-/

namespace ScionIp.Prototype

open ScionIp.Lib ScionIp.Python

/-! ## Accepted packets -/

/-- A packet that is returned was made of an accepted source and an accepted payload. Kind: L -/
theorem translateIngress_inversion {pkt : SCION} {tunIp : IPv6Address} {out : IPv6Packet}
    (h : translateIngress (.scion pkt) tunIp = .ok (some out)) :
    ∃ src l4, srcAddr pkt = .ok (some src) ∧ ingressL4 pkt.payload = .ok (some l4) ∧
      out = ⟨src.str, tunIp.str, nhOf l4, l4⟩ := by
  unfold translateIngress at h
  obtain ⟨dst, -, h⟩ := bind_eq_ok_iff.mp h
  cases dst with
  | none => cases h
  | some dst =>
      dsimp only at h
      by_cases hself : dst = tunIp
      · subst hself
        rw [if_neg (not_not_intro rfl)] at h
        obtain ⟨src, hsrc, h⟩ := bind_eq_ok_iff.mp h
        cases src with
        | none => cases h
        | some src =>
            obtain ⟨l4, hl4, h⟩ := bind_eq_ok_iff.mp h
            cases l4 with
            | none => cases h
            | some l4 =>
                obtain rfl := Option.some.inj (Except.ok.inj h)
                exact ⟨src, l4, hsrc, hl4, rfl⟩
      · rw [if_pos hself] at h
        cases h

/-- An accepted source is a four-byte host mapped into the AS of the header, or a sixteen-byte host
in the network. Kind: L -/
theorem srcAddr_inversion {pkt : SCION} {src : IPv6Address} (h : srcAddr pkt = .ok (some src)) :
    (pkt.SL = 4 ∧ ∃ host, mapIpv4 pkt.SrcISD pkt.SrcAS host = .ok src) ∨
      (pkt.SL = 16 ∧ IPv6Address.parse pkt.SrcHostAddr = .ok src ∧ SCION_NETWORK src = true) := by
  obtain ⟨r, hr, h⟩ := bind_eq_ok_iff.mp h
  cases r with
  | none => cases h
  | some ip =>
      dsimp only at h
      have hkept : ¬ (pkt.SL = 16 ∧ ¬ SCION_NETWORK ip = true) ∧ ip = src := by
        by_cases hbad : pkt.SL = 16 ∧ ¬ SCION_NETWORK ip = true
        · rw [if_pos hbad] at h
          cases h
        · rw [if_neg hbad] at h
          exact ⟨hbad, Option.some.inj (Except.ok.inj h)⟩
      obtain ⟨hnet, rfl⟩ := hkept
      by_cases htype : pkt.ST = 0
      · rw [hostAddr, if_pos htype] at hr
        by_cases hfour : pkt.SL = 4
        · left
          rw [if_pos hfour] at hr
          obtain ⟨host, -, hr⟩ := bind_eq_ok_iff.mp hr
          obtain ⟨mapped, hmap, hr⟩ := bind_eq_ok_iff.mp hr
          obtain rfl := Option.some.inj (Except.ok.inj hr)
          exact ⟨hfour, host, hmap⟩
        · rw [if_neg hfour] at hr
          by_cases hsixteen : pkt.SL = 16
          · right
            rw [if_pos hsixteen] at hr
            obtain ⟨addr, haddr, hr⟩ := bind_eq_ok_iff.mp hr
            obtain rfl := Option.some.inj (Except.ok.inj hr)
            exact ⟨hsixteen, haddr, by_contra fun hno => hnet ⟨hsixteen, hno⟩⟩
          · rw [if_neg hsixteen] at hr
            cases hr
      · rw [hostAddr, if_neg htype] at hr
        cases hr

/-- A host is mapped only into an AS the layout has room for. Kind: L -/
theorem mapIpv4_inversion {isd asn : ℕ} {host : IPv4Address} {ip : IPv6Address}
    (h : mapIpv4 isd asn host = .ok ip) : ∃ henc : Encodable isd asn, mapped henc host = ip := by
  by_cases henc : Encodable isd asn
  · rw [mapIpv4_of_encodable henc] at h
    exact ⟨henc, Except.ok.inj h⟩
  · obtain ⟨message, herr⟩ := mapIpv4_of_not_encodable henc host
    rw [herr] at h
    cases h

/-! ## The identity of the source -/

/-- **The source of the returned packet is in `fc00::/8` and in the AS of the SCION header**, by
`unmap_ipv6`. Kind: D -/
def SourceOfAs (pkt : SCION) (out : IPv6Packet) : Prop :=
  ∃ ip, IPv6Address.parse out.src = .ok ip ∧ SCION_NETWORK ip = true ∧
    ∀ subnetBits ≤ 24, ∃ u, unmapIpv6 ip subnetBits = .ok u ∧
      u.isd = pkt.SrcISD ∧ u.asn = pkt.SrcAS

/-- A host of sixteen bytes has the ISD of the header and the code of its ASN in bits 88 to 119.
Kind: D -/
def SCION.LongSourceInAs (pkt : SCION) : Prop :=
  pkt.SL = 16 → ∃ ip, IPv6Address.parse pkt.SrcHostAddr = .ok ip ∧
    Encodable pkt.SrcISD pkt.SrcAS ∧
      bitField ip.ip 88 32 = pkt.SrcISD * 2 ^ 20 + asnCode pkt.SrcAS

/-- What `unmap_ipv6` says of an address in the network, whatever the subnet length is. Kind: L -/
theorem unmapIpv6_says_iff {ip : IPv6Address} (hnet : SCION_NETWORK ip = true) (isd asn : ℕ) :
    (∀ subnetBits ≤ 24, ∃ u, unmapIpv6 ip subnetBits = .ok u ∧ u.isd = isd ∧ u.asn = asn) ↔
      bitField ip.ip 108 12 = isd ∧ asnOfCode (bitField ip.ip 88 20) = asn := by
  constructor
  · intro hall
    obtain ⟨u, hu, hisd, hasn⟩ := hall 8 (by norm_num)
    rw [unmapIpv6_of_network hnet (by norm_num)] at hu
    obtain rfl := Except.ok.inj hu
    exact ⟨hisd, hasn⟩
  · rintro ⟨hisd, hasn⟩ subnetBits hs
    exact ⟨unmapped ip subnetBits, unmapIpv6_of_network hnet hs, hisd, hasn⟩

/-- The ISD and the ASN of an address, as one field. Kind: L -/
theorem isdAsn_fields_iff (ip isd asn : ℕ) :
    (bitField ip 108 12 = isd ∧ asnOfCode (bitField ip 88 20) = asn) ↔
      Encodable isd asn ∧ bitField ip 88 32 = isd * 2 ^ 20 + asnCode asn := by
  have hcut : bitField ip 88 32 = bitField ip 108 12 * 2 ^ 20 + bitField ip 88 20 :=
    bitField_add ip 88 20 12
  have hlow := bitField_lt ip 88 20
  have hhigh := bitField_lt ip 108 12
  have hcode := asnCode_lt asn
  rw [hcut]
  constructor
  · rintro ⟨rfl, rfl⟩
    obtain ⟨henc, hback⟩ := asnCode_asnOfCode hhigh hlow
    rw [hback]
    exact ⟨henc, rfl⟩
  · rintro ⟨henc, heq⟩
    have hcodes : bitField ip 88 20 = asnCode asn := by omega
    rw [hcodes, asnOfCode_asnCode henc]
    exact ⟨by omega, rfl⟩

/-- **When a packet is delivered under the identity of its AS.** For a packet that
`translate_ingress` accepts: always if its source has four bytes, and otherwise exactly if the
source host address starts with the ISD-ASN of the header. Kind: P -/
theorem sourceOfAs_iff {pkt : SCION} {tunIp : IPv6Address} {out : IPv6Packet}
    (h : translateIngress (.scion pkt) tunIp = .ok (some out)) :
    SourceOfAs pkt out ↔ pkt.LongSourceInAs := by
  obtain ⟨src, l4, hsrc, -, rfl⟩ := translateIngress_inversion h
  have hof : SCION_NETWORK src = true → (SourceOfAs pkt ⟨src.str, tunIp.str, nhOf l4, l4⟩ ↔
      Encodable pkt.SrcISD pkt.SrcAS ∧
        bitField src.ip 88 32 = pkt.SrcISD * 2 ^ 20 + asnCode pkt.SrcAS) := by
    intro hnet
    rw [← isdAsn_fields_iff, ← unmapIpv6_says_iff hnet]
    constructor
    · rintro ⟨ip, hip, -, hsays⟩
      rw [src.parse_str] at hip
      obtain rfl := Except.ok.inj hip
      exact hsays
    · intro hsays
      exact ⟨src, src.parse_str, hnet, hsays⟩
  rcases srcAddr_inversion hsrc with ⟨hfour, host, hmap⟩ | ⟨hsixteen, hparse, hnet⟩
  · obtain ⟨henc, rfl⟩ := mapIpv4_inversion hmap
    have hfields := unmapped_mapped henc host (Nat.le_refl 24)
    refine iff_of_true ((hof (mapped_network henc host)).mpr ?_) ?_
    · rw [← isdAsn_fields_iff]
      exact ⟨congrArg Unmapped.isd hfields, congrArg Unmapped.asn hfields⟩
    · intro hlong
      omega
  · rw [hof hnet, SCION.LongSourceInAs]
    constructor
    · intro hin _
      exact ⟨src, hparse, hin⟩
    · intro hin
      obtain ⟨ip, hip, hfields⟩ := hin hsixteen
      rw [hparse] at hip
      obtain rfl := Except.ok.inj hip
      exact hfields

/-! ## An honest source and a forged one -/

/-- A datagram from `fc00:10fc:100::1`, a host in `1-64513`, to `10.0.0.1` in `1-64512`; the header
names the given AS of ISD 1 as source. Kind: D -/
def longSource (srcAs : ℕ) : SCION :=
  { DT := 0, DL := 4, ST := 0, SL := 16, DstISD := 1, DstAS := 64512, SrcISD := 1, SrcAS := srcAs,
    DstHostAddr := "10.0.0.1".toList, SrcHostAddr := "fc00:10fc:100::1".toList, Path := .empty,
    payload := .udp ⟨none, [0x03, 0xE8, 0x07, 0xD0]⟩ }

/-- What is delivered for it. Kind: D -/
def longSourceDelivered : IPv6Packet :=
  ⟨"fc00:10fc:100::1".toList, "fc00:10fc::ffff:a00:1".toList, 17,
    .udp ⟨none, [0x03, 0xE8, 0x07, 0xD0]⟩⟩

/-- With its own AS in the header the source keeps its identity. Kind: C -/
theorem sourceOfAs_sample : SourceOfAs (longSource 64513) longSourceDelivered := by
  have hok : translateIngress (.scion (longSource 64513))
      ⟨0xfc0010fc000000000000ffff0a000001, by norm_num⟩ = .ok (some longSourceDelivered) := by
    decide +kernel
  refine (sourceOfAs_iff hok).mpr ?_
  intro _
  refine ⟨⟨0xfc0010fc010000000000000000000001, by norm_num⟩, ?_, ?_, ?_⟩
  · show IPv6Address.parse "fc00:10fc:100::1".toList = _
    decide +kernel
  · decide
  · decide +kernel

/-- **A packet can be delivered under the identity of another AS**: the header names `1-64514`, the
delivered source is a host in `1-64513`. Kind: C -/
theorem not_sourceOfAs :
    translateIngress (.scion (longSource 64514))
        ⟨0xfc0010fc000000000000ffff0a000001, by norm_num⟩ = .ok (some longSourceDelivered) ∧
      ¬ SourceOfAs (longSource 64514) longSourceDelivered := by
  refine ⟨by decide +kernel, ?_⟩
  rintro ⟨ip, hip, -, hsays⟩
  have hsrc : IPv6Address.parse longSourceDelivered.src
      = .ok ⟨0xfc0010fc010000000000000000000001, by norm_num⟩ := by decide +kernel
  rw [hsrc] at hip
  obtain rfl := Except.ok.inj hip
  obtain ⟨u, hu, -, hasn⟩ := hsays 8 (by norm_num)
  have hunmap : unmapIpv6 ⟨0xfc0010fc010000000000000000000001, by norm_num⟩ 8
      = .ok ⟨1, 64513, 0, 0, .iid 1⟩ := by decide +kernel
  rw [hunmap] at hu
  obtain rfl := Except.ok.inj hu
  cases hasn

end ScionIp.Prototype
