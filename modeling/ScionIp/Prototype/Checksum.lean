import ScionIp.Lib.InternetChecksum
import ScionIp.Prototype.Translate

/-!
# The upper-layer checksum of a translated packet

TCP and UDP checksums cover a pseudo-header of the addresses below. `translate_egress` replaces
these addresses and sends the segment as it is, checksum included; `translate_ingress` has it
recomputed.

* `IPv6Packet.ChecksumValid`, `SCION.ChecksumValid` — the checksum is accepted under the
  pseudo-header of either kind of packet.
* `egressChecksum_iff` — a valid checksum stays valid exactly if the addresses replaced and the ones
  put in their place have the same one's complement sum, whatever the segment is.
* `sumsAgree_of_long_hosts` — between IPv6 hosts this means that the two ISD-ASNs sum up to zero.
-/

namespace ScionIp.Prototype

open ScionIp.Lib ScionIp.Python

/-! ## What the checksum covers -/

/-- The bytes of a segment whose checksum is set, with the checksum at the given offset. Kind: D -/
def Segment.wire (off : ℕ) (seg : Segment) : Option Bytes :=
  seg.chksum.map fun chksum =>
    seg.content.take off ++ toBE 2 chksum.toNat ++ seg.content.drop off

/-- The bytes of a TCP or UDP object whose checksum is set: `scapy` emits them unchanged. Kind: D -/
def L4.wire : L4 → Option Bytes
  | .tcp seg => seg.wire 16
  | .udp seg => seg.wire 6
  | _ => none

/-- The bytes of a host address. Kind: D -/
def hostBytes : IPAddress → Bytes
  | .v4 addr => addr.packed
  | .v6 addr => addr.packed

/-- Upper-layer length and protocol, the end of either pseudo-header. Kind: D -/
def pseudoTail (len : ℕ) (proto : UInt8) : Bytes := toBE 4 len ++ [0, 0, 0, proto]

/-- The addresses of the pseudo-header of IPv6. Kind: D -/
def ipv6Addresses (src dst : IPv6Address) : Bytes := src.packed ++ dst.packed

/-- An ISD and an ASN in a SCION header. Kind: D -/
def isdAsnBytes (isdAsn : ℕ × ℕ) : Bytes := toBE 2 isdAsn.1 ++ toBE 6 isdAsn.2

/-- The addresses of the pseudo-header of SCION. Kind: D -/
def scionAddresses (dstIsdAsn srcIsdAsn : ℕ × ℕ) (dst src : IPAddress) : Bytes :=
  isdAsnBytes dstIsdAsn ++ isdAsnBytes srcIsdAsn ++ hostBytes dst ++ hostBytes src

/-- The host of a SCION header, four or sixteen bytes long. Kind: D -/
def scionHost (length : ℕ) (text : Text) : Py IPAddress :=
  if length = 4 then .v4 <$> IPv4Address.parse text else .v6 <$> IPv6Address.parse text

/-- **The checksum of the segment is accepted under the pseudo-header of IPv6.** Kind: D -/
def IPv6Packet.ChecksumValid (pkt : IPv6Packet) : Prop :=
  ∃ src dst upper, IPv6Address.parse pkt.src = .ok src ∧ IPv6Address.parse pkt.dst = .ok dst ∧
    pkt.payload.wire = some upper ∧
      onesSum (ipv6Addresses src dst ++ pseudoTail upper.length pkt.nh ++ upper) = 0xFFFF

/-- **The checksum of the segment is accepted under the pseudo-header of SCION.** Kind: D -/
def SCION.ChecksumValid (pkt : SCION) : Prop :=
  ∃ dst src upper, scionHost pkt.DL pkt.DstHostAddr = .ok dst ∧
    scionHost pkt.SL pkt.SrcHostAddr = .ok src ∧ pkt.payload.wire = some upper ∧
      onesSum (scionAddresses (pkt.DstISD, pkt.DstAS) (pkt.SrcISD, pkt.SrcAS) dst src ++
        pseudoTail upper.length (nhOf pkt.payload) ++ upper) = 0xFFFF

/-- A TCP or UDP object below its own next header. Kind: D -/
inductive IPv6Packet.CarriesSegment : IPv6Packet → Prop
  | tcp (src dst : Text) (seg : Segment) : CarriesSegment ⟨src, dst, 6, .tcp seg⟩
  | udp (src dst : Text) (seg : Segment) : CarriesSegment ⟨src, dst, 17, .udp seg⟩

/-! ## The sums of the pseudo-headers -/

/-- A host address has whole words. Kind: L -/
theorem length_hostBytes_mod (host : IPAddress) : (hostBytes host).length % 2 = 0 := by
  cases host with
  | v4 addr => rw [hostBytes, addr.length_packed]
  | v6 addr => rw [hostBytes, addr.length_packed]

/-- An ISD-ASN has eight bytes. Kind: L -/
@[simp] theorem length_isdAsnBytes (isdAsn : ℕ × ℕ) : (isdAsnBytes isdAsn).length = 8 := by
  rw [isdAsnBytes, List.length_append, length_toBE, length_toBE]

/-- The addresses of IPv6 have whole words. Kind: L -/
theorem length_ipv6Addresses_mod (src dst : IPv6Address) :
    (ipv6Addresses src dst).length % 2 = 0 := by
  rw [ipv6Addresses, List.length_append, src.length_packed, dst.length_packed]

/-- The addresses of SCION have whole words. Kind: L -/
theorem length_scionAddresses_mod (dstIsdAsn srcIsdAsn : ℕ × ℕ) (dst src : IPAddress) :
    (scionAddresses dstIsdAsn srcIsdAsn dst src).length % 2 = 0 := by
  have hdst := length_hostBytes_mod dst
  have hsrc := length_hostBytes_mod src
  simp only [scionAddresses, List.length_append, length_isdAsnBytes]
  omega

/-- The sum of the addresses of SCION, part by part. Kind: L -/
theorem wordSum_scionAddresses (dstIsdAsn srcIsdAsn : ℕ × ℕ) (dst src : IPAddress) :
    wordSum (scionAddresses dstIsdAsn srcIsdAsn dst src) =
      wordSum (isdAsnBytes dstIsdAsn) + wordSum (isdAsnBytes srcIsdAsn) + wordSum (hostBytes dst)
        + wordSum (hostBytes src) := by
  have hdst := length_hostBytes_mod dst
  rw [scionAddresses, wordSum_append (by simp only [List.length_append, length_isdAsnBytes]; omega),
    wordSum_append (by simp only [List.length_append, length_isdAsnBytes]),
    wordSum_append (by rw [length_isdAsnBytes])]

/-- **When a checksum survives a change of addresses**: the old and the new ones have the same sum,
up to carries. Kind: L -/
theorem accepted_readdressed_iff {old new : Bytes} (hold : old.length % 2 = 0)
    (hnew : new.length % 2 = 0) {proto : UInt8} (hproto : proto ≠ 0) {upper : Bytes}
    (h : onesSum (old ++ pseudoTail upper.length proto ++ upper) = 0xFFFF) :
    onesSum (new ++ pseudoTail upper.length proto ++ upper) = 0xFFFF ↔
      wordSum old % 65535 = wordSum new % 65535 := by
  have hlen : (pseudoTail upper.length proto).length = 8 := by
    rw [pseudoTail, List.length_append, length_toBE]
    rfl
  have htail : wordSum (pseudoTail upper.length proto)
      = wordSum (toBE 4 upper.length) + proto.toNat := by
    rw [pseudoTail, wordSum_append (by rw [length_toBE])]
    simp [wordSum]
  have hpos : proto.toNat ≠ 0 := fun hc => hproto (UInt8.toNat_inj.mp hc)
  have hsumOld := wordSum_append hold (pseudoTail upper.length proto)
  have hsumNew := wordSum_append hnew (pseudoTail upper.length proto)
  rw [accepted_behind_iff (by rw [List.length_append, hlen]; omega)
    (by rw [List.length_append, hlen]; omega) (by omega) h]
  omega

/-! ## Egress -/

/-- The addresses that are replaced and the ones put in their place have the same one's complement
sum. Kind: D -/
def SumsAgree (pkt : IPv6Packet) (hostIp : IPAddress) (localIsdAsn : ℕ × ℕ) : Prop :=
  ∃ src dst, IPv6Address.parse pkt.src = .ok src ∧ IPv6Address.parse pkt.dst = .ok dst ∧
    wordSum (ipv6Addresses src dst) % 65535 =
      wordSum (scionAddresses ((unmapped dst 8).isd, (unmapped dst 8).asn) localIsdAsn
        (dstHost dst (unmapped dst 8).interface) hostIp) % 65535

/-- **Between IPv6 hosts the addresses themselves do not matter**: the sums agree exactly if the two
ISD-ASNs sum up to zero. Kind: P -/
theorem sumsAgree_of_long_hosts {pkt : IPv6Packet} {src dst : IPv6Address}
    (hsrc : IPv6Address.parse pkt.src = .ok src) (hdst : IPv6Address.parse pkt.dst = .ok dst)
    (hmap : ¬ IsIpv4Mapped dst) (localIsdAsn : ℕ × ℕ) :
    SumsAgree pkt (.v6 src) localIsdAsn ↔
      (wordSum (isdAsnBytes ((unmapped dst 8).isd, (unmapped dst 8).asn)) +
        wordSum (isdAsnBytes localIsdAsn)) % 65535 = 0 := by
  have hhost : dstHost dst (unmapped dst 8).interface = .v6 dst := by
    rw [unmapped, if_neg hmap]
    rfl
  have hold : wordSum (ipv6Addresses src dst) = wordSum src.packed + wordSum dst.packed := by
    rw [ipv6Addresses, wordSum_append (by rw [src.length_packed])]
  have hnew := wordSum_scionAddresses ((unmapped dst 8).isd, (unmapped dst 8).asn) localIsdAsn
    (.v6 dst) (.v6 src)
  simp only [hostBytes] at hnew
  constructor
  · rintro ⟨src', dst', hsrc', hdst', hsum⟩
    obtain rfl := Except.ok.inj (hsrc.symm.trans hsrc')
    obtain rfl := Except.ok.inj (hdst.symm.trans hdst')
    rw [hhost, hold, hnew] at hsum
    omega
  · intro hzero
    refine ⟨src, dst, hsrc, hdst, ?_⟩
    rw [hhost, hold, hnew]
    omega

/-- A host address that was written is read back. Kind: L -/
theorem scionHost_str (host : IPAddress) : scionHost (hostLen host) host.str = .ok host := by
  cases host with
  | v4 addr =>
      have hread : IPv4Address.parse (IPAddress.v4 addr).str = .ok addr := addr.parse_str
      rw [scionHost, hostLen, if_pos rfl, hread]
      rfl
  | v6 addr =>
      have hread : IPv6Address.parse (IPAddress.v6 addr).str = .ok addr := addr.parse_str
      rw [scionHost, hostLen, if_neg (by norm_num), hread]
      rfl

/-- The checksum of a packet that was just made. Kind: L -/
theorem sentScion_checksumValid_iff (dst : Unmapped) (dstHost : IPAddress) (path : ScionPath)
    (isdAsn : ℕ × ℕ) (hostIp : IPAddress) {l4 : L4} {upper : Bytes} (hwire : l4.wire = some upper) :
    (sentScion dst dstHost path isdAsn hostIp l4).ChecksumValid ↔
      onesSum (scionAddresses (dst.isd, dst.asn) isdAsn dstHost hostIp ++
        pseudoTail upper.length (nhOf l4) ++ upper) = 0xFFFF := by
  constructor
  · rintro ⟨dstRead, srcRead, upperRead, hdst, hsrc, hpayload, hok⟩
    obtain rfl := Except.ok.inj ((scionHost_str dstHost).symm.trans hdst)
    obtain rfl := Except.ok.inj ((scionHost_str hostIp).symm.trans hsrc)
    obtain rfl := Option.some.inj (hwire.symm.trans hpayload)
    exact hok
  · intro hok
    exact ⟨dstHost, hostIp, upper, scionHost_str dstHost, scionHost_str hostIp, hwire, hok⟩

/-- **When a valid checksum stays valid on egress.** For every TCP or UDP packet with a valid
checksum that `translate_egress` translates: exactly if the addresses that are replaced and the ones
put in their place have the same sum. Kind: P -/
theorem egressChecksum_iff {getPaths : GetPaths} {cache : PathCache} {pkt : IPv6Packet}
    {hostIp : IPAddress} {hostPort : ℕ} {scion : SCION} {nextHop : NextHop}
    (hseg : pkt.CarriesSegment) (hvalid : pkt.ChecksumValid)
    (hsent : (translateEgress getPaths (.ipv6 pkt) hostIp hostPort cache).1
      = .ok (some (scion, nextHop))) :
    scion.ChecksumValid ↔ SumsAgree pkt hostIp cache.localIsdAsn := by
  obtain ⟨ip, path, l4, hdst, -, hl4, -, rfl⟩ := translateEgress_inversion hsent
  obtain ⟨src, dst, upper, hsrc, hdst', hwire, hok⟩ := hvalid
  obtain rfl := Except.ok.inj (hdst.symm.trans hdst')
  have hpayload : l4 = pkt.payload ∧ nhOf pkt.payload = pkt.nh ∧ pkt.nh ≠ 0 := by
    cases hseg with
    | tcp src dst seg =>
        exact ⟨(Option.some.inj (Except.ok.inj hl4)).symm, rfl, show (6 : UInt8) ≠ 0 by decide⟩
    | udp src dst seg =>
        exact ⟨(Option.some.inj (Except.ok.inj hl4)).symm, rfl, show (17 : UInt8) ≠ 0 by decide⟩
  obtain ⟨rfl, hnh, hproto⟩ := hpayload
  rw [sentScion_checksumValid_iff _ _ _ _ _ hwire, hnh,
    accepted_readdressed_iff (length_ipv6Addresses_mod src ip)
      (length_scionAddresses_mod _ _ _ _) hproto hok]
  constructor
  · intro hsum
    exact ⟨src, ip, hsrc, hdst, hsum⟩
  · rintro ⟨src', ip', hsrc', hip', hsum⟩
    obtain rfl := Except.ok.inj (hsrc.symm.trans hsrc')
    obtain rfl := Except.ok.inj (hdst.symm.trans hip')
    exact hsum

/-! ## Between two IPv6 hosts, and from an IPv4 host -/

/-- A datagram to `fc00:10fc::1`, a host in `1-64512`, with the given source and checksum.
Kind: D -/
def checkedDatagram (src : Text) (chksum : UInt16) : IPv6Packet :=
  ⟨src, "fc00:10fc::1".toList, 17,
    .udp ⟨some chksum, [0x03, 0xE8, 0x07, 0xD0, 0x00, 0x0C, 0xDE, 0xAD, 0xBE, 0xEF]⟩⟩

/-- The bytes of its upper layer, checksum included. Kind: D -/
def checkedUpper (chksum : UInt16) : Bytes :=
  [0x03, 0xE8, 0x07, 0xD0, 0x00, 0x0C] ++ toBE 2 chksum.toNat ++ [0xDE, 0xAD, 0xBE, 0xEF]

/-- What is sent for it by a host in the given AS. Kind: D -/
def checkedSent (hostIp : IPAddress) (isdAsn : ℕ × ℕ) (chksum : UInt16) : SCION :=
  sentScion ⟨1, 64512, 0, 0, .iid 1⟩ (.v6 ⟨0xfc0010fc000000000000000000000001, by norm_num⟩) .empty
    isdAsn hostIp
    (.udp ⟨some chksum, [0x03, 0xE8, 0x07, 0xD0, 0x00, 0x0C, 0xDE, 0xAD, 0xBE, 0xEF]⟩)

/-- The destination of the datagram. Kind: L -/
theorem checkedDatagram_dst (src : Text) (chksum : UInt16) :
    IPv6Address.parse (checkedDatagram src chksum).dst
      = .ok ⟨0xfc0010fc000000000000000000000001, by norm_num⟩ := by
  show IPv6Address.parse "fc00:10fc::1".toList = _
  decide +kernel

/-- When the checksum of the datagram is valid. Kind: L -/
theorem checkedDatagram_checksumValid {src : Text} {ip : IPv6Address} {chksum : UInt16}
    (hsrc : IPv6Address.parse src = .ok ip)
    (hok : onesSum (ipv6Addresses ip ⟨0xfc0010fc000000000000000000000001, by norm_num⟩ ++
      pseudoTail 12 17 ++ checkedUpper chksum) = 0xFFFF) :
    (checkedDatagram src chksum).ChecksumValid := by
  refine ⟨ip, _, checkedUpper chksum, hsrc, checkedDatagram_dst src chksum, rfl, ?_⟩
  have hlen : (checkedUpper chksum).length = 12 := by
    rw [checkedUpper, List.length_append, List.length_append, length_toBE]
    rfl
  rw [hlen]
  exact hok

/-- The ISD-ASNs `1-64512` and `22-1000` sum up to zero, so the checksum stays valid. Kind: C -/
theorem egressChecksum_sample :
    (checkedSent (.v6 ⟨0xfc016003e80000000000000000000001, by norm_num⟩) (22, 1000)
      0x057c).ChecksumValid := by
  have hsrc : IPv6Address.parse "fc01:6003:e800::1".toList
      = .ok ⟨0xfc016003e80000000000000000000001, by norm_num⟩ := by decide +kernel
  have hvalid : (checkedDatagram "fc01:6003:e800::1".toList 0x057c).ChecksumValid :=
    checkedDatagram_checksumValid hsrc ((onesSum_eq_ones_iff _).mpr (by decide +kernel))
  have hsent : (translateEgress sampleGetPaths
      (.ipv6 (checkedDatagram "fc01:6003:e800::1".toList 0x057c))
      (.v6 ⟨0xfc016003e80000000000000000000001, by norm_num⟩) 30041
      ⟨0x00160000000003e8, fun _ => none⟩).1
      = .ok (some (checkedSent (.v6 ⟨0xfc016003e80000000000000000000001, by norm_num⟩) (22, 1000)
          0x057c, .host (.v6 ⟨0xfc0010fc000000000000000000000001, by norm_num⟩) 30041)) := by
    decide +kernel
  refine (egressChecksum_iff (IPv6Packet.CarriesSegment.udp _ _ _) hvalid hsent).mpr ?_
  apply (sumsAgree_of_long_hosts hsrc (checkedDatagram_dst _ _) (by decide +kernel) _).mpr
  decide +kernel

/-- **A valid checksum can become invalid**: the IPv4 host `10.128.0.1` in `1-64512` sends to an
IPv6 host in the same AS. Kind: C -/
theorem egressChecksum_broken :
    (checkedDatagram "fc00:10fc::ffff:a80:1".toList 0x3205).ChecksumValid ∧
      (translateEgress sampleGetPaths
        (.ipv6 (checkedDatagram "fc00:10fc::ffff:a80:1".toList 0x3205))
        (.v4 ⟨0x0a800001, by norm_num⟩) 30041 samplePathCache).1
        = .ok (some (checkedSent (.v4 ⟨0x0a800001, by norm_num⟩) (1, 64512) 0x3205,
            .host (.v6 ⟨0xfc0010fc000000000000000000000001, by norm_num⟩) 30041)) ∧
      ¬ (checkedSent (.v4 ⟨0x0a800001, by norm_num⟩) (1, 64512) 0x3205).ChecksumValid := by
  have hsrc : IPv6Address.parse "fc00:10fc::ffff:a80:1".toList
      = .ok ⟨0xfc0010fc000000000000ffff0a800001, by norm_num⟩ := by decide +kernel
  refine ⟨checkedDatagram_checksumValid hsrc ((onesSum_eq_ones_iff _).mpr (by decide +kernel)),
    by decide +kernel, ?_⟩
  intro hvalid
  have hok := (sentScion_checksumValid_iff _ _ _ _ _
    (show L4.wire _ = some (checkedUpper 0x3205) from rfl)).mp hvalid
  rw [onesSum_eq_ones_iff] at hok
  revert hok
  decide +kernel

end ScionIp.Prototype
