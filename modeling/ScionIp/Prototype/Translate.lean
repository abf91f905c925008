import ScionIp.Prototype.Mapping
import ScionIp.Prototype.Packets
import ScionIp.Prototype.PathCache

/-!
# `translate_egress` and `translate_ingress`

* `translateEgress` — an IPv6 packet of the TUN device to a SCION packet and its next hop.
* `translateIngress` — a SCION packet back to an IPv6 packet for this host.
* `tunIp` — the address `run_translation` gives the TUN device.
* `translateIngress_translateEgress` — what one host sends another one delivers, whichever of the
  two address families either of them is configured with. The family of the SCION host address on
  the destination side is chosen by the pattern of the IPv6 address, on the source side by the
  configuration; `hostAddr_dst` and `srcAddr_src` show that either choice is undone.
-/

namespace ScionIp.Prototype

open ScionIp.Lib ScionIp.Python

/-- A SCION object, with the fields the translator sets or reads. Kind: D -/
structure SCION where
  DT : ℕ
  DL : ℕ
  ST : ℕ
  SL : ℕ
  DstISD : ℕ
  DstAS : ℕ
  SrcISD : ℕ
  SrcAS : ℕ
  DstHostAddr : Text
  SrcHostAddr : Text
  Path : ScionPath
  payload : L4
  deriving DecidableEq

/-- The next hop: the destination host itself, or the path's router. Kind: D -/
inductive NextHop where
  | host (ip : IPAddress) (port : ℕ)
  | router (addr : RouterAddr)
  deriving DecidableEq

/-! ## Egress -/

/-- The length of a SCION host address. Source: `scitun.py`, `translate_egress`. Kind: D -/
def hostLen : IPAddress → ℕ
  | .v4 _ => 4
  | .v6 _ => 16

/-- The upper-layer object that is sent, chosen by the next header.
Source: `scitun.py`, `translate_egress`. Kind: D -/
def egressL4 (pkt : IPv6Packet) : Py (Option L4) :=
  if pkt.nh = 6 ∨ pkt.nh = 17 then .ok (some pkt.payload)
  else if pkt.nh = 58 then icmpToScmp pkt.payload
  else .ok none

/-- The destination host: an embedded IPv4 address, or the IPv6 address itself.
Source: `scitun.py`, `translate_egress`. Kind: D -/
def dstHost (ipDst : IPv6Address) : Interface → IPAddress
  | .ipv4 host => .v4 host
  | .iid _ => .v6 ipDst

/-- The SCION packet that is sent. Source: `scitun.py`, `translate_egress`. Kind: D -/
def sentScion (dst : Unmapped) (dstHost : IPAddress) (path : ScionPath) (isdAsn : ℕ × ℕ)
    (hostIp : IPAddress) (l4 : L4) : SCION where
  DT := 0
  DL := hostLen dstHost
  ST := 0
  SL := hostLen hostIp
  DstISD := dst.isd
  DstAS := dst.asn
  SrcISD := isdAsn.1
  SrcAS := isdAsn.2
  DstHostAddr := dstHost.str
  SrcHostAddr := hostIp.str
  Path := path
  payload := l4

/-- Everything behind the lookup of the path. Source: `scitun.py`, `translate_egress`. Kind: D -/
def egressPacket (pkt : IPv6Packet) (dst : Unmapped) (dstHost : IPAddress) (path : CachedPath)
    (localIsdAsn : ℕ × ℕ) (hostIp : IPAddress) (hostPort : ℕ) : Py (Option (SCION × NextHop)) := do
  match ← egressL4 pkt with
  | none => return none
  | some l4 =>
      let nextHop : NextHop :=
        match path.1 with
        | .empty => .host dstHost hostPort
        | .scion _ => .router path.2
      return some (sentScion dst dstHost path.1 localIsdAsn hostIp l4, nextHop)

/-- Source: `scitun.py`, `translate_egress`. Kind: D -/
def translateEgress (getPaths : GetPaths) (pkt : TunPacket) (hostIp : IPAddress) (hostPort : ℕ)
    (cache : PathCache) : Py (Option (SCION × NextHop)) × PathCache :=
  match pkt with
  | .none => (.error .TypeError, cache)
  | .ip => (.ok none, cache)
  | .ipv6 pkt =>
      match IPv6Address.parse pkt.dst with
      | .error exc => (.error exc, cache)
      | .ok ipDst =>
          if ¬ SCION_NETWORK ipDst then (.ok none, cache)
          else
            match unmapIpv6 ipDst 8 with
            | .error exc => (.error exc, cache)
            | .ok dst =>
                match cache.lookup getPaths ((dst.isd <<< 48) ||| dst.asn) with
                | (.error exc, cache) => (.error exc, cache)
                | (.ok none, cache) => (.ok none, cache)
                | (.ok (some path), cache) =>
                    (egressPacket pkt dst (dstHost ipDst dst.interface) path cache.localIsdAsn
                      hostIp hostPort, cache)

/-! ## Ingress -/

/-- The address of a SCION host, `none` for a type or length that is not supported: the branches on
`DT`, `DL` and on `ST`, `SL`. Source: `scitun.py`, `translate_ingress`. Kind: D -/
def hostAddr (type length isd asn : ℕ) (text : Text) : Py (Option IPv6Address) :=
  if type = 0 then
    if length = 4 then do
      let host ← IPv4Address.parse text
      let ip ← mapIpv4 isd asn host
      return some ip
    else if length = 16 then do
      let ip ← IPv6Address.parse text
      return some ip
    else .ok none
  else .ok none

/-- The source address; one of sixteen bytes has to be in `fc00::/8`.
Source: `scitun.py`, `translate_ingress`. Kind: D -/
def srcAddr (pkt : SCION) : Py (Option IPv6Address) := do
  match ← hostAddr pkt.ST pkt.SL pkt.SrcISD pkt.SrcAS pkt.SrcHostAddr with
  | none => return none
  | some src => if pkt.SL = 16 ∧ ¬ SCION_NETWORK src then return none else return some src

/-- The upper-layer object that is delivered. Source: `scitun.py`, `translate_ingress`. Kind: D -/
def ingressL4 : L4 → Py (Option L4)
  | .udp seg => .ok (some (.udp { seg with chksum := none }))
  | .tcp seg => .ok (some (.tcp { seg with chksum := none }))
  | .scmp type message => scmpToIcmp type message
  | _ => .ok none

/-- The next header `scapy` puts in front of an upper-layer object. Kind: D -/
def nhOf : L4 → UInt8
  | .tcp _ => 6
  | .udp _ => 17
  | .icmpv6EchoRequest _ => 58
  | .icmpv6EchoReply _ => 58
  | .icmpv6 _ => 58
  | _ => 59

/-- An object received on the UDP socket. Kind: D -/
inductive Received where
  | scion (pkt : SCION)
  | other

/-- Source: `scitun.py`, `translate_ingress`. Kind: D -/
def translateIngress (pkt : Received) (tunIp : IPv6Address) : Py (Option IPv6Packet) :=
  match pkt with
  | .other => .ok none
  | .scion pkt => do
      match ← hostAddr pkt.DT pkt.DL pkt.DstISD pkt.DstAS pkt.DstHostAddr with
      | none => return none
      | some dst =>
          if dst ≠ tunIp then return none
          else
            match ← srcAddr pkt with
            | none => return none
            | some src =>
                match ← ingressL4 pkt.payload with
                | none => return none
                | some l4 => return some ⟨src.str, dst.str, nhOf l4, l4⟩

/-- The address of the TUN device of a host with the given address, in the AS with the given ISD and
ASN. Source: `scitun.py`, `run_translation`. Kind: D -/
def tunIp (hostIp : IPAddress) (localIsdAsn : ℕ × ℕ) : Py IPv6Address :=
  match hostIp with
  | .v4 ip => mapIpv4 localIsdAsn.1 localIsdAsn.2 ip
  | .v6 ip => .ok ip

/-! ## The addresses -/

/-- A host the translator may be configured with: an IPv4 address, or an IPv6 address in
`fc00::/8`. Kind: D -/
def Configurable : IPAddress → Prop
  | .v4 _ => True
  | .v6 ip => SCION_NETWORK ip = true

/-- A TUN address that was assigned is in the network. Kind: L -/
theorem tunIp_network {hostIp : IPAddress} (hconf : Configurable hostIp) {isdAsn : ℕ × ℕ}
    {ip : IPv6Address} (h : tunIp hostIp isdAsn = .ok ip) : SCION_NETWORK ip = true := by
  cases hostIp with
  | v4 host =>
      by_cases henc : Encodable isdAsn.1 isdAsn.2
      · rw [tunIp, mapIpv4_of_encodable henc] at h
        obtain rfl := Except.ok.inj h
        exact mapped_network henc host
      · obtain ⟨message, herr⟩ := mapIpv4_of_not_encodable henc host
        rw [tunIp, herr] at h
        cases h
  | v6 host =>
      obtain rfl := Except.ok.inj h
      exact hconf

/-- A four-byte host is read as its mapped address. Kind: L -/
theorem hostAddr_four {isd asn : ℕ} {text : Text} {host : IPv4Address} {ip : IPv6Address}
    (hhost : IPv4Address.parse text = .ok host) (hmap : mapIpv4 isd asn host = .ok ip) :
    hostAddr 0 4 isd asn text = .ok (some ip) := by
  rw [hostAddr, if_pos rfl, if_pos rfl, hhost, ok_bind, hmap]
  rfl

/-- A sixteen-byte host is read as it is. Kind: L -/
theorem hostAddr_sixteen (isd asn : ℕ) {text : Text} {ip : IPv6Address}
    (hip : IPv6Address.parse text = .ok ip) : hostAddr 0 16 isd asn text = .ok (some ip) := by
  rw [hostAddr, if_pos rfl, if_neg (by norm_num), if_pos rfl, hip]
  rfl

/-- **The destination is read back**, whether it was sent as four or as sixteen bytes. Kind: L -/
theorem hostAddr_dst {ip : IPv6Address} (hnet : SCION_NETWORK ip = true) :
    hostAddr 0 (hostLen (dstHost ip (unmapped ip 8).interface)) (unmapped ip 8).isd
      (unmapped ip 8).asn (dstHost ip (unmapped ip 8).interface).str = .ok (some ip) := by
  by_cases hmap : IsIpv4Mapped ip
  · have hhost : dstHost ip (unmapped ip 8).interface = .v4 (lowHost ip) := by
      rw [unmapped, if_pos hmap]
      rfl
    have henc := (asnCode_asnOfCode (bitField_lt ip.ip 108 12) (bitField_lt ip.ip 88 20)).1
    have hback : mapIpv4 (unmapped ip 8).isd (unmapped ip 8).asn (lowHost ip) = .ok ip := by
      rw [show (unmapped ip 8).isd = bitField ip.ip 108 12 from rfl,
        show (unmapped ip 8).asn = asnOfCode (bitField ip.ip 88 20) from rfl,
        mapIpv4_of_encodable henc, mapped_unmapped hnet hmap henc]
    rw [hhost]
    exact hostAddr_four (lowHost ip).parse_str hback
  · have hhost : dstHost ip (unmapped ip 8).interface = .v6 ip := by
      rw [unmapped, if_neg hmap]
      rfl
    rw [hhost]
    exact hostAddr_sixteen _ _ ip.parse_str

/-- **The source is read back**, whichever family the sending host is configured with. Kind: L -/
theorem srcAddr_src {hostIp : IPAddress} (hconf : Configurable hostIp) {isdAsn : ℕ × ℕ}
    {ip : IPv6Address} (h : tunIp hostIp isdAsn = .ok ip) {pkt : SCION} (hST : pkt.ST = 0)
    (hSL : pkt.SL = hostLen hostIp) (hISD : pkt.SrcISD = isdAsn.1) (hAS : pkt.SrcAS = isdAsn.2)
    (htext : pkt.SrcHostAddr = hostIp.str) : srcAddr pkt = .ok (some ip) := by
  have hnet := tunIp_network hconf h
  have haddr : hostAddr pkt.ST pkt.SL pkt.SrcISD pkt.SrcAS pkt.SrcHostAddr = .ok (some ip) := by
    rw [hST, hSL, hISD, hAS, htext]
    cases hostIp with
    | v4 host => exact hostAddr_four host.parse_str h
    | v6 host =>
        obtain rfl := Except.ok.inj h
        exact hostAddr_sixteen _ _ host.parse_str
  rw [srcAddr, haddr, ok_bind]
  exact if_neg (fun hc => hc.2 hnet)

/-! ## The round trip -/

/-- Where a packet is sent first. Kind: D -/
def nextHopOf (dstHost : IPAddress) (hostPort : ℕ) (path : CachedPath) : NextHop :=
  match path.1 with
  | .empty => .host dstHost hostPort
  | .scion _ => .router path.2

/-- A packet whose payload is translated is sent there. Kind: L -/
theorem egressPacket_eq {pkt : IPv6Packet} {l4 : L4} (h : egressL4 pkt = .ok (some l4))
    (dst : Unmapped) (dstHost : IPAddress) (path : CachedPath) (isdAsn : ℕ × ℕ)
    (hostIp : IPAddress) (hostPort : ℕ) :
    egressPacket pkt dst dstHost path isdAsn hostIp hostPort
      = .ok (some (sentScion dst dstHost path.1 isdAsn hostIp l4,
        nextHopOf dstHost hostPort path)) := by
  rw [egressPacket, h]
  rfl

/-- A packet into `fc00::/8` for which a path is found gets its header written. Kind: L -/
theorem translateEgress_of_path {getPaths : GetPaths} {cache : PathCache} {pkt : IPv6Packet}
    {ip : IPv6Address} {path : CachedPath} (hdst : IPv6Address.parse pkt.dst = .ok ip)
    (hnet : SCION_NETWORK ip = true)
    (hfound : (cache.lookup getPaths (((unmapped ip 8).isd <<< 48) ||| (unmapped ip 8).asn)).1
      = .ok (some path)) (hostIp : IPAddress) (hostPort : ℕ) :
    (translateEgress getPaths (.ipv6 pkt) hostIp hostPort cache).1 =
      egressPacket pkt (unmapped ip 8) (dstHost ip (unmapped ip 8).interface) path
        cache.localIsdAsn hostIp hostPort := by
  have hunmap := unmapIpv6_of_network hnet (show 8 ≤ 24 by norm_num)
  have hia := cache.lookup_localIa getPaths (((unmapped ip 8).isd <<< 48) ||| (unmapped ip 8).asn)
  rcases hlookup : cache.lookup getPaths (((unmapped ip 8).isd <<< 48) ||| (unmapped ip 8).asn) with
    ⟨r, cache'⟩
  rw [hlookup] at hfound hia
  obtain rfl : r = .ok (some path) := hfound
  have hlocal : cache'.localIsdAsn = cache.localIsdAsn := by
    rw [PathCache.localIsdAsn, PathCache.localIsdAsn, show cache'.localIa = cache.localIa from hia]
  simp only [translateEgress, hdst, hnet, not_true_eq_false, if_false, hunmap, hlookup, hlocal]

/-- A packet that is sent was bound for `fc00::/8`, its payload was translated, and a path was found.
Kind: L -/
theorem translateEgress_inversion {getPaths : GetPaths} {cache : PathCache} {pkt : IPv6Packet}
    {hostIp : IPAddress} {hostPort : ℕ} {scion : SCION} {nextHop : NextHop}
    (h : (translateEgress getPaths (.ipv6 pkt) hostIp hostPort cache).1
      = .ok (some (scion, nextHop))) :
    ∃ ip path l4, IPv6Address.parse pkt.dst = .ok ip ∧ SCION_NETWORK ip = true ∧
      egressL4 pkt = .ok (some l4) ∧
      (cache.lookup getPaths (((unmapped ip 8).isd <<< 48) ||| (unmapped ip 8).asn)).1
        = .ok (some path) ∧
      scion = sentScion (unmapped ip 8) (dstHost ip (unmapped ip 8).interface) path.1
        cache.localIsdAsn hostIp l4 := by
  rw [translateEgress] at h
  cases hdst : IPv6Address.parse pkt.dst with
  | error exc =>
      simp only [hdst] at h
      cases h
  | ok ip =>
      simp only [hdst] at h
      by_cases hnet : SCION_NETWORK ip = true
      · have hunmap := unmapIpv6_of_network hnet (show 8 ≤ 24 by norm_num)
        have hia := cache.lookup_localIa getPaths
          (((unmapped ip 8).isd <<< 48) ||| (unmapped ip 8).asn)
        rw [if_neg (not_not_intro hnet)] at h
        simp only [hunmap] at h
        rcases hlookup : cache.lookup getPaths
          (((unmapped ip 8).isd <<< 48) ||| (unmapped ip 8).asn) with ⟨r, cache'⟩
        rw [hlookup] at hia h
        cases r with
        | error exc => cases h
        | ok found =>
            cases found with
            | none => cases h
            | some path =>
                obtain ⟨l4, hl4, h⟩ := bind_eq_ok_iff.mp h
                cases l4 with
                | none => cases h
                | some l4 =>
                    have hlocal : cache'.localIsdAsn = cache.localIsdAsn := by
                      rw [PathCache.localIsdAsn, PathCache.localIsdAsn,
                        show cache'.localIa = cache.localIa from hia]
                    obtain ⟨rfl, -⟩ := Prod.mk.inj (Option.some.inj (Except.ok.inj h))
                    exact ⟨ip, path, l4, rfl, hnet, hl4, by rw [hlookup], by rw [hlocal]⟩
      · rw [if_pos hnet] at h
        cases h

/-- A packet for this host with an accepted source and payload is delivered. Kind: L -/
theorem translateIngress_of_parts {pkt : SCION} {tun src : IPv6Address} {l4 : L4}
    (hdst : hostAddr pkt.DT pkt.DL pkt.DstISD pkt.DstAS pkt.DstHostAddr = .ok (some tun))
    (hsrc : srcAddr pkt = .ok (some src)) (hl4 : ingressL4 pkt.payload = .ok (some l4)) :
    translateIngress (.scion pkt) tun = .ok (some ⟨src.str, tun.str, nhOf l4, l4⟩) := by
  simp only [translateIngress, hdst, hsrc, hl4, ok_bind, ne_eq, not_true_eq_false, if_false]
  rfl

/-- The payloads that are carried in both directions: TCP, UDP and ICMPv6 echo messages under their
own next header. Kind: D -/
inductive Translatable : IPv6Packet → Prop
  | tcp (src dst : Text) (seg : Segment) : Translatable ⟨src, dst, 6, .tcp seg⟩
  | udp (src dst : Text) (seg : Segment) : Translatable ⟨src, dst, 17, .udp seg⟩
  | echoRequest (src dst : Text) (msg : Echo) : Translatable ⟨src, dst, 58, .icmpv6EchoRequest msg⟩
  | echoReply (src dst : Text) (msg : Echo) : Translatable ⟨src, dst, 58, .icmpv6EchoReply msg⟩

/-- What is sent for a payload is delivered as that payload. Kind: L -/
theorem ingressL4_egressL4 {pkt : IPv6Packet} (h : Translatable pkt) :
    ∃ l4, egressL4 pkt = .ok (some l4) ∧ ingressL4 l4 = .ok (some pkt.payload.recomputed) := by
  cases h with
  | tcp src dst seg => exact ⟨.tcp seg, rfl, rfl⟩
  | udp src dst seg => exact ⟨.udp seg, rfl, rfl⟩
  | echoRequest src dst msg => exact ⟨.scmp SCMP_ECHO_REQUEST (.echo msg), rfl, rfl⟩
  | echoReply src dst msg => exact ⟨.scmp SCMP_ECHO_REPLY (.echo msg), rfl, rfl⟩

/-- **What one host sends another one delivers.** Host A and host B are each configured with an IPv4
address or with an IPv6 address in `fc00::/8`. A packet from the TUN address of A to the TUN address
of B, for which A finds a path, is translated by A; and the SCION packet, as it was made, is
translated by B to a packet with the same addresses and the same payload, checksums to be
recomputed. Kind: P -/
theorem translateIngress_translateEgress {hostA hostB : IPAddress} (hconfA : Configurable hostA)
    (hconfB : Configurable hostB) {isdAsnB : ℕ × ℕ} {getPaths : GetPaths} {cache : PathCache}
    {tunA tunB : IPv6Address} (hA : tunIp hostA cache.localIsdAsn = .ok tunA)
    (hB : tunIp hostB isdAsnB = .ok tunB) {pkt : IPv6Packet}
    (hsrc : IPv6Address.parse pkt.src = .ok tunA) (hdst : IPv6Address.parse pkt.dst = .ok tunB)
    (hpayload : Translatable pkt)
    (hpath : ∀ u, unmapIpv6 tunB 8 = .ok u →
      ∃ path, (cache.lookup getPaths ((u.isd <<< 48) ||| u.asn)).1 = .ok (some path))
    (hostPort : ℕ) :
    ∃ scion nextHop out,
      (translateEgress getPaths (.ipv6 pkt) hostA hostPort cache).1 = .ok (some (scion, nextHop)) ∧
      translateIngress (.scion scion) tunB = .ok (some out) ∧
      IPv6Address.parse out.src = IPv6Address.parse pkt.src ∧
      IPv6Address.parse out.dst = IPv6Address.parse pkt.dst ∧
      out.payload = pkt.payload.recomputed := by
  have hnet := tunIp_network hconfB hB
  obtain ⟨l4, hegress, hingress⟩ := ingressL4_egressL4 hpayload
  obtain ⟨path, hfound⟩ := hpath _ (unmapIpv6_of_network hnet (show 8 ≤ 24 by norm_num))
  have hsent := translateEgress_of_path hdst hnet hfound hostA hostPort
  have hpacket := egressPacket_eq hegress (unmapped tunB 8)
    (dstHost tunB (unmapped tunB 8).interface) path cache.localIsdAsn hostA hostPort
  have hdelivered := @translateIngress_of_parts
    (sentScion (unmapped tunB 8) (dstHost tunB (unmapped tunB 8).interface) path.1
      cache.localIsdAsn hostA l4) tunB tunA pkt.payload.recomputed (hostAddr_dst hnet)
    (srcAddr_src hconfA hA rfl rfl rfl rfl rfl) hingress
  refine ⟨_, _, _, hsent.trans hpacket, hdelivered, ?_, ?_, rfl⟩
  · rw [hsrc]
    exact IPv6Address.parse_str tunA
  · rw [hdst]
    exact IPv6Address.parse_str tunB

/-! ## A sample run -/

/-- A daemon with one empty path to everywhere. Kind: D -/
def sampleGetPaths : GetPaths := fun _ => .ok [([], [])]

/-- The cache of a host in `1-64512` that has not looked up anything yet. Kind: D -/
def samplePathCache : PathCache := ⟨0x000100000000fc00, fun _ => none⟩

/-- A datagram from `10.128.0.1` in `1-64512` to the IPv6 host `fc00:10fc:100::1`. Kind: D -/
def sampleDatagram : IPv6Packet :=
  ⟨"fc00:10fc::ffff:a80:1".toList, "fc00:10fc:100::1".toList, 17,
    .udp ⟨some 0xbeef, [0x03, 0xE8, 0x07, 0xD0, 0xDE, 0xAD]⟩⟩

/-- The sample datagram is delivered. Kind: C -/
theorem translateIngress_translateEgress_sample :
    ∃ scion nextHop out,
      (translateEgress sampleGetPaths (.ipv6 sampleDatagram) (.v4 ⟨0x0a800001, by norm_num⟩) 30041
        samplePathCache).1 = .ok (some (scion, nextHop)) ∧
      translateIngress (.scion scion) ⟨0xfc0010fc010000000000000000000001, by norm_num⟩
        = .ok (some out) ∧
      out.payload = .udp ⟨none, [0x03, 0xE8, 0x07, 0xD0, 0xDE, 0xAD]⟩ := by
  have hconf : Configurable (.v6 ⟨0xfc0010fc010000000000000000000001, by norm_num⟩) :=
    show SCION_NETWORK _ = true by decide +kernel
  obtain ⟨scion, nextHop, out, hsent, hdelivered, -, -, hpayload⟩ :=
    @translateIngress_translateEgress (.v4 ⟨0x0a800001, by norm_num⟩)
      (.v6 ⟨0xfc0010fc010000000000000000000001, by norm_num⟩) trivial hconf (1, 64513)
      sampleGetPaths samplePathCache ⟨0xfc0010fc000000000000ffff0a800001, by norm_num⟩
      ⟨0xfc0010fc010000000000000000000001, by norm_num⟩ (by decide +kernel) rfl sampleDatagram
      (by decide +kernel) (by decide +kernel) (Translatable.udp _ _ _)
      (fun u _ => ⟨(.empty, .empty), rfl⟩) 30041
  exact ⟨scion, nextHop, out, hsent, hdelivered, hpayload⟩

end ScionIp.Prototype
