import ScionIp.Prototype.FirstAnswer

/-!
# Delivery between Python translators

What a run of the instances can always still do. An instance that may find a path to the AS of
another one, to a next hop it can send to, gets a packet through to it from any state of the network
in which both are running.

* `tunTurn_of_path`, `udpTurn_of_scion` — the two turns, when nothing is in their way.
* `translateIngress_of_sent` — the packet that comes out.
* `delivery_possible` — from every reachable state; a lookup may find a path exactly if the empty
  answer is not in the cache (`exists_lookup_iff`).
-/

namespace ScionIp.Prototype

open ScionIp.Lib ScionIp.Python

/-! ## The two turns -/

/-- A turn that finds a path to a next hop of the host's family sends the packet. Kind: L -/
theorem tunTurn_of_path {scapy : Scapy} {build : ScapyBuild} {calls : TurnCalls}
    {hostIp : IPAddress} {hostPort : ℕ} {frame raw : Bytes} {cache : PathCache} {pkt : IPv6Packet}
    {ip : IPv6Address} {l4 : L4} {path : CachedPath} {dest : IPAddress} {scopeId : Option Text}
    {port : ℤ} {n : ℕ}
    (hread : ReadAs scapy frame pkt) (hdst : IPv6Address.parse pkt.dst = .ok ip)
    (hnet : SCION_NETWORK ip = true) (hl4 : egressL4 pkt = .ok (some l4))
    (hfound : (cache.lookup calls.getPaths (dstIaOf ip)).1 = .ok (some path))
    (hhop : (nextHopOf (dstHost ip (unmapped ip 8).interface) hostPort path).destination
      = .ok (dest, scopeId, port))
    (hversion : ipVersion dest = ipVersion hostIp)
    (hraw : build.scionBytes (sentScion (unmapped ip 8) (dstHost ip (unmapped ip 8).interface)
      path.1 cache.localIsdAsn hostIp l4) = .ok raw)
    (hsendto : calls.sendto raw (scopedStr dest scopeId, port) = .ok n) :
    ∃ cache', tunTurn scapy build calls hostIp hostPort frame cache = (.ok [raw], cache') := by
  have hsent := translateEgress_of_path hdst hnet hfound hostIp hostPort
  rw [egressPacket_eq hl4] at hsent
  rcases hegress : translateEgress calls.getPaths (.ipv6 pkt) hostIp hostPort cache with ⟨r, cache'⟩
  rw [hegress] at hsent
  obtain rfl : r = _ := hsent
  refine ⟨cache', ?_⟩
  rw [tunTurn, egressTurn_of_readAs hread, hegress]
  simp only [sendDatagram, hhop, ok_bind, hversion, if_true, hraw, hsendto]
  rfl

/-- A turn for a SCION packet that is accepted writes the IPv6 packet. Kind: L -/
theorem udpTurn_of_scion {build : ScapyBuild} {calls : TurnCalls} {tun : IPv6Address}
    {raw raw6 : Bytes} {scion : SCION} {out : IPv6Packet} {n : ℕ} (hlen : raw.length ≤ 2048)
    (hscion : build.scion raw = .ok (.scion scion))
    (hout : translateIngress (.scion scion) tun = .ok (some out))
    (hraw6 : build.ipv6Bytes out = .ok raw6) (hwrite : calls.write (tunBuffer raw6) = .ok n) :
    udpTurn build calls tun raw = .ok [tunBuffer raw6] := by
  rw [udpTurn, List.take_of_length_le hlen, hscion, ok_bind, hout, ok_bind]
  simp only [hraw6, hwrite, ok_bind]
  rfl

/-- The IPv6 packet that is written for `pkt`. Kind: D -/
def writtenFor (src dst : IPv6Address) (pkt : IPv6Packet) : IPv6Packet :=
  ⟨src.str, dst.str, nhOf pkt.payload.recomputed, pkt.payload.recomputed⟩

/-- **What was sent is accepted as it arrives.** Kind: L -/
theorem translateIngress_of_sent {hostIp : IPAddress} (hconf : Configurable hostIp) {localIa : ℕ}
    {src dst : IPv6Address} (hsrc : tunIp hostIp (newPathCache localIa).localIsdAsn = .ok src)
    (hnet : SCION_NETWORK dst = true) {pkt : IPv6Packet} (htrans : Translatable pkt) {l4 : L4}
    (hl4 : egressL4 pkt = .ok (some l4)) {path : ScionPath} {arrived : SCION}
    (hsame : (scionFor dst path localIa hostIp l4).ArrivesAs arrived) :
    translateIngress (.scion arrived) dst = .ok (some (writtenFor src dst pkt)) := by
  obtain ⟨l4', hl4', hingress⟩ := ingressL4_egressL4 htrans
  obtain rfl := Option.some.inj (Except.ok.inj (hl4.symm.trans hl4'))
  have hpayload : arrived.payload.recomputed = l4.recomputed :=
    hsame.payload (htrans.carried hl4)
  refine translateIngress_of_parts (hsame.dst_eq.trans (hostAddr_dst hnet))
    (hsame.src_eq.trans (srcAddr_src hconf hsrc rfl rfl rfl rfl rfl)) ?_
  rw [← ingressL4_recomputed, hpayload, ingressL4_recomputed, hingress]

/-- A lookup can find a path unless the empty answer is in the cache. Kind: L -/
theorem exists_lookup_iff (cache : PathCache) (ia : ℕ) :
    (∃ getPaths path, (cache.lookup getPaths ia).1 = .ok (some path)) ↔
      cache.paths ia ≠ some [] := by
  constructor
  · rintro ⟨getPaths, path, hfound⟩ hempty
    rw [PathCache.lookup, hempty] at hfound
    cases hfound
  · intro hne
    cases hknown : cache.paths ia with
    | none => exact ⟨sampleGetPaths, (.empty, .empty), by rw [PathCache.lookup, hknown]; rfl⟩
    | some paths =>
      cases paths with
      | nil => exact absurd hknown hne
      | cons path paths => exact ⟨sampleGetPaths, path, by rw [PathCache.lookup, hknown]; rfl⟩

/-- Calls that succeed. Kind: D -/
def succeeding (getPaths : GetPaths) : TurnCalls :=
  ⟨getPaths, fun raw _ => .ok raw.length, fun b => .ok b.length⟩

/-! ## From any state -/

section Network

variable {ι : Type*} [DecidableEq ι] {N : Fleet ι}
  {s : NetworkState ι (Option PathCache) Bytes Bytes Bytes}

/-- **Delivery stays possible**: from every reachable state in which two instances run, a packet for
the TUN address of the one that the other one reads can be delivered, if a lookup may find a path to
a next hop of the host's family, and `scapy` builds the two packets, of which the SCION packet fits
the buffer of the receiver. Kind: P -/
theorem delivery_possible {wellFormed : ScionPath → Prop}
    (hdocumented : N.Documented wellFormed)
    (hs : (network (instances N)).Reachable s) {i j : ι}
    {cache cacheJ : PathCache} (hi : s.party i = some cache) (hj : s.party j = some cacheJ)
    (hconf : Configurable (N.inst i).hostIp) (hnet : SCION_NETWORK (N.inst j).tun = true)
    {frame : Bytes} {pkt : IPv6Packet} (hread : ReadAs N.scapy frame pkt)
    (htrans : Translatable pkt) (hdst : IPv6Address.parse pkt.dst = .ok (N.inst j).tun)
    {getPaths : GetPaths} (hanswers : N.answers getPaths) {path : CachedPath}
    (hfound : (cache.lookup getPaths (dstIaOf (N.inst j).tun)).1 = .ok (some path))
    {dest : IPAddress} {scopeId : Option Text} {port : ℤ}
    (hhop : (nextHopOf (dstHost (N.inst j).tun (unmapped (N.inst j).tun 8).interface)
      (N.inst i).hostPort path).destination = .ok (dest, scopeId, port))
    (hversion : ipVersion dest = ipVersion (N.inst i).hostIp) {l4 : L4}
    (hl4 : egressL4 pkt = .ok (some l4)) {raw raw6 : Bytes}
    (hraw : N.build.scionBytes (scionFor (N.inst j).tun path.1 (N.inst i).localIa
      (N.inst i).hostIp l4) = .ok raw)
    (hlen : raw.length ≤ 2048)
    (hraw6 : N.build.ipv6Bytes (writtenFor (N.inst i).tun (N.inst j).tun pkt) = .ok raw6) :
    ∃ t, Relation.ReflTransGen (network (instances N)).step s t ∧
      ((i, frame), j, tunBuffer raw6) ∈ t.delivered ∧
      Explains N (i, frame) (j, tunBuffer raw6) := by
  obtain ⟨hof, hpaths⟩ := ((instances_explained hdocumented).reachable hs).party i cache hi
  -- the packet is sent
  have hturn : ∃ cache', tunTurn N.scapy N.build (succeeding getPaths) (N.inst i).hostIp
      (N.inst i).hostPort frame cache = (.ok [raw], cache') :=
    tunTurn_of_path hread hdst hnet hl4 hfound hhop hversion
      ((congrArg N.build.scionBytes (sentScion_eq_scionFor hof _ _ _)).trans hraw) rfl
  obtain ⟨cache', hturn⟩ := hturn
  set sent : NetworkState ι (Option PathCache) Bytes Bytes Bytes :=
    { s.setParty i (some cache') with
      wire := [raw].map (Prod.mk (i, frame)) ++ s.wire
      submitted := (i, frame) :: s.submitted }
  have hsend : NetworkStep (instances N) s sent :=
    .submit s i frame (some cache') [raw] ⟨cache, _, _, cache', hi, hanswers, hturn, Or.inl ⟨rfl, rfl⟩⟩
  -- the datagram arrives as it was sent
  obtain ⟨arrived, hscion, hsame⟩ := hdocumented.build _ _ _ _ _ _ _ _ hread hl4 hnet
    (hpaths.found (hdocumented.answers getPaths hanswers) hfound) hraw
  have hout := translateIngress_of_sent hconf (N.inst i).tun_eq hnet htrans hl4 hsame
  have hudp : udpTurn N.build (succeeding getPaths) (N.inst j).tun raw = .ok [tunBuffer raw6] :=
    udpTurn_of_scion hlen hscion hout hraw6 rfl
  have hrunning : ∃ c, sent.party j = some c := by
    by_cases hij : j = i
    · subst hij
      exact ⟨cache', NetworkState.setParty_self _ _ _⟩
    · exact ⟨cacheJ, (Function.update_of_ne hij _ _).trans hj⟩
  obtain ⟨c, hc⟩ := hrunning
  have hreceive := NetworkStep.receive (P := instances N) sent [] s.wire (i, frame) raw j _
    [tunBuffer raw6] rfl ⟨c, _, _, hc, hudp, Or.inl ⟨rfl, rfl⟩⟩
  have hdelivers : Delivers N i j pkt (writtenFor (N.inst i).tun (N.inst j).tun pkt) :=
    SentFor.delivers ⟨_, path.1, l4, hdst, hnet, hl4, hsame⟩ hout
  exact ⟨_, (Relation.ReflTransGen.single hsend).tail hreceive, List.mem_cons_self,
    pkt, _, raw6, hread, hraw6, rfl, hdelivers⟩

end Network

/-- The echo request can be delivered on the sample network. Kind: C -/
theorem delivery_possible_sample :
    ∃ t, Relation.ReflTransGen (network (instances echoFleet)).step echoNetwork t ∧
      ((false, echoFrame), true, tunBuffer (tunData echoFrame)) ∈ t.delivered := by
  have hstart : (network (instances echoFleet)).Reachable echoNetwork :=
    .init ⟨fun _ => rfl, rfl, rfl, rfl⟩
  have hread : ReadAs sampleScapy echoFrame
      ⟨"fc00:10fc::ffff:a80:1".toList, "fc00:10fc::ffff:a80:2".toList, 58,
        .icmpv6EchoRequest ⟨1, 1, []⟩⟩ := by
    exact ⟨by decide +kernel, by decide +kernel⟩
  obtain ⟨t, hrun, hdelivered, -⟩ := @delivery_possible Bool _ echoFleet echoNetwork _
    echoFleet_documented hstart false true _ _ rfl rfl trivial (by decide +kernel) echoFrame _ hread (.echoRequest _ _ _)
    (by decide +kernel) sampleGetPaths echoFleet_answers (.empty, .empty) (by decide +kernel)
    (.v4 ⟨0x0a800002, by norm_num⟩) none 30041 (by decide +kernel) rfl
    (.scmp SCMP_ECHO_REQUEST (.echo ⟨1, 1, []⟩)) rfl echoDatagram (tunData echoFrame)
    (by decide +kernel) (by decide) (by decide +kernel)
  exact ⟨t, hrun, hdelivered⟩

end ScionIp.Prototype
