import ScionIp.Ebpf.Datagram
import ScionIp.Ebpf.Network
import ScionIp.Ebpf.SourceIdentity
import ScionIp.Prototype.Network

/-!
# Both translators on one network

Each host runs the programs in the kernel with their path service, or an instance of the Python
translator, and has an address of its own in `fc00::/8`. Neither knows what the other one runs.

* `ScapyWire` — what `scapy` is documented to make of a SCION packet in bytes, and of the bytes.
* `hosts` — the hosts as parties of a network.
* `hosts_explained` — whichever translator is on either side, a packet arrives at the host it is
  for, under its source, and a TCP or UDP segment arrives as that segment, up to its checksum.
-/

namespace ScionIp.Mixed

open ScionIp.Lib ScionIp.Python
open ScionIp.Ebpf (Frame TcHelpers XdpHelpers CacheState EgressForwards scionEgress scionIngress
  scionPrefixMatch reqHandler ipDaddr ipSaddr ipNexthdr sciLen NEXTHDR_UDP InTransit IpHop Topology
  ScionDatagram InFrame)
open ScionIp.Prototype (SCION IPv6Packet L4 Segment Scapy ScapyBuild TurnCalls PathCache GetPaths
  NextHop RouterAddr CachedPath AnswersOk newPathCache egressTurn tunTurn udpTurn tunBuffer ReadAs
  nhOf translateEgress dstHost unmapped translateEgress_of_path translateEgress_inversion
  egressPacket_eq tunTurn_holds tunTurn_inversion egressTurn_inversion egressL4 hostLen
  udpTurn_inversion translateIngress_inversion srcAddr_inversion ingressL4 ingressL4_recomputed)

/-! ## SCION packets in bytes -/

/-- The address of a host. Kind: D -/
def address (host : List.Vector UInt8 16) : IPv6Address :=
  ⟨ofBE host.toList, by simpa using ofBE_lt host.toList⟩

/-- Its bytes. Kind: L -/
@[simp] theorem packed_address (host : List.Vector UInt8 16) :
    (address host).packed = host.toList := by
  simpa [IPv6Address.packed, address] using toBE_ofBE host.toList

/-- A host is determined by its bytes. Kind: L -/
theorem address_eq_iff {host : List.Vector UInt8 16} {ip : IPv6Address} :
    address host = ip ↔ host.toList = ip.packed := by
  constructor
  · rintro rfl
    exact (packed_address host).symm
  · intro h
    have hip : ofBE host.toList = ip.ip := by
      rw [h, IPv6Address.ofBE_packed]
    cases ip
    simpa [address] using hip

/-- The text is that of the host. Kind: D -/
def Denotes (text : Text) (host : List.Vector UInt8 16) : Prop :=
  IPv6Address.parse text = .ok (address host)

/-- The text of an address is that of the host with its bytes. Kind: L -/
theorem denotes_str {ip : IPv6Address} {host : List.Vector UInt8 16}
    (h : host.toList = ip.packed) : Denotes ip.str host := by
  rw [Denotes, address_eq_iff.mpr h]
  exact ip.parse_str

/-- The upper-layer objects of bytes, by the next header. Kind: D -/
abbrev Layer := UInt8 → Bytes → L4

/-- A TCP or UDP segment under its own next header. Kind: D -/
inductive IsSegment : UInt8 → L4 → Prop
  | tcp (seg : Segment) : IsSegment 6 (.tcp seg)
  | udp (seg : Segment) : IsSegment 17 (.udp seg)

/-- **The documented behaviour of `scapy` on SCION packets.** One octet of the common header tells
the kinds of host addresses; between hosts with addresses of sixteen bytes the bytes are laid out as
`ScionDatagram` says, and are dissected so. Kind: D -/
structure ScapyWire (build : ScapyBuild) (layer : Layer) : Prop where
  kinds : ∀ pkt raw, build.scionBytes pkt = .ok raw → pkt.DT = 0 → pkt.ST = 0 →
    (byteAt raw 9 = 0x33 ↔ pkt.DL = 16 ∧ pkt.SL = 16)
  scionBytes : ∀ pkt raw, build.scionBytes pkt = .ok raw → byteAt raw 9 = 0x33 →
    ∃ d : ScionDatagram, raw = d.bytes ∧ d.Exact ∧ Denotes pkt.DstHostAddr d.dstHost ∧
      Denotes pkt.SrcHostAddr d.srcHost ∧ ∀ nh, IsSegment nh pkt.payload →
        d.next = nh ∧ (layer nh d.payload).recomputed = pkt.payload.recomputed
  scion : ∀ (d : ScionDatagram) packet, d.Exact → build.scion d.bytes = .ok packet →
    ∃ pkt, packet = .scion pkt ∧ pkt.DT = 0 ∧ pkt.DL = 16 ∧ pkt.ST = 0 ∧ pkt.SL = 16 ∧
      Denotes pkt.DstHostAddr d.dstHost ∧ Denotes pkt.SrcHostAddr d.srcHost ∧
      pkt.payload = layer d.next d.payload

/-! ## The network -/

/-- What a host runs. Kind: D -/
inductive Translator where
  | kernel (e : Endian)
  | python (hostPort localIa : ℕ)

/-- The hosts, the border routers, and the libraries of the Python translator. Kind: D -/
structure Net (ι : Type*) where
  runs : ι → Translator
  addr : ι → IPv6Address
  inNetwork : ∀ i, SCION_NETWORK (addr i) = true
  router : Bytes → Prop
  apart : ∀ i, ¬ router (addr i).packed
  scapy : Scapy
  build : ScapyBuild
  layer : Layer
  wire : ScapyWire build layer
  duplicates : Prop

variable {ι : Type*}

/-- Where the hosts are, for the programs in the kernel. Kind: D -/
def Net.topology (N : Net ι) : Topology ι where
  endian i :=
    match N.runs i with
    | .kernel e => e
    | .python _ _ => .little
  owns i a := a = (N.addr i).packed
  router := N.router
  duplicates := N.duplicates
  apart i a h := by
    rw [h]
    exact N.apart i

/-- The state of a host: the maps of the kernel, or the cache of the Python translator until an
exception ends it. Kind: D -/
inductive HostState where
  | kernel (maps : CacheState)
  | python (cache : Option PathCache)

/-- The next hop of a path is a border router. Kind: D -/
def ViaRouter (N : Net ι) (path : CachedPath) : Prop :=
  ∀ ip scopeId port, path.2 = .addr (.v6 ip) scopeId port → N.router ip.packed

/-- What is relied on of the daemon of a Python translator: the addresses it returns are those of
border routers. Kind: D -/
def DaemonOk (N : Net ι) (getPaths : GetPaths) : Prop := AnswersOk (ViaRouter N) getPaths

/-- The kernel sends `raw` from a UDP socket to an IPv6 address. Kind: D -/
structure Encapsulates (raw : Bytes) (dest : IPv6Address) (q : Frame) : Prop where
  ipv6 : peek q 12 2 = [0x86, 0xDD]
  nexthdr : ipNexthdr q = NEXTHDR_UDP
  daddr : ipDaddr q = dest.packed
  datagram : q.drop 62 = raw

/-- A border router gets a frame that is addressed to it. A packet between hosts with addresses of
sixteen bytes is sent to another router or to the host it is for; any other packet stays among
routers. Kind: D -/
structure RouterHop (N : Net ι) (q r : Frame) : Prop where
  router : N.router (ipDaddr q)
  sixteen : byteAt q 71 = 0x33 → InTransit (4 * (sciLen q).toNat - 60) q r ∧
    (N.router (ipDaddr r) ∨ ipDaddr r = peek r 90 16)
  other : byteAt q 71 ≠ 0x33 → byteAt r 71 ≠ 0x33 ∧ N.router (ipDaddr r)

/-- What a turn of the Python translator puts on the network: at most the datagram that was sent, to
the address that was given to `sendto`. Kind: D -/
def SendsOut (N : Net ι) (i : ι) (hostPort : ℕ) (calls : TurnCalls) (frame : Bytes)
    (cache : PathCache) (raws : List Bytes) (ms : List Frame) : Prop :=
  ms.length ≤ raws.length ∧ ∀ q ∈ ms, ∃ raw ∈ raws, ∃ pkt dest ip scopeId port,
    (egressTurn N.scapy calls.getPaths (.v6 (N.addr i)) hostPort frame cache).1
      = .ok (some (pkt, dest)) ∧
    dest.destination = .ok (.v6 ip, scopeId, port) ∧ Encapsulates raw ip q

/-- **The hosts as parties of a network.** What the programs in the kernel leave alone does not
concern it. Source: `egress.bpf.c`, `ingress.bpf.c`, `PathService.cxx`, `scitun.py`. Kind: D -/
def hosts (N : Net ι) : Parties ι HostState Frame Bytes Bytes where
  initially i c :=
    match N.runs i with
    | .kernel _ => c = .kernel ⟨fun _ => none, []⟩
    | .python _ localIa => c = .python (some (newPathCache localIa))
  own i c c' :=
    match N.runs i with
    | .kernel e => ∃ maps key pending queryPaths updateRet, c = .kernel maps ∧
        maps.pathReq = key :: pending ∧ Ebpf.DaemonOk N.topology queryPaths ∧
        Ebpf.UpdateRetOk maps.pathMap key updateRet ∧
        c' = .kernel ⟨reqHandler e queryPaths updateRet maps.pathMap key, pending⟩
    | .python _ _ => False
  submit i f c c' ms :=
    match N.runs i with
    | .kernel e => ∃ maps, ∃ (h : TcHelpers) (pushed : Bool), c = .kernel maps ∧
        c' = .kernel { maps with
          pathReq := maps.pathReq ++
            if pushed then (scionEgress e h maps.pathMap f).request.toList else [] } ∧
        ms = if ¬ EgressForwards e f ∧ (scionEgress e h maps.pathMap f).verdict = .TC_ACT_OK then
          [(scionEgress e h maps.pathMap f).frame] else []
    | .python hostPort _ => ∃ cache calls r cache', c = .python (some cache) ∧
        DaemonOk N calls.getPaths ∧
        tunTurn N.scapy N.build calls (.v6 (N.addr i)) hostPort f cache = (r, cache') ∧
        ((∃ raws, r = .ok raws ∧ c' = .python (some cache') ∧
            SendsOut N i hostPort calls f cache raws ms) ∨
          (∃ exc, r = .error exc) ∧ c' = .python none ∧ ms = [])
  receive j q c c' bs := ipDaddr q = (N.addr j).packed ∧
    match N.runs j with
    | .kernel e => c' = c ∧ ∃ x : XdpHelpers,
        bs = if (scionIngress e x q).verdict = .XDP_PASS then [(scionIngress e x q).frame] else []
    | .python _ _ => ∃ cache calls r, c = .python (some cache) ∧
        udpTurn N.build calls (N.addr j) (q.drop 62) = r ∧
        (r = .ok bs ∧ c' = c ∨ (∃ exc, r = .error exc) ∧ c' = .python none ∧ bs = [])
  hop q r := IpHop q r ∨ RouterHop N q r
  duplicates := N.duplicates

/-! ## What is carried -/

/-- The router addresses in the cache of a Python translator are those of border routers.
Kind: D -/
def RoutersOk (N : Net ι) (cache : PathCache) : Prop := cache.Holds (ViaRouter N)

/-- The invariant of a host. Kind: D -/
def HostOk (N : Net ι) (i : ι) (c : HostState) : Prop :=
  match N.runs i with
  | .kernel _ => ∃ maps, c = .kernel maps ∧ Ebpf.HostOk N.topology i maps
  | .python _ _ => ∀ cache, c = .python (some cache) → RoutersOk N cache

/-- **The packet `d` is the one that host `i` sends for the data it was handed**: a frame of its
stack, or a buffer of its TUN device. Kind: D -/
def IsFor (N : Net ι) (x : ι × Bytes) (d : ScionDatagram) : Prop :=
  match N.runs x.1 with
  | .kernel _ => d.next = ipNexthdr x.2 ∧ d.payloadLen.toList = peek x.2 18 2 ∧
      d.dstHost.toList = ipDaddr x.2 ∧ d.srcHost.toList = ipSaddr x.2 ∧ d.payload = x.2.drop 54
  | .python _ _ => d.Exact ∧ d.srcHost.toList = (N.addr x.1).packed ∧ ∃ pkt,
      ReadAs N.scapy x.2 pkt ∧ Denotes pkt.dst d.dstHost ∧ (IsSegment pkt.nh pkt.payload →
        d.next = pkt.nh ∧ (N.layer pkt.nh d.payload).recomputed = pkt.payload.recomputed)

/-- A SCION packet that can be sent for the data is longer than the buffer of `recvfrom`. Kind: D -/
def Oversized (N : Net ι) (x : ι × Bytes) : Prop :=
  ∃ c c' ms, (hosts N).submit x.1 x.2 c c' ms ∧ ∃ q ∈ ms, 2048 < (q.drop 62).length

/-- What is underway: such a packet, for a router or the host it is for; or one between hosts with
other kinds of addresses, for a router. Kind: D -/
def Carries (N : Net ι) (x : ι × Bytes) (q : Frame) : Prop :=
  (∃ d, InFrame d q ∧ IsFor N x d ∧ (N.router (ipDaddr q) ∨ ipDaddr q = d.dstHost.toList) ∧
      (2048 < d.bytes.length → Oversized N x)) ∨
    (byteAt q 71 ≠ 0x33 ∧ N.router (ipDaddr q))

/-! ### On the way -/

/-- The path does not matter for whom the packet is. Kind: L -/
theorem IsFor.withPath {N : Net ι} {x : ι × Bytes} {d : ScionDatagram} (h : IsFor N x d)
    {path : Bytes} (hlen : path.length = d.path.length) : IsFor N x (d.withPath path hlen) := by
  unfold IsFor at h ⊢
  split at h <;> exact h

/-- A node that forwards by IP keeps the packet. Kind: L -/
theorem inFrame_of_ipHop {d : ScionDatagram} {q r : Frame} (h : InFrame d q) (hr : IpHop q r) :
    InFrame d r ∧ ipDaddr r = ipDaddr q := by
  refine ⟨⟨?_, ?_, ?_⟩, hr.peek_eq (by omega)⟩
  · rw [hr.peek_eq (by omega), h.ipv6]
  · have hbyte : peek r 20 1 = peek q 20 1 := hr.peek_eq (by omega)
    rw [ipNexthdr, byteAt_of_peek_eq hbyte Nat.zero_lt_one]
    exact h.nexthdr
  · rw [← h.scion]
    apply List.ext_getElem?
    intro i
    rw [List.getElem?_drop, List.getElem?_drop, hr.same _ (by omega)]

/-- **A hop keeps what is carried.** Kind: L -/
theorem Carries.hop {N : Net ι} {x : ι × Bytes} {q r : Frame} (h : Carries N x q)
    (hr : IpHop q r ∨ RouterHop N q r) : Carries N x r := by
  rcases h with ⟨d, hd, hfor, hdst, hsize⟩ | ⟨hkind, hrouter⟩
  · rcases hr with hip | hrouter
    · obtain ⟨hd', hdaddr⟩ := inFrame_of_ipHop hd hip
      exact .inl ⟨d, hd', hfor, by rwa [hdaddr], hsize⟩
    · obtain ⟨-, hsci, -, hkind, -⟩ := hd.fields
      obtain ⟨htransit, hnext⟩ := hrouter.sixteen hkind
      rw [hsci, d.toNat_hdrLen, Nat.add_sub_cancel_left] at htransit
      obtain ⟨path, hlen, hd'⟩ := hd.inTransit htransit
      have hbytes : (d.withPath path hlen).bytes.length = d.bytes.length := by
        rw [d.length_bytes, ScionDatagram.length_bytes]
        simp only [ScionDatagram.withPath, hlen]
      refine .inl ⟨_, hd', hfor.withPath hlen, hnext.imp_right fun hhost => ?_, by rwa [hbytes]⟩
      rw [hhost, hd'.fields.2.2.2.2.1]
  · rcases hr with hip | hhop
    · have hkindByte : peek r 71 1 = peek q 71 1 := hip.peek_eq (by omega)
      have hdaddr : ipDaddr r = ipDaddr q := hip.peek_eq (by omega)
      exact .inr ⟨by rwa [byteAt_of_peek_eq hkindByte Nat.zero_lt_one], by rwa [hdaddr]⟩
    · exact .inr (hhop.other hkind)

/-! ### Sending -/

/-- What the programs in the kernel emit. Kind: L -/
theorem carries_of_kernel {N : Net ι} {i : ι} {e : Endian} (hrun : N.runs i = .kernel e)
    {maps : CacheState} (hok : Ebpf.HostOk N.topology i maps) (h : TcHelpers) {f : Frame}
    (hfwd : ¬ EgressForwards e f) (hv : (scionEgress e h maps.pathMap f).verdict = .TC_ACT_OK)
    (hsize : 2048 < ((scionEgress e h maps.pathMap f).frame.drop 62).length →
      Oversized N (i, f)) :
    Carries N (i, f) (scionEgress e h maps.pathMap f).frame := by
  have hend : N.topology.endian i = e := by
    simp [Net.topology, hrun]
  rcases Ebpf.scionEgress_cases e h maps.pathMap f with ⟨hf, -⟩ | ⟨-, -, heq⟩ |
    ⟨_, -, -, -, hshot, -⟩ | ⟨entry, ht, heq⟩
  · exact absurd hf hfwd
  · rw [heq] at hv
    cases hv
  · rw [hshot] at hv
    cases hv
  · have hrouter := hok.routed _ _ ht.hit
    obtain ⟨path, -, hfit, rfl⟩ := hok.cache _ _ (hend ▸ ht.hit)
    rw [hend] at ht heq
    rw [heq] at hsize
    have hlay := Ebpf.egressOutput_layout ht (Ebpf.pathToMapEntry_consistent e hfit)
    obtain ⟨d, hd, hnext, hlen, hdst, hsrc, hpayload⟩ := hlay.inFrame hfit hfwd
    rw [heq]
    refine .inl ⟨d, hd, ?_, .inl ?_, by rwa [← hd.scion]⟩
    · unfold IsFor
      rw [hrun]
      exact ⟨hnext, hlen, hdst, hsrc, hpayload⟩
    · rw [hlay.daddr]
      exact hend ▸ hrouter

/-- **Where a translation sends**: the next hop is the destination or a border router. Kind: L -/
theorem translateEgress_nextHop {N : Net ι} {getPaths : GetPaths} {cache : PathCache}
    (hok : RoutersOk N cache) (hdaemon : DaemonOk N getPaths) {pkt : IPv6Packet}
    {hostIp : IPAddress} {hostPort : ℕ} {scion : SCION} {nextHop : NextHop}
    (h : (translateEgress getPaths (.ipv6 pkt) hostIp hostPort cache).1
      = .ok (some (scion, nextHop))) :
    (∃ dst, IPv6Address.parse pkt.dst = .ok dst ∧
      nextHop = .host (dstHost dst (unmapped dst 8).interface) hostPort) ∨
    (∃ addr, nextHop = .router addr ∧
      ∀ ip scopeId port, addr = .addr (.v6 ip) scopeId port → N.router ip.packed) := by
  obtain ⟨dst, path, l4, hdst, hnet, hl4, hfound, -⟩ := translateEgress_inversion h
  rw [translateEgress_of_path hdst hnet hfound, egressPacket_eq hl4] at h
  obtain ⟨-, rfl⟩ := Prod.mk.inj (Option.some.inj (Except.ok.inj h))
  have hrouter : ViaRouter N path := PathCache.Holds.found hok hdaemon hfound
  rcases path with ⟨_ | raw, addr⟩
  · exact .inl ⟨dst, hdst, rfl⟩
  · exact .inr ⟨addr, rfl, hrouter⟩

/-- A sixteen-byte destination is the address itself. Kind: L -/
theorem dstHost_eq_v6 {dst ip : IPv6Address} {interface : Interface}
    (h : dstHost dst interface = .v6 ip) : ip = dst := by
  cases interface with
  | ipv4 host => cases h
  | iid id => exact (IPAddress.v6.inj h).symm

/-- **What a Python translator sends.** Kind: L -/
theorem carries_of_python {N : Net ι} {i : ι} {hostPort localIa : ℕ}
    (hrun : N.runs i = .python hostPort localIa) {cache cache' : PathCache}
    (hok : RoutersOk N cache) {calls : TurnCalls} (hdaemon : DaemonOk N calls.getPaths)
    {f : Bytes} {raws : List Bytes}
    (hturn : tunTurn N.scapy N.build calls (.v6 (N.addr i)) hostPort f cache = (.ok raws, cache'))
    {ms : List Frame} (hsends : SendsOut N i hostPort calls f cache raws ms) {q : Frame}
    (hq : q ∈ ms) (hsize : 2048 < (q.drop 62).length → Oversized N (i, f)) :
    Carries N (i, f) q := by
  obtain ⟨raw, hraw, scion, dest, ip, scopeId, port, hscion, hdest, hencaps⟩ := hsends.2 q hq
  obtain ⟨pkt, dst, path, l4, hread, hdst, -, hl4, -, hbuild⟩ :=
    (tunTurn_inversion hturn).2 raw hraw
  obtain ⟨pkt', hread', htranslate⟩ := egressTurn_inversion hscion
  obtain rfl : pkt = pkt' := Except.ok.inj (hread.2.symm.trans hread'.2)
  have hnext := translateEgress_nextHop hok hdaemon htranslate
  have hkind := N.wire.kinds _ raw hbuild rfl rfl
  have hbyte : byteAt q 71 = byteAt raw 9 := by
    rw [← hencaps.datagram]
    simp [byteAt, List.getD_eq_getElem?_getD, List.getElem?_drop]
  -- the address it was sent to
  have hto : N.router (ipDaddr q) ∨
      ipDaddr q = dst.packed ∧ dstHost dst (unmapped dst 8).interface = .v6 dst := by
    rcases hnext with ⟨dst', hdst', rfl⟩ | ⟨addr, rfl, hrouter⟩
    · obtain rfl := Except.ok.inj (hdst.symm.trans hdst')
      have hhost : dstHost dst (unmapped dst 8).interface = .v6 ip :=
        (Prod.mk.inj (Except.ok.inj hdest)).1
      obtain rfl := dstHost_eq_v6 hhost
      exact .inr ⟨hencaps.daddr, hhost⟩
    · cases addr with
      | empty => cases hdest
      | addr ip' scopeId' port' =>
        obtain ⟨rfl, -⟩ := Prod.mk.inj (Except.ok.inj hdest)
        rw [hencaps.daddr]
        exact .inl (hrouter _ _ _ rfl)
  by_cases hsixteen : byteAt raw 9 = 0x33
  · obtain ⟨d, rfl, hexact, hdstHost, hsrcHost, hsegment⟩ := N.wire.scionBytes _ _ hbuild hsixteen
    have hhost : dstHost dst (unmapped dst 8).interface = .v6 dst := by
      have hDL := (hkind.mp hsixteen).1
      cases hiface : (unmapped dst 8).interface with
      | ipv4 host =>
        rw [hiface] at hDL
        exact absurd hDL (show 4 ≠ 16 by norm_num)
      | iid id => rfl
    have haddr : address d.dstHost = dst := by
      have hparse : IPv6Address.parse dst.str = .ok (address d.dstHost) := by
        rw [hhost] at hdstHost
        exact hdstHost
      rw [IPv6Address.parse_str] at hparse
      exact (Except.ok.inj hparse).symm
    have hsrc : address d.srcHost = N.addr i := by
      have hparse : IPv6Address.parse (N.addr i).str = .ok (address d.srcHost) := hsrcHost
      rw [IPv6Address.parse_str] at hparse
      exact (Except.ok.inj hparse).symm
    refine .inl ⟨d, ⟨hencaps.ipv6, hencaps.nexthdr, hencaps.datagram⟩, ?_, hto.imp_right ?_,
      by rwa [hencaps.datagram] at hsize⟩
    · unfold IsFor
      rw [hrun]
      refine ⟨hexact, address_eq_iff.mp hsrc, pkt, hread, ?_, fun hseg => ?_⟩
      · rw [Denotes, haddr]
        exact hdst
      · have hsame : l4 = pkt.payload := by
          have hnh : pkt.nh = 6 ∨ pkt.nh = 17 := by
            generalize pkt.nh = nh at hseg
            generalize pkt.payload = payload at hseg
            cases hseg
            · exact .inl rfl
            · exact .inr rfl
          rw [egressL4, if_pos hnh] at hl4
          exact (Option.some.inj (Except.ok.inj hl4)).symm
        subst hsame
        exact hsegment pkt.nh hseg
    · rintro ⟨hdaddr, -⟩
      rw [hdaddr]
      exact (address_eq_iff.mp haddr).symm
  · refine .inr ⟨by rwa [hbyte], hto.resolve_right ?_⟩
    rintro ⟨-, hhost⟩
    exact hsixteen (hkind.mpr ⟨congrArg hostLen hhost, rfl⟩)

/-! ### Receiving -/

/-- What host `i` hands its translator as `a`: the addresses, the next header and the upper-layer
object. A Python translator puts the address of its host in place of the source. Kind: D -/
def Sends (N : Net ι) (i : ι) (a : Bytes) (src dst : IPv6Address) (nh : UInt8) (l4 : L4) : Prop :=
  match N.runs i with
  | .kernel _ => ipSaddr a = src.packed ∧ ipDaddr a = dst.packed ∧ ipNexthdr a = nh ∧
      N.layer nh (a.drop 54) = l4
  | .python _ _ => src = N.addr i ∧ ∃ pkt, ReadAs N.scapy a pkt ∧
      IPv6Address.parse pkt.dst = .ok dst ∧ pkt.nh = nh ∧ pkt.payload = l4

/-- What host `j` gets from its translator as `b`: a frame for its stack, or a buffer written to its
TUN device. Kind: D -/
def Gets (N : Net ι) (j : ι) (b : Bytes) (src dst : IPv6Address) (nh : UInt8) (l4 : L4) : Prop :=
  match N.runs j with
  | .kernel _ => ipSaddr b = src.packed ∧ ipDaddr b = dst.packed ∧ ipNexthdr b = nh ∧
      N.layer nh (b.drop 54) = l4
  | .python _ _ => ∃ out raw, N.build.ipv6Bytes out = .ok raw ∧ b = tunBuffer raw ∧
      IPv6Address.parse out.src = .ok src ∧ IPv6Address.parse out.dst = .ok dst ∧ out.nh = nh ∧
      out.payload = l4

/-- The IPv6 header announces the length of the payload; what was dissected does. Kind: D -/
def ExactFrame (N : Net ι) (x : ι × Bytes) : Prop :=
  match N.runs x.1 with
  | .kernel _ => ofBE (peek x.2 18 2) = (x.2.drop 54).length
  | .python _ _ => True

/-- Host `j` gets the packet whole: the programs in the kernel take a packet of any size. Kind: D -/
def Fits (N : Net ι) (x : ι × Bytes) (j : ι) : Prop :=
  match N.runs j with
  | .kernel _ => True
  | .python _ _ => ¬ Oversized N x

/-- **What host `j` gets, explained by what host `i` sent**: a packet for the address of `j`, under
the same source; and the same TCP or UDP segment, up to its checksum. Kind: D -/
def Explains (N : Net ι) (x y : ι × Bytes) : Prop :=
  ∃ src nh l4 nh' l4', Sends N x.1 x.2 src (N.addr y.1) nh l4 ∧
    Gets N y.1 y.2 src (N.addr y.1) nh' l4' ∧
    (IsSegment nh l4 → nh' = nh ∧ l4'.recomputed = l4.recomputed)

/-- **What the packet underway tells of what was sent.** Kind: L -/
theorem IsFor.sends {N : Net ι} {x : ι × Bytes} {d : ScionDatagram} (h : IsFor N x d)
    (hexact : ExactFrame N x) :
    d.Exact ∧ ∃ nh l4, Sends N x.1 x.2 (address d.srcHost) (address d.dstHost) nh l4 ∧
      (IsSegment nh l4 → d.next = nh ∧ (N.layer nh d.payload).recomputed = l4.recomputed) := by
  unfold IsFor at h
  unfold ExactFrame at hexact
  unfold Sends
  cases hrun : N.runs x.1 with
  | kernel e =>
    simp only [hrun] at h hexact ⊢
    obtain ⟨hnext, hlen, hdst, hsrc, hpayload⟩ := h
    refine ⟨?_, _, _, ⟨?_, ?_, rfl, rfl⟩, fun _ => ⟨hnext, ?_⟩⟩
    · rw [ScionDatagram.Exact, hlen, hpayload, hexact]
    · rw [packed_address, hsrc]
    · rw [packed_address, hdst]
    · rw [hpayload]
  | python hostPort localIa =>
    simp only [hrun] at h ⊢
    obtain ⟨hd, hsrc, pkt, hread, hdst, hsegment⟩ := h
    exact ⟨hd, _, _, ⟨address_eq_iff.mpr hsrc, pkt, hread, hdst, rfl, rfl⟩, hsegment⟩

/-- A frame that reaches a host carries a packet for it. Kind: L -/
theorem Carries.arrived {N : Net ι} {x : ι × Bytes} {q : Frame} (h : Carries N x q) {j : ι}
    (hdst : ipDaddr q = (N.addr j).packed) :
    ∃ d, InFrame d q ∧ IsFor N x d ∧ address d.dstHost = N.addr j ∧
      (2048 < d.bytes.length → Oversized N x) := by
  rcases h with ⟨d, hd, hfor, hrouter | hhost, hsize⟩ | ⟨-, hrouter⟩
  · exact absurd (hdst ▸ hrouter) (N.apart j)
  · exact ⟨d, hd, hfor, address_eq_iff.mpr (hhost.symm.trans hdst), hsize⟩
  · exact absurd (hdst ▸ hrouter) (N.apart j)

/-- An address in `fc00::/8` passes the test of the program in the kernel. Kind: L -/
theorem scionPrefixMatch_packed {ip : IPv6Address} (h : SCION_NETWORK ip = true) :
    scionPrefixMatch ip.packed = true := by
  have hlt := ip.ip_lt
  have hfield := ofBE_peek ip.packed 0 5 11 (by simp)
  rw [ip.ofBE_packed, bitField] at hfield
  rw [Ebpf.scionPrefixMatch_iff ip.length_packed, hfield]
  rw [SCION_NETWORK_iff] at h
  omega

/-- **What the programs in the kernel make of a packet that arrives.** Kind: L -/
theorem gets_of_kernel {N : Net ι} {j : ι} {e : Endian} (hrun : N.runs j = .kernel e)
    {d : ScionDatagram} {q : Frame} (hd : InFrame d q) (hdst : ipDaddr q = (N.addr j).packed)
    (hhost : address d.dstHost = N.addr j) {x : XdpHelpers}
    (hpass : (scionIngress e x q).verdict = .XDP_PASS) :
    Gets N j (scionIngress e x q).frame (address d.srcHost) (N.addr j) d.next
      (N.layer d.next d.payload) := by
  have hmatch : scionPrefixMatch (ipDaddr q) = true := by
    rw [hdst]
    exact scionPrefixMatch_packed (N.inNetwork j)
  obtain ⟨-, hsaddr, hdaddr, hnext, -, hpayload⟩ := hd.ingress hmatch e x hpass
  unfold Gets
  simp only [hrun]
  refine ⟨?_, ?_, hnext, ?_⟩
  · rw [hsaddr, packed_address]
  · rw [hdaddr, ← hhost, packed_address]
  · rw [hpayload]

/-- **What a Python translator makes of it.** Kind: L -/
theorem gets_of_python {N : Net ι} {j : ι} {hostPort localIa : ℕ}
    (hrun : N.runs j = .python hostPort localIa) {d : ScionDatagram} {q : Frame}
    (hd : InFrame d q) (hexact : d.Exact) (hlen : (q.drop 62).length ≤ 2048) {calls : TurnCalls}
    {bs : List Bytes} (hturn : udpTurn N.build calls (N.addr j) (q.drop 62) = .ok bs) {b : Bytes}
    (hb : b ∈ bs) :
    ∃ l4, Gets N j b (address d.srcHost) (N.addr j) (nhOf l4) l4 ∧
      ingressL4 (N.layer d.next d.payload) = .ok (some l4) := by
  obtain ⟨packet, out, raw, hpacket, hout, hraw, rfl⟩ := (udpTurn_inversion hturn).2 b hb
  rw [List.take_of_length_le hlen, hd.scion] at hpacket
  obtain ⟨pkt, rfl, hDT, hDL, hST, hSL, hdst, hsrc, hpayload⟩ :=
    N.wire.scion d packet hexact hpacket
  obtain ⟨src, l4, hsource, hl4, rfl⟩ := translateIngress_inversion hout
  have hsame : src = address d.srcHost := by
    rcases srcAddr_inversion hsource with ⟨hfour, -⟩ | ⟨-, hparse, -⟩
    · rw [hSL] at hfour
      exact absurd hfour (by norm_num)
    · exact Except.ok.inj (hparse.symm.trans hsrc)
  rw [hpayload] at hl4
  refine ⟨l4, ?_, hl4⟩
  unfold Gets
  simp only [hrun]
  exact ⟨_, raw, hraw, rfl, by rw [hsame]; exact IPv6Address.parse_str _, IPv6Address.parse_str _,
    rfl, rfl⟩

/-- What is delivered of a segment is that segment. Kind: L -/
theorem segment_of_ingress {nh : UInt8} {l4 arrived out : L4} (hseg : IsSegment nh l4)
    (hsame : arrived.recomputed = l4.recomputed) (hout : ingressL4 arrived = .ok (some out)) :
    nhOf out = nh ∧ out.recomputed = l4.recomputed := by
  rw [← ingressL4_recomputed, hsame] at hout
  cases hseg <;> obtain rfl := Option.some.inj (Except.ok.inj hout) <;> exact ⟨rfl, rfl⟩

/-- **What arrives explains what is delivered.** Kind: L -/
theorem Carries.receive {N : Net ι} {x : ι × Bytes} {q : Frame} (h : Carries N x q) {j : ι}
    {c c' : HostState} {bs : List Bytes} (hstep : (hosts N).receive j q c c' bs) {b : Bytes}
    (hb : b ∈ bs) (hexactFrame : ExactFrame N x) (hfits : Fits N x j) : Explains N x (j, b) := by
  obtain ⟨hdst, hstep⟩ := hstep
  obtain ⟨d, hd, hfor, hhost, hsize⟩ := h.arrived hdst
  obtain ⟨hexact, nh, l4, hsends, hsegment⟩ := hfor.sends hexactFrame
  rw [hhost] at hsends
  cases hrun : N.runs j with
  | kernel e =>
    simp only [hrun] at hstep
    obtain ⟨-, helpers, rfl⟩ := hstep
    split_ifs at hb with hpass
    · obtain rfl := List.mem_singleton.mp hb
      refine ⟨_, nh, l4, _, _, hsends, gets_of_kernel hrun hd hdst hhost hpass, fun hseg => ?_⟩
      obtain ⟨hnext, hsame⟩ := hsegment hseg
      exact ⟨hnext, hnext.symm ▸ hsame⟩
    · cases hb
  | python hostPort localIa =>
    simp only [hrun] at hstep
    unfold Fits at hfits
    simp only [hrun] at hfits
    have hlen : (q.drop 62).length ≤ 2048 := by
      rw [hd.scion]
      exact not_lt.mp fun hlong => hfits (hsize hlong)
    obtain ⟨cache, calls, r, -, hturn, ⟨rfl, -⟩ | ⟨-, -, rfl⟩⟩ := hstep
    · obtain ⟨out, hgets, hout⟩ := gets_of_python hrun hd hexact hlen hturn hb
      refine ⟨_, nh, l4, _, _, hsends, hgets, fun hseg => ?_⟩
      obtain ⟨hnext, hsame⟩ := hsegment hseg
      rw [hnext] at hout
      exact segment_of_ingress hseg hsame hout
    · cases hb

/-! ## Whole runs -/

/-- A host starts with its invariant. Kind: L -/
theorem hostOk_of_initially {N : Net ι} {i : ι} {c : HostState} (h : (hosts N).initially i c) :
    HostOk N i c := by
  unfold HostOk
  cases hrun : N.runs i with
  | kernel e =>
    simp only [hosts, hrun] at h
    exact ⟨_, h, fun _ _ hentry => by simp at hentry, fun _ _ hentry => by simp at hentry⟩
  | python hostPort localIa =>
    simp only [hosts, hrun] at h
    rintro cache rfl ia paths hpaths
    obtain rfl := Option.some.inj (HostState.python.inj h)
    cases hpaths

/-- The path service keeps it. Kind: L -/
theorem HostOk.own {N : Net ι} {i : ι} {c c' : HostState} (hgood : HostOk N i c)
    (h : (hosts N).own i c c') : HostOk N i c' := by
  unfold HostOk at hgood ⊢
  cases hrun : N.runs i with
  | kernel e =>
    simp only [hosts, hrun] at h hgood
    obtain ⟨maps, key, pending, queryPaths, updateRet, rfl, -, hdaemon, -, rfl⟩ := h
    obtain ⟨_, hmaps, hok⟩ := hgood
    obtain rfl := HostState.kernel.inj hmaps
    have hend : N.topology.endian i = e := by simp [Net.topology, hrun]
    exact ⟨_, rfl, hend ▸ hok.reqHandler hdaemon updateRet key pending⟩
  | python hostPort localIa =>
    simp only [hosts, hrun] at h

/-- **A host that is handed something keeps its invariant, and what it sends carries that.**
Kind: L -/
theorem HostOk.submit {N : Net ι} {i : ι} {f : Bytes} {c c' : HostState} {ms : List Frame}
    (hgood : HostOk N i c) (h : (hosts N).submit i f c c' ms) :
    HostOk N i c' ∧ ∀ q ∈ ms, Carries N (i, f) q := by
  have hsize : ∀ q ∈ ms, 2048 < (q.drop 62).length → Oversized N (i, f) :=
    fun q hq hlong => ⟨c, c', ms, h, q, hq, hlong⟩
  unfold HostOk at hgood ⊢
  cases hrun : N.runs i with
  | kernel e =>
    simp only [hosts, hrun] at h hgood ⊢
    obtain ⟨maps, helpers, pushed, rfl, rfl, rfl⟩ := h
    obtain ⟨_, hmaps, hok⟩ := hgood
    obtain rfl := HostState.kernel.inj hmaps
    refine ⟨⟨_, rfl, hok.cache, hok.routed⟩, fun q hq => ?_⟩
    have hsizeQ := hsize q hq
    split_ifs at hq with hsent
    · rw [List.mem_singleton.mp hq] at hsizeQ ⊢
      exact carries_of_kernel hrun hok helpers hsent.1 hsent.2 hsizeQ
    · cases hq
  | python hostPort localIa =>
    simp only [hosts, hrun] at h hgood ⊢
    obtain ⟨cache, calls, r, cache', rfl, hdaemon, hturn, hend⟩ := h
    have hok := hgood cache rfl
    have hkept := tunTurn_holds N.scapy N.build hok hdaemon (.v6 (N.addr i)) hostPort f
    rw [hturn] at hkept
    rcases hend with ⟨raws, rfl, rfl, hsends⟩ | ⟨-, rfl, rfl⟩
    · refine ⟨?_, fun q hq =>
        carries_of_python hrun hok hdaemon hturn hsends hq (hsize q hq)⟩
      rintro _ hcache
      obtain rfl := Option.some.inj (HostState.python.inj hcache)
      exact hkept
    · exact ⟨fun _ hcache => (by cases hcache), fun q hq => (by cases hq)⟩

/-- A host that gets a frame keeps its invariant. Kind: L -/
theorem HostOk.receive {N : Net ι} {j : ι} {q : Frame} {c c' : HostState} {bs : List Bytes}
    (hgood : HostOk N j c) (h : (hosts N).receive j q c c' bs) : HostOk N j c' := by
  obtain ⟨-, h⟩ := h
  cases hrun : N.runs j with
  | kernel e =>
    simp only [hrun] at h
    obtain ⟨rfl, -⟩ := h
    exact hgood
  | python hostPort localIa =>
    simp only [hrun] at h
    obtain ⟨cache, calls, r, -, -, ⟨-, rfl⟩ | ⟨-, rfl, -⟩⟩ := h
    · exact hgood
    · unfold HostOk
      simp only [hrun]
      exact fun _ hcache => by cases hcache

/-- **The hosts and routers account for every frame.** Kind: P -/
theorem hosts_explained (N : Net ι) :
    Explained (hosts N) (HostOk N) (Carries N)
      (fun x y => ExactFrame N x → Fits N x y.1 → Explains N x y) where
  initially _ _ h := hostOk_of_initially h
  own _ _ _ hgood h := hgood.own h
  submit _ _ _ _ _ hgood h := hgood.submit h
  hop _ _ _ hcarries hhop := hcarries.hop hhop
  receive _ _ _ _ _ _ hgood hcarries h :=
    ⟨hgood.receive h, fun _ hb => hcarries.receive h hb⟩

/-- A host makes at most one frame or buffer of one. Kind: L -/
theorem hosts_single {N : Net ι} (hd : ¬ N.duplicates) : Single (hosts N) where
  submit i f c c' ms h := by
    cases hrun : N.runs i with
    | kernel e =>
      simp only [hosts, hrun] at h
      obtain ⟨maps, helpers, pushed, -, -, rfl⟩ := h
      split_ifs <;> simp
    | python hostPort localIa =>
      simp only [hosts, hrun] at h
      obtain ⟨cache, calls, r, cache', -, -, hturn, ⟨raws, rfl, -, hsends⟩ | ⟨-, -, rfl⟩⟩ := h
      · exact hsends.1.trans (tunTurn_inversion hturn).1
      · exact Nat.zero_le 1
  receive j q c c' bs h := by
    obtain ⟨-, h⟩ := h
    cases hrun : N.runs j with
    | kernel e =>
      simp only [hrun] at h
      obtain ⟨-, helpers, rfl⟩ := h
      split_ifs <;> simp
    | python hostPort localIa =>
      simp only [hrun] at h
      obtain ⟨cache, calls, r, -, hturn, ⟨rfl, -⟩ | ⟨-, -, rfl⟩⟩ := h
      · exact (udpTurn_inversion hturn).1
      · exact Nat.zero_le 1
  once := hd

/-! ## A sample network -/

/-- Two hosts in `1-64512`: the first runs the Python translator, the second the programs in the
kernel. Kind: D -/
def pairAddr (i : Bool) : IPv6Address :=
  if i then ⟨0xfc0010fc000000000000000000000012, by norm_num⟩
  else ⟨0xfc0010fc000000000000000000000011, by norm_num⟩

/-- The buffer of a UDP datagram from the first to the second. Kind: D -/
def pairBuffer : Bytes :=
  [0, 0, 0x86, 0xdd, 0x60, 0, 0, 0, 0, 10, 17, 64] ++ (pairAddr false).packed ++
    (pairAddr true).packed ++ [0x03, 0xe8, 0x07, 0xd0, 0, 10, 0xfb, 0x57, 0xde, 0xad]

/-- The SCION packet it is sent as, on the empty path. Kind: D -/
def pairDatagram : ScionDatagram where
  verQosFlow := ⟨[0, 0, 0, 1], rfl⟩
  next := 17
  payloadLen := ⟨[0, 10], rfl⟩
  type := 0
  dst := 0x000100000000fc00
  src := 0x000100000000fc00
  dstHost := ⟨(pairAddr true).packed, by simp⟩
  srcHost := ⟨(pairAddr false).packed, by simp⟩
  path := []
  payload := [0x03, 0xe8, 0x07, 0xd0, 0, 10, 0xfb, 0x57, 0xde, 0xad]
  words := rfl
  size := by simp

/-- It announces the length of its payload. Kind: L -/
theorem pairDatagram_exact : pairDatagram.Exact := by
  unfold ScionDatagram.Exact
  decide +kernel

/-- The same as an object. Kind: D -/
def pairScion : SCION :=
  ⟨0, 16, 0, 16, 1, 64512, 1, 64512, (pairAddr true).str, (pairAddr false).str, .empty,
    .udp (Prototype.sampleSegment 6 [0x03, 0xe8, 0x07, 0xd0, 0, 10, 0xfb, 0x57, 0xde, 0xad])⟩

/-- It in a UDP datagram to the second host. Kind: D -/
def pairFrame : Frame :=
  List.replicate 12 0 ++ [0x86, 0xdd, 0x60, 0, 0, 0, 0, 78, 17, 64] ++ (pairAddr false).packed ++
    (pairAddr true).packed ++ [0x75, 0x59, 0x75, 0x59, 0, 78, 0xf1, 0x4c] ++ pairDatagram.bytes

/-- `scapy` on this packet. Kind: D -/
def pairBuild : ScapyBuild where
  scionBytes pkt :=
    if pkt = pairScion then .ok pairDatagram.bytes else .error (.Exception "not the sample packet")
  scion raw :=
    if raw = pairDatagram.bytes then .ok (.scion { pairScion with
      payload := Prototype.samplePayload 17 pairDatagram.payload })
    else .error (.Exception "not the sample packet")
  ipv6Bytes _ := .error (.Exception "not the sample packet")

/-- The frame carries the packet, and no other with the same bytes. Kind: L -/
theorem inFrame_pairFrame {d : ScionDatagram} (h : d.bytes = pairDatagram.bytes) :
    InFrame d pairFrame := ⟨by decide +kernel, by decide +kernel, h ▸ by decide +kernel⟩

/-- It behaves as documented. Kind: L -/
theorem pairBuild_wire : ScapyWire pairBuild Prototype.samplePayload where
  kinds pkt raw hraw _ _ := by
    simp only [pairBuild] at hraw
    split_ifs at hraw with hpkt
    obtain rfl := Except.ok.inj hraw
    subst hpkt
    exact iff_of_true (by decide +kernel) ⟨rfl, rfl⟩
  scionBytes pkt raw hraw _ := by
    simp only [pairBuild] at hraw
    split_ifs at hraw with hpkt
    obtain rfl := Except.ok.inj hraw
    subst hpkt
    refine ⟨pairDatagram, rfl, pairDatagram_exact, denotes_str (by simp [pairDatagram]),
      denotes_str (by simp [pairDatagram]), fun nh hseg => ?_⟩
    cases hseg
    exact ⟨rfl, by decide +kernel⟩
  scion d packet _ hpacket := by
    simp only [pairBuild] at hpacket
    split_ifs at hpacket with hbytes
    obtain rfl := Except.ok.inj hpacket
    have hframe := inFrame_pairFrame hbytes
    have hsample := inFrame_pairFrame rfl
    obtain ⟨hnext, hlen, -, -, hdst, hsrc⟩ := hframe.fields
    obtain ⟨hnext', hlen', -, -, hdst', hsrc'⟩ := hsample.fields
    have hpath : d.path.length = pairDatagram.path.length := by
      have hd := d.toNat_hdrLen
      rw [← hlen, hlen', pairDatagram.toNat_hdrLen] at hd
      omega
    have hpayload : d.payload = pairDatagram.payload := by
      rw [← hframe.tail.2, hpath, hsample.tail.2]
    refine ⟨_, rfl, rfl, rfl, rfl, rfl, denotes_str ?_, denotes_str ?_, ?_⟩
    · rw [← hdst, hdst']
      simp [pairDatagram]
    · rw [← hsrc, hsrc']
      simp [pairDatagram]
    · rw [hpayload, ← hnext, hnext']
      rfl

/-- The two hosts and a border router. Kind: D -/
def pairNet : Net Bool where
  runs i := if i then .kernel .little else .python 30041 0x000100000000fc00
  addr := pairAddr
  inNetwork := by decide +kernel
  router a := a = Ebpf.sampleNextHop.getIPv6.toList
  apart i := by cases i <;> decide +kernel
  scapy := Prototype.sampleScapy
  build := pairBuild
  layer := Prototype.samplePayload
  wire := pairBuild_wire
  duplicates := False

/-- Before anything is sent. Kind: D -/
def pairStart : NetworkState Bool HostState Frame Bytes Bytes :=
  ⟨fun i => if i then .kernel ⟨fun _ => none, []⟩
    else .python (some (newPathCache 0x000100000000fc00)), [], [], []⟩

/-- With the frame underway. Kind: D -/
def pairSent (cache : PathCache) : NetworkState Bool HostState Frame Bytes Bytes :=
  { pairStart.setParty false (.python (some cache)) with
    wire := [((false, pairBuffer), pairFrame)]
    submitted := [(false, pairBuffer)] }

/-- **Hosts with different translators understand each other, whatever the interleaving**: each
delivery goes back to what a host was handed and is explained by it, if that announces its length
and the receiver does not cut it; and on a network that does not duplicate, different deliveries go
back to different ones. Kind: P -/
theorem translators_interoperate [DecidableEq ι] {N : Net ι}
    {s : NetworkState ι HostState Frame Bytes Bytes} (hs : (network (hosts N)).Reachable s) :
    (∀ d ∈ s.delivered, d.1 ∈ s.submitted ∧
        (ExactFrame N d.1 → Fits N d.1 d.2.1 → Explains N d.1 d.2)) ∧
      (¬ N.duplicates → labels s.delivered ≤ ↑s.submitted) := by
  refine ⟨((hosts_explained N).reachable hs).delivered, fun hd => ?_⟩
  exact (hosts_single hd).submissions_le hs

/-- A run in which the datagram of the Python translator gets through the programs in the kernel.
Kind: C -/
theorem translators_interoperate_sample :
    ∃ s, (network (hosts pairNet)).Reachable s ∧
      ∃ b, ((false, pairBuffer), true, b) ∈ s.delivered ∧
        Explains pairNet (false, pairBuffer) (true, b) := by
  have hstart : (network (hosts pairNet)).Reachable pairStart :=
    .init ⟨fun i => by cases i <;> rfl, rfl, rfl, rfl⟩
  have hscion : (egressTurn Prototype.sampleScapy Prototype.sampleGetPaths (.v6 (pairAddr false))
      30041 pairBuffer (newPathCache 0x000100000000fc00)).1
        = .ok (some (pairScion, .host (.v6 (pairAddr true)) 30041)) := by decide +kernel
  have hsent : (tunTurn Prototype.sampleScapy pairBuild Prototype.echoCalls (.v6 (pairAddr false))
      30041 pairBuffer (newPathCache 0x000100000000fc00)).1 = .ok [pairDatagram.bytes] := by
    decide +kernel
  rcases hturn : tunTurn Prototype.sampleScapy pairBuild Prototype.echoCalls (.v6 (pairAddr false))
    30041 pairBuffer (newPathCache 0x000100000000fc00) with ⟨r, cache⟩
  rw [hturn] at hsent
  obtain rfl : r = .ok [pairDatagram.bytes] := hsent
  have hout : SendsOut pairNet false 30041 Prototype.echoCalls pairBuffer
      (newPathCache 0x000100000000fc00) [pairDatagram.bytes] [pairFrame] := by
    refine ⟨le_refl 1, fun q hq =>
      ⟨_, List.mem_cons_self, _, _, pairAddr true, none, 30041, hscion, rfl, ?_⟩⟩
    obtain rfl := List.mem_singleton.mp hq
    have hframe := inFrame_pairFrame rfl
    exact ⟨hframe.ipv6, hframe.nexthdr, by decide +kernel, hframe.scion⟩
  have hdaemon : DaemonOk pairNet Prototype.echoCalls.getPaths := by
    intro ia answer hanswer path hpath router hsplit ip scopeId port haddr
    obtain rfl := Except.ok.inj hanswer
    obtain rfl := List.mem_singleton.mp hpath
    obtain rfl : RouterAddr.empty = router := Except.ok.inj hsplit
    cases haddr
  have hsend : NetworkStep (hosts pairNet) pairStart (pairSent cache) :=
    NetworkStep.submit (P := hosts pairNet) pairStart false pairBuffer _ _
      ⟨_, Prototype.echoCalls, _, cache, rfl, hdaemon, hturn, Or.inl ⟨_, rfl, rfl, hout⟩⟩
  have hrecv := NetworkStep.receive (P := hosts pairNet) (pairSent cache) [] []
    (false, pairBuffer) pairFrame true _ _ rfl ⟨by decide +kernel, rfl, ⟨fun _ _ => 0⟩, rfl⟩
  have hend := (hstart.step hsend).step hrecv
  have hpass : (scionIngress .little ⟨fun _ _ => 0⟩ pairFrame).verdict = .XDP_PASS := by
    decide +kernel
  rw [if_pos hpass] at hend
  obtain ⟨hall, -⟩ := translators_interoperate hend
  exact ⟨_, hend, _, List.mem_cons_self, (hall _ List.mem_cons_self).2 trivial trivial⟩

end ScionIp.Mixed
