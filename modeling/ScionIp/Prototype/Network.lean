import ScionIp.Lib.Network
import ScionIp.Prototype.EgressErrors
import ScionIp.Prototype.LookupRuns
import ScionIp.Prototype.SourceIdentity

/-!
# Instances of the Python translator on a network

`run_translation` waits for a frame of the TUN device or a datagram on the UDP socket, translates
what came, and writes it to the other side. Here several instances run on one network, each with its
own address, cache and daemon; an exception ends the instance it is raised in.

* `tunTurn`, `udpTurn` — one turn of the loop, for either event, with `TunInterface.write` and the
  comparison of address families before a datagram is sent.
* `instances` — the instances as parties of a network.
* `ScapyBuild.Documented` — what is relied on of `scapy`: building and dissecting of packets is not
  part of the repository. Nothing is relied on for paths that no daemon returns.
* `instances_explained` — an instance writes to its TUN device only what some instance read from
  its own, under the TUN addresses of the two, and with the payload it was read with. A datagram
  longer than the buffer of `recvfrom` is cut, and nothing is said of what comes of it.
-/

namespace ScionIp.Prototype

open ScionIp.Lib ScionIp.Python

/-! ## One turn of the loop -/

/-- `IPAddress.version`. Kind: D -/
def ipVersion : IPAddress → ℕ
  | .v4 _ => 4
  | .v6 _ => 6

/-- `bytes(pkt)` of a SCION and of an IPv6 packet, and the constructor `SCION(raw)`. Kind: D -/
structure ScapyBuild where
  scionBytes : SCION → Py Bytes
  scion : Bytes → Py Received
  ipv6Bytes : IPv6Packet → Py Bytes

/-- What the calls of one turn return: the daemon, the socket and the TUN device. Kind: D -/
structure TurnCalls where
  getPaths : GetPaths
  sendto : Bytes → Text × ℤ → Py ℕ
  write : Bytes → Py ℕ

/-- `dest[0]`, with its zone, and `dest[1]`, where `dest[0]` has to have a version: for the pair
`("", 0)` it has none. Source: `scitun.py`, `run_translation`. Kind: D -/
def NextHop.destination : NextHop → Py (IPAddress × Option Text × ℤ)
  | .host ip port => .ok (ip, none, port)
  | .router (.addr ip scopeId port) => .ok (ip, scopeId, port)
  | .router .empty => .error (.AttributeError "version")

/-- `str(dest[0])`: the address, and its zone behind a percent sign.
Source: `scitun.py`, `run_translation`. Kind: D -/
def scopedStr (ip : IPAddress) (scopeId : Option Text) : Text :=
  ip.str ++ (scopeId.map ('%' :: ·)).getD []

/-- A packet is sent if its destination is of the host's address family.
Source: `scitun.py`, `run_translation`. Kind: D -/
def sendDatagram (build : ScapyBuild) (calls : TurnCalls) (hostIp : IPAddress) (pkt : SCION)
    (dest : NextHop) : Py (List Bytes) := do
  let (ip, scopeId, port) ← dest.destination
  if ipVersion ip = ipVersion hostIp then
    let raw ← build.scionBytes pkt
    let _ ← calls.sendto raw (scopedStr ip scopeId, port)
    return [raw]
  else return []

/-- The branch `tun` of the loop, with the datagrams sent.
Source: `scitun.py`, `run_translation`. Kind: D -/
def tunTurn (scapy : Scapy) (build : ScapyBuild) (calls : TurnCalls) (hostIp : IPAddress)
    (hostPort : ℕ) (frame : Bytes) (cache : PathCache) : Py (List Bytes) × PathCache :=
  match egressTurn scapy calls.getPaths hostIp hostPort frame cache with
  | (.error exc, cache) => (.error exc, cache)
  | (.ok none, cache) => (.ok [], cache)
  | (.ok (some (pkt, dest)), cache) => (sendDatagram build calls hostIp pkt dest, cache)

/-- The bytes written for an IPv6 packet. Source: `scitun.py`, `TunInterface.write`. Kind: D -/
def tunBuffer (raw : Bytes) : Bytes := toBE 2 0 ++ toBE 2 ETH_P_IPv6 ++ raw

/-- The branch `udp` of the loop, with the frames written.
Source: `scitun.py`, `run_translation`. Kind: D -/
def udpTurn (build : ScapyBuild) (calls : TurnCalls) (tunIp : IPv6Address) (datagram : Bytes) :
    Py (List Bytes) := do
  let packet ← build.scion (datagram.take 2048)
  match ← translateIngress packet tunIp with
  | none => return []
  | some pkt =>
      let raw ← build.ipv6Bytes pkt
      let _ ← calls.write (tunBuffer raw)
      return [tunBuffer raw]

/-! ## What a turn does -/

/-- The cache after a packet: as it was, or after one lookup. Kind: L -/
theorem translateEgress_cache (getPaths : GetPaths) (pkt : TunPacket) (hostIp : IPAddress)
    (hostPort : ℕ) (cache : PathCache) :
    (translateEgress getPaths pkt hostIp hostPort cache).2 = cache ∨
      ∃ ia, (translateEgress getPaths pkt hostIp hostPort cache).2
        = (cache.lookup getPaths ia).2 := by
  cases pkt with
  | none => exact .inl rfl
  | ip => exact .inl rfl
  | ipv6 pkt =>
    rw [translateEgress]
    cases IPv6Address.parse pkt.dst with
    | error exc => exact .inl rfl
    | ok ip =>
      by_cases hnet : SCION_NETWORK ip = true
      · have hunmap := unmapIpv6_of_network hnet (show 8 ≤ 24 by norm_num)
        right
        refine ⟨((unmapped ip 8).isd <<< 48) ||| (unmapped ip 8).asn, ?_⟩
        simp only [hnet, not_true_eq_false, if_false, hunmap]
        rcases cache.lookup getPaths
          (((unmapped ip 8).isd <<< 48) ||| (unmapped ip 8).asn) with ⟨exc | (_ | path), cache'⟩
        · rfl
        · rfl
        · rfl
      · simp only [hnet]
        exact .inl rfl

/-- The turn leaves the cache of the translation. Kind: L -/
theorem tunTurn_cache (scapy : Scapy) (build : ScapyBuild) (calls : TurnCalls) (hostIp : IPAddress)
    (hostPort : ℕ) (frame : Bytes) (cache : PathCache) :
    (tunTurn scapy build calls hostIp hostPort frame cache).2
      = (egressTurn scapy calls.getPaths hostIp hostPort frame cache).2 := by
  unfold tunTurn
  split <;> simp_all

/-- **The cache after a turn**: as it was, or after one lookup. Kind: L -/
theorem tunTurn_cache_cases (scapy : Scapy) (build : ScapyBuild) (calls : TurnCalls)
    (hostIp : IPAddress) (hostPort : ℕ) (frame : Bytes) (cache : PathCache) :
    (tunTurn scapy build calls hostIp hostPort frame cache).2 = cache ∨
      ∃ ia, (tunTurn scapy build calls hostIp hostPort frame cache).2
        = (cache.lookup calls.getPaths ia).2 := by
  rw [tunTurn_cache, egressTurn]
  split
  · exact .inl rfl
  · exact translateEgress_cache _ _ _ _ _

/-- The daemon's own ISD-ASN stays in the cache. Kind: L -/
theorem tunTurn_localIa (scapy : Scapy) (build : ScapyBuild) (calls : TurnCalls)
    (hostIp : IPAddress) (hostPort : ℕ) (frame : Bytes) (cache : PathCache) :
    (tunTurn scapy build calls hostIp hostPort frame cache).2.localIa = cache.localIa := by
  rcases tunTurn_cache_cases scapy build calls hostIp hostPort frame cache with heq | ⟨ia, heq⟩
  · rw [heq]
  · rw [heq, cache.lookup_localIa]

/-- What the daemon promises of its answers stays true of the cache. Kind: L -/
theorem tunTurn_holds (scapy : Scapy) (build : ScapyBuild) {ok : CachedPath → Prop}
    {cache : PathCache} (h : cache.Holds ok) {calls : TurnCalls}
    (hanswers : AnswersOk ok calls.getPaths) (hostIp : IPAddress) (hostPort : ℕ) (frame : Bytes) :
    (tunTurn scapy build calls hostIp hostPort frame cache).2.Holds ok := by
  rcases tunTurn_cache_cases scapy build calls hostIp hostPort frame cache with heq | ⟨ia, heq⟩
  · rwa [heq]
  · rw [heq]
    exact h.lookup hanswers ia

/-- The frame is an IPv6 packet, read as `pkt`. Kind: D -/
def ReadAs (scapy : Scapy) (frame : Bytes) (pkt : IPv6Packet) : Prop :=
  tunProto frame = ETH_P_IPv6 ∧ scapy.ipv6 (tunData frame) = .ok pkt

/-- A turn that translates has read an IPv6 packet. Kind: L -/
theorem egressTurn_inversion {scapy : Scapy} {getPaths : GetPaths} {hostIp : IPAddress}
    {hostPort : ℕ} {frame : Bytes} {cache : PathCache} {sent : SCION × NextHop}
    (h : (egressTurn scapy getPaths hostIp hostPort frame cache).1 = .ok (some sent)) :
    ∃ pkt, ReadAs scapy frame pkt ∧
      (translateEgress getPaths (.ipv6 pkt) hostIp hostPort cache).1 = .ok (some sent) := by
  unfold egressTurn tunRead at h
  by_cases hip : tunProto frame = ETH_P_IP
  · simp only [if_pos hip] at h
    cases hdissect : scapy.ip (tunData frame) <;> rw [hdissect] at h <;> cases h
  · by_cases hip6 : tunProto frame = ETH_P_IPv6
    · simp only [if_neg hip, if_pos hip6] at h
      cases hdissect : scapy.ipv6 (tunData frame) with
      | error exc =>
        rw [hdissect] at h
        cases h
      | ok pkt =>
        rw [hdissect] at h
        exact ⟨pkt, ⟨hip6, hdissect⟩, h⟩
    · simp only [if_neg hip, if_neg hip6] at h
      cases h

/-- What is sent is the SCION packet. Kind: L -/
theorem mem_sendDatagram {build : ScapyBuild} {calls : TurnCalls} {hostIp : IPAddress}
    {pkt : SCION} {dest : NextHop} {ms : List Bytes}
    (h : sendDatagram build calls hostIp pkt dest = .ok ms) :
    ms.length ≤ 1 ∧ ∀ raw ∈ ms, build.scionBytes pkt = .ok raw := by
  obtain ⟨⟨ip, scopeId, port⟩, -, h⟩ := bind_eq_ok_iff.mp h
  dsimp only at h
  split_ifs at h
  · obtain ⟨raw, hraw, h⟩ := bind_eq_ok_iff.mp h
    obtain ⟨n, -, h⟩ := bind_eq_ok_iff.mp h
    obtain rfl := Except.ok.inj h
    exact ⟨le_refl 1, fun r hr => by rw [List.mem_singleton.mp hr, hraw]⟩
  · obtain rfl := Except.ok.inj h
    exact ⟨Nat.zero_le 1, fun r hr => by cases hr⟩

/-- **Inversion of the branch `tun`**: at most one datagram is sent, the SCION packet of an IPv6
packet that was read, on the path that was found. Kind: L -/
theorem tunTurn_inversion {scapy : Scapy} {build : ScapyBuild} {calls : TurnCalls}
    {hostIp : IPAddress} {hostPort : ℕ} {frame : Bytes} {cache cache' : PathCache}
    {ms : List Bytes}
    (h : tunTurn scapy build calls hostIp hostPort frame cache = (.ok ms, cache')) :
    ms.length ≤ 1 ∧ ∀ raw ∈ ms, ∃ pkt ip path l4, ReadAs scapy frame pkt ∧
      IPv6Address.parse pkt.dst = .ok ip ∧ SCION_NETWORK ip = true ∧
      egressL4 pkt = .ok (some l4) ∧
      (cache.lookup calls.getPaths (dstIaOf ip)).1 = .ok (some path) ∧
      build.scionBytes (sentScion (unmapped ip 8) (dstHost ip (unmapped ip 8).interface) path.1
        cache.localIsdAsn hostIp l4) = .ok raw := by
  unfold tunTurn at h
  rcases hturn : egressTurn scapy calls.getPaths hostIp hostPort frame cache with ⟨r, c⟩
  rw [hturn] at h
  rcases r with exc | (_ | ⟨pkt, dest⟩)
  · cases h
  · obtain ⟨hms, -⟩ := Prod.mk.inj h
    obtain rfl := Except.ok.inj hms
    exact ⟨Nat.zero_le 1, fun raw hraw => by cases hraw⟩
  · obtain ⟨hms, -⟩ := Prod.mk.inj h
    obtain ⟨hlen, hall⟩ := mem_sendDatagram hms
    obtain ⟨ipv6, hread, hsent⟩ := egressTurn_inversion (by rw [hturn])
    obtain ⟨ip, path, l4, hdst, hnet, hl4, hfound, rfl⟩ := translateEgress_inversion hsent
    exact ⟨hlen, fun raw hraw =>
      ⟨ipv6, ip, path, l4, hread, hdst, hnet, hl4, hfound, hall raw hraw⟩⟩

/-- A packet that is returned was for this host. Kind: L -/
theorem translateIngress_dst {pkt : SCION} {tunIp : IPv6Address} {out : IPv6Packet}
    (h : translateIngress (.scion pkt) tunIp = .ok (some out)) :
    hostAddr pkt.DT pkt.DL pkt.DstISD pkt.DstAS pkt.DstHostAddr = .ok (some tunIp) := by
  unfold translateIngress at h
  obtain ⟨dst, hdst, h⟩ := bind_eq_ok_iff.mp h
  cases dst with
  | none => cases h
  | some dst =>
    dsimp only at h
    by_cases hself : dst = tunIp
    · rw [hdst, hself]
    · rw [if_pos hself] at h
      cases h

/-- **Inversion of the branch `udp`**: at most one frame is written, with the IPv6 packet made of a
SCION packet. Kind: L -/
theorem udpTurn_inversion {build : ScapyBuild} {calls : TurnCalls} {tunIp : IPv6Address}
    {datagram : Bytes} {bs : List Bytes} (h : udpTurn build calls tunIp datagram = .ok bs) :
    bs.length ≤ 1 ∧ ∀ b ∈ bs, ∃ packet out raw, build.scion (datagram.take 2048) = .ok packet ∧
      translateIngress packet tunIp = .ok (some out) ∧ build.ipv6Bytes out = .ok raw ∧
      b = tunBuffer raw := by
  obtain ⟨packet, hpacket, h⟩ := bind_eq_ok_iff.mp h
  obtain ⟨r, hr, h⟩ := bind_eq_ok_iff.mp h
  cases r with
  | none =>
    obtain rfl := Except.ok.inj h
    exact ⟨Nat.zero_le 1, fun b hb => by cases hb⟩
  | some out =>
    obtain ⟨raw, hraw, h⟩ := bind_eq_ok_iff.mp h
    obtain ⟨n, -, h⟩ := bind_eq_ok_iff.mp h
    obtain rfl := Except.ok.inj h
    refine ⟨le_refl 1, fun b hb => ⟨packet, out, raw, hpacket, hr, hraw, ?_⟩⟩
    exact List.mem_singleton.mp hb

/-! ## The network -/

/-- A configured instance: the arguments of `run_translation`, the ISD-ASN its daemon reports, and
the address its TUN device got. Kind: D -/
structure Instance where
  hostIp : IPAddress
  hostPort : ℕ
  localIa : ℕ
  tun : IPv6Address
  tun_eq : tunIp hostIp (newPathCache localIa).localIsdAsn = .ok tun

/-- The payloads `scapy` dissects as what they were built from. Kind: D -/
def L4.Carried : L4 → Prop
  | .tcp _ => True
  | .udp _ => True
  | .scmp _ _ => True
  | _ => False

/-- Texts of the same host address, of the given length. Kind: D -/
def SameHost (length : ℕ) (text text' : Text) : Prop :=
  (length = 4 → IPv4Address.parse text' = IPv4Address.parse text) ∧
    (length = 16 → IPv6Address.parse text' = IPv6Address.parse text)

/-- A SCION packet as it arrives: the path, the checksum and the spelling of the host addresses may
differ. Kind: D -/
structure SCION.ArrivesAs (sent arrived : SCION) : Prop where
  types : arrived.DT = sent.DT ∧ arrived.ST = sent.ST
  lengths : arrived.DL = sent.DL ∧ arrived.SL = sent.SL
  dstIsdAsn : arrived.DstISD = sent.DstISD ∧ arrived.DstAS = sent.DstAS
  srcIsdAsn : arrived.SrcISD = sent.SrcISD ∧ arrived.SrcAS = sent.SrcAS
  dstHost : SameHost sent.DL sent.DstHostAddr arrived.DstHostAddr
  srcHost : SameHost sent.SL sent.SrcHostAddr arrived.SrcHostAddr
  payload : sent.payload.Carried → arrived.payload.recomputed = sent.payload.recomputed

/-- The SCION packet that a host sends to the IPv6 address `ip`. Kind: D -/
def scionFor (ip : IPv6Address) (path : ScionPath) (localIa : ℕ) (hostIp : IPAddress) (l4 : L4) :
    SCION :=
  sentScion (unmapped ip 8) (dstHost ip (unmapped ip 8).interface) path
    (newPathCache localIa).localIsdAsn hostIp l4

/-- **The documented behaviour of `scapy`**: the bytes of a SCION packet that a host sends for an
IPv6 packet it read, on a well-formed path, are dissected as that packet. In bytes the host
addresses have no spelling, and the checksum is one that was computed. Kind: D -/
def ScapyBuild.Documented (build : ScapyBuild) (scapy : Scapy) (wellFormed : ScionPath → Prop) :
    Prop :=
  ∀ frame pkt ip path localIa hostIp l4 raw, ReadAs scapy frame pkt →
    egressL4 pkt = .ok (some l4) → SCION_NETWORK ip = true → wellFormed path →
    build.scionBytes (scionFor ip path localIa hostIp l4) = .ok raw →
    ∃ arrived, build.scion raw = .ok (.scion arrived) ∧
      (scionFor ip path localIa hostIp l4).ArrivesAs arrived

/-- The routers on the way change the path of a SCION packet, not its size. Kind: D -/
structure RouterHop (build : ScapyBuild) (raw raw' : Bytes) : Prop where
  length : raw'.length = raw.length
  path : ∀ pkt, build.scion raw = .ok (.scion pkt) →
    ∃ path, build.scion raw' = .ok (.scion { pkt with Path := path })

/-- Instances with the same libraries, on one network, and how their daemons may answer. Kind: D -/
structure Fleet (ι : Type*) where
  inst : ι → Instance
  scapy : Scapy
  build : ScapyBuild
  answers : GetPaths → Prop
  duplicates : Prop

variable {ι : Type*}

/-- **What is relied on of the libraries and of the daemons**: `scapy` behaves as documented on
well-formed paths, and the daemons return no others. Kind: D -/
structure Fleet.Documented (N : Fleet ι) (wellFormed : ScionPath → Prop) : Prop where
  build : N.build.Documented N.scapy wellFormed
  answers : ∀ getPaths, N.answers getPaths → AnswersOk (fun path => wellFormed path.1) getPaths

/-- **The instances as parties of a network.** The state is the cache, or `none` once an exception
has ended the instance; a datagram is handed to any instance, which cuts it to its buffer.
Source: `scitun.py`, `run_translation`, on each host. Kind: D -/
def instances (N : Fleet ι) : Parties ι (Option PathCache) Bytes Bytes Bytes where
  initially i c := c = some (newPathCache (N.inst i).localIa)
  own _ _ _ := False
  submit i frame c c' ms := ∃ cache calls r cache', c = some cache ∧ N.answers calls.getPaths ∧
    tunTurn N.scapy N.build calls (N.inst i).hostIp (N.inst i).hostPort frame cache = (r, cache') ∧
    (r = .ok ms ∧ c' = some cache' ∨ (∃ exc, r = .error exc) ∧ c' = none ∧ ms = [])
  receive j datagram c c' bs := ∃ cache calls r, c = some cache ∧
    udpTurn N.build calls (N.inst j).tun datagram = r ∧
    (r = .ok bs ∧ c' = c ∨ (∃ exc, r = .error exc) ∧ c' = none ∧ bs = [])
  hop := RouterHop N.build
  duplicates := N.duplicates

/-! ## What is carried -/

/-- The cache of a running instance belongs to its daemon, and has well-formed paths. Kind: D -/
def CacheOf (N : Fleet ι) (wellFormed : ScionPath → Prop) (i : ι) (c : Option PathCache) : Prop :=
  ∀ cache, c = some cache → cache.localIa = (N.inst i).localIa ∧
    cache.Holds fun path => wellFormed path.1

/-- The SCION packet of an IPv6 packet `pkt` that instance `i` read, as it may arrive. Kind: D -/
def SentFor (N : Fleet ι) (i : ι) (pkt : IPv6Packet) (scion : SCION) : Prop :=
  ∃ ip path l4, IPv6Address.parse pkt.dst = .ok ip ∧ SCION_NETWORK ip = true ∧
    egressL4 pkt = .ok (some l4) ∧
    (scionFor ip path (N.inst i).localIa (N.inst i).hostIp l4).ArrivesAs scion

/-- A datagram that can be sent for the frame is longer than the buffer of `recvfrom`. Kind: D -/
def Oversized (N : Fleet ι) (x : ι × Bytes) : Prop :=
  ∃ c c' ms, (instances N).submit x.1 x.2 c c' ms ∧ ∃ datagram ∈ ms, 2048 < datagram.length

/-- A datagram underway is the SCION packet of what was read. Kind: D -/
structure Carries (N : Fleet ι) (x : ι × Bytes) (datagram : Bytes) : Prop where
  scion : ∃ pkt scion, ReadAs N.scapy x.2 pkt ∧ N.build.scion datagram = .ok (.scion scion) ∧
    SentFor N x.1 pkt scion
  size : 2048 < datagram.length → Oversized N x

/-- **The IPv6 packet `out` that instance `j` writes is the packet `pkt` that instance `i` read**:
bound for the TUN address of the one, under the TUN address of the other, with the payload, its
checksum to be recomputed, if it is one that is carried. Kind: D -/
structure Delivers (N : Fleet ι) (i j : ι) (pkt out : IPv6Packet) : Prop where
  dst : IPv6Address.parse pkt.dst = .ok (N.inst j).tun
  outDst : IPv6Address.parse out.dst = .ok (N.inst j).tun
  outSrc : IPv6Address.parse out.src = .ok (N.inst i).tun
  payload : Translatable pkt → out.nh = pkt.nh ∧ out.payload = pkt.payload.recomputed

/-- What instance `j` writes to its TUN device, explained by what instance `i` read from its own.
Kind: D -/
def Explains (N : Fleet ι) (x y : ι × Bytes) : Prop :=
  ∃ pkt out raw, ReadAs N.scapy x.2 pkt ∧ N.build.ipv6Bytes out = .ok raw ∧
    y.2 = tunBuffer raw ∧ Delivers N x.1 y.1 pkt out

/-- Ingress does not look at the checksum. Kind: L -/
theorem ingressL4_recomputed (l4 : L4) : ingressL4 l4.recomputed = ingressL4 l4 := by
  cases l4 <;> rfl

/-- What egress makes of such a payload is carried. Kind: L -/
theorem Translatable.carried {pkt : IPv6Packet} (h : Translatable pkt) {l4 : L4}
    (hl4 : egressL4 pkt = .ok (some l4)) : l4.Carried := by
  cases h <;> obtain rfl := Option.some.inj (Except.ok.inj hl4) <;> trivial

/-- The payload that is written is the one that was read. Kind: L -/
theorem payload_of_sent {pkt : IPv6Packet} (h : Translatable pkt) {l4 sent out : L4}
    (hl4 : egressL4 pkt = .ok (some l4)) (hsame : l4.Carried → sent.recomputed = l4.recomputed)
    (hout : ingressL4 sent = .ok (some out)) :
    nhOf out = pkt.nh ∧ out = pkt.payload.recomputed := by
  obtain ⟨l4', hl4', hdelivered⟩ := ingressL4_egressL4 h
  obtain rfl := Option.some.inj (Except.ok.inj (hl4.symm.trans hl4'))
  rw [← ingressL4_recomputed, hsame (h.carried hl4), ingressL4_recomputed, hdelivered] at hout
  obtain rfl := Option.some.inj (Except.ok.inj hout)
  cases h <;> exact ⟨rfl, rfl⟩

/-- The host of a packet is the same in either spelling. Kind: L -/
theorem hostAddr_congr {text text' : Text} {length : ℕ} (h : SameHost length text text')
    (type isd asn : ℕ) : hostAddr type length isd asn text' = hostAddr type length isd asn text := by
  unfold hostAddr
  split_ifs with _ hfour hsixteen
  · rw [h.1 hfour]
  · rw [h.2 hsixteen]
  · rfl
  · rfl

/-- A packet is for the same host as it was sent to. Kind: L -/
theorem SCION.ArrivesAs.dst_eq {sent arrived : SCION} (h : sent.ArrivesAs arrived) :
    hostAddr arrived.DT arrived.DL arrived.DstISD arrived.DstAS arrived.DstHostAddr
      = hostAddr sent.DT sent.DL sent.DstISD sent.DstAS sent.DstHostAddr := by
  rw [h.types.1, h.lengths.1, h.dstIsdAsn.1, h.dstIsdAsn.2]
  exact hostAddr_congr h.dstHost _ _ _

/-- And has the same source. Kind: L -/
theorem SCION.ArrivesAs.src_eq {sent arrived : SCION} (h : sent.ArrivesAs arrived) :
    srcAddr arrived = srcAddr sent := by
  unfold srcAddr
  rw [h.types.2, h.lengths.2, h.srcIsdAsn.1, h.srcIsdAsn.2, hostAddr_congr h.srcHost]

/-- A router changes nothing of what is carried. Kind: L -/
theorem Carries.hop {N : Fleet ι} {x : ι × Bytes} {raw raw' : Bytes} (h : Carries N x raw)
    (hhop : RouterHop N.build raw raw') : Carries N x raw' := by
  obtain ⟨⟨pkt, scion, hread, hraw, ip, path, l4, hdst, hnet, hl4, hsame⟩, hsize⟩ := h
  obtain ⟨path', hraw'⟩ := hhop.path scion hraw
  refine ⟨⟨pkt, _, hread, hraw', ip, path, l4, hdst, hnet, hl4, ?_⟩, ?_⟩
  · exact ⟨hsame.types, hsame.lengths, hsame.dstIsdAsn, hsame.srcIsdAsn, hsame.dstHost,
      hsame.srcHost, hsame.payload⟩
  · rwa [hhop.length]

/-- The SCION packet that an instance sends. Kind: L -/
theorem sentScion_eq_scionFor {N : Fleet ι} {i : ι} {cache : PathCache}
    (hcache : cache.localIa = (N.inst i).localIa) (ip : IPv6Address) (path : ScionPath) (l4 : L4) :
    sentScion (unmapped ip 8) (dstHost ip (unmapped ip 8).interface) path cache.localIsdAsn
      (N.inst i).hostIp l4 = scionFor ip path (N.inst i).localIa (N.inst i).hostIp l4 := by
  rw [scionFor, PathCache.localIsdAsn, hcache]
  rfl

/-- The source that is accepted of an instance's packet is its TUN address: one outside `fc00::/8`
is not accepted. Kind: L -/
theorem srcAddr_of_instance {inst : Instance} {scion : SCION} (hST : scion.ST = 0)
    (hSL : scion.SL = hostLen inst.hostIp)
    (hISD : scion.SrcISD = (newPathCache inst.localIa).localIsdAsn.1)
    (hAS : scion.SrcAS = (newPathCache inst.localIa).localIsdAsn.2)
    (htext : scion.SrcHostAddr = inst.hostIp.str) {src : IPv6Address}
    (hsrc : srcAddr scion = .ok (some src)) : src = inst.tun := by
  have htun := inst.tun_eq
  cases hhost : inst.hostIp with
  | v4 host =>
    have hconf : Configurable inst.hostIp := by
      rw [hhost]
      trivial
    have hread := srcAddr_src hconf htun hST hSL hISD hAS htext
    exact Option.some.inj (Except.ok.inj (hsrc.symm.trans hread))
  | v6 host =>
    rw [hhost] at hSL htext htun
    obtain rfl : host = inst.tun := Except.ok.inj htun
    rcases srcAddr_inversion hsrc with ⟨hfour, -⟩ | ⟨-, hparse, -⟩
    · rw [hSL] at hfour
      exact absurd hfour (show 16 ≠ 4 by norm_num)
    · have hstr : scion.SrcHostAddr = inst.tun.str := htext
      rw [hstr, IPv6Address.parse_str] at hparse
      exact (Except.ok.inj hparse).symm

/-- **What is written explains itself**: a SCION packet accepted by instance `j` was for its TUN
address, and names the TUN address of the sender. Kind: L -/
theorem SentFor.delivers {N : Fleet ι} {i j : ι} {pkt : IPv6Packet} {scion : SCION}
    (h : SentFor N i pkt scion) {out : IPv6Packet}
    (hout : translateIngress (.scion scion) (N.inst j).tun = .ok (some out)) :
    Delivers N i j pkt out := by
  obtain ⟨ip, path, l4, hdst, hnet, hl4, hsame⟩ := h
  have hself := translateIngress_dst hout
  obtain ⟨src, l4', hsrc, hin, rfl⟩ := translateIngress_inversion hout
  have htun : ip = (N.inst j).tun := by
    have hback := hsame.dst_eq.trans (hostAddr_dst hnet)
    exact Option.some.inj (Except.ok.inj (hback.symm.trans hself))
  have hsource : src = (N.inst i).tun :=
    srcAddr_of_instance rfl rfl rfl rfl rfl (hsame.src_eq.symm.trans hsrc)
  refine ⟨by rw [hdst, htun], IPv6Address.parse_str _, ?_, fun ht => ?_⟩
  · rw [hsource]
    exact IPv6Address.parse_str _
  · exact payload_of_sent ht hl4 hsame.payload hin

/-- **What arrives explains what is written**, unless it was cut. Kind: L -/
theorem Carries.receive {N : Fleet ι} {x : ι × Bytes} {datagram : Bytes} (h : Carries N x datagram)
    {j : ι} {calls : TurnCalls} {bs : List Bytes}
    (hturn : udpTurn N.build calls (N.inst j).tun datagram = .ok bs) {b : Bytes} (hb : b ∈ bs)
    (hlen : datagram.length ≤ 2048) : Explains N x (j, b) := by
  obtain ⟨packet, out, raw, hpacket, hout, hraw, rfl⟩ := (udpTurn_inversion hturn).2 b hb
  obtain ⟨pkt, scion, hread, hscion, hsent⟩ := h.scion
  rw [List.take_of_length_le hlen, hscion] at hpacket
  obtain rfl := Except.ok.inj hpacket
  exact ⟨pkt, out, raw, hread, hraw, rfl, hsent.delivers hout⟩

/-- **The instances account for every frame** of which no datagram was cut. Kind: P -/
theorem instances_explained {N : Fleet ι} {wellFormed : ScionPath → Prop}
    (hdocumented : N.Documented wellFormed) :
    Explained (instances N) (CacheOf N wellFormed) (Carries N)
      (fun x y => ¬ Oversized N x → Explains N x y) where
  initially i c hc := by
    intro cache hcache
    obtain rfl := Option.some.inj (hcache.symm.trans hc)
    exact ⟨rfl, fun ia paths hpaths => by cases hpaths⟩
  own i c c' _ hstep := hstep.elim
  submit i frame c c' ms hgood hstep := by
    have hsize : ∀ raw ∈ ms, 2048 < raw.length → Oversized N (i, frame) :=
      fun raw hraw hlong => ⟨c, c', ms, hstep, raw, hraw, hlong⟩
    obtain ⟨cache, calls, r, cache', rfl, hcalls, hturn, hend⟩ := hstep
    obtain ⟨hlocal, hpaths⟩ := hgood cache rfl
    have hanswers := hdocumented.answers calls.getPaths hcalls
    rcases hend with ⟨rfl, rfl⟩ | ⟨-, rfl, rfl⟩
    · have hkept := tunTurn_localIa N.scapy N.build calls (N.inst i).hostIp (N.inst i).hostPort
        frame cache
      have hholds := tunTurn_holds N.scapy N.build hpaths hanswers (N.inst i).hostIp
        (N.inst i).hostPort frame
      rw [hturn, hlocal] at hkept
      rw [hturn] at hholds
      refine ⟨fun c hc => (Option.some.inj hc) ▸ ⟨hkept, hholds⟩, fun raw hraw => ?_⟩
      obtain ⟨pkt, ip, path, l4, hread, hdst, hnet, hl4, hfound, hsent⟩ :=
        (tunTurn_inversion hturn).2 raw hraw
      rw [sentScion_eq_scionFor hlocal] at hsent
      obtain ⟨arrived, hscion, hsame⟩ := hdocumented.build _ _ _ _ _ _ _ _ hread hl4 hnet
        (hpaths.found hanswers hfound) hsent
      exact ⟨⟨pkt, arrived, hread, hscion, ip, path.1, l4, hdst, hnet, hl4, hsame⟩,
        hsize raw hraw⟩
    · exact ⟨fun c hc => (by cases hc), fun raw hraw => (by cases hraw)⟩
  hop x m m' hcarries hhop := hcarries.hop hhop
  receive x datagram j c c' bs hgood hcarries hstep := by
    obtain ⟨cache, calls, r, rfl, hturn, hend⟩ := hstep
    rcases hend with ⟨rfl, rfl⟩ | ⟨-, rfl, rfl⟩
    · refine ⟨hgood, fun b hb hsize => hcarries.receive hturn hb ?_⟩
      exact not_lt.mp fun hlong => hsize (hcarries.size hlong)
    · exact ⟨fun c hc => (by cases hc), fun b hb => (by cases hb)⟩

/-- A turn makes at most one datagram or frame. Kind: L -/
theorem instances_single {N : Fleet ι} (hd : ¬ N.duplicates) : Single (instances N) where
  submit i frame c c' ms hstep := by
    obtain ⟨cache, calls, r, cache', -, -, hturn, ⟨rfl, -⟩ | ⟨-, -, rfl⟩⟩ := hstep
    · exact (tunTurn_inversion hturn).1
    · exact Nat.zero_le 1
  receive j datagram c c' bs hstep := by
    obtain ⟨cache, calls, r, -, hturn, ⟨rfl, -⟩ | ⟨-, -, rfl⟩⟩ := hstep
    · exact (udpTurn_inversion hturn).1
    · exact Nat.zero_le 1
  once := hd

/-- **Whatever the interleaving, a TUN device is written only what was read from one**: each frame
written goes back to a frame that an instance read and that explains it, unless a datagram sent for
that one may not fit the buffer of the receiver; and on a network that does not duplicate, different
frames go back to different ones. Kind: P -/
theorem tunnels_carry_what_was_read [DecidableEq ι] {N : Fleet ι} {wellFormed : ScionPath → Prop}
    (hdocumented : N.Documented wellFormed)
    {s : NetworkState ι (Option PathCache) Bytes Bytes Bytes}
    (hs : (network (instances N)).Reachable s) :
    (∀ d ∈ s.delivered, d.1 ∈ s.submitted ∧ (¬ Oversized N d.1 → Explains N d.1 d.2)) ∧
      (¬ N.duplicates → labels s.delivered ≤ ↑s.submitted) := by
  refine ⟨((instances_explained hdocumented).reachable hs).delivered, fun hd => ?_⟩
  exact (instances_single hd).submissions_le hs

/-! ## A sample network -/

/-- Two hosts in `1-64512`, `10.128.0.1` and `10.128.0.2`. Kind: D -/
def echoInstance (i : Bool) : Instance where
  hostIp := if i then .v4 ⟨0x0a800002, by norm_num⟩ else .v4 ⟨0x0a800001, by norm_num⟩
  hostPort := 30041
  localIa := 0x000100000000fc00
  tun := if i then ⟨0xfc0010fc000000000000ffff0a800002, by norm_num⟩
    else ⟨0xfc0010fc000000000000ffff0a800001, by norm_num⟩
  tun_eq := by cases i <;> decide +kernel

/-- The frame of an echo request from the one to the other. Kind: D -/
def echoFrame : Bytes :=
  [0, 0, 0x86, 0xdd, 0x60, 0, 0, 0, 0, 8, 58, 64] ++
    toBE 16 0xfc0010fc000000000000ffff0a800001 ++ toBE 16 0xfc0010fc000000000000ffff0a800002 ++
    [128, 0, 0x50, 0xbe, 0, 1, 0, 1]

/-- The SCION packet it is sent as. Kind: D -/
def echoScion : SCION :=
  ⟨0, 4, 0, 4, 1, 64512, 1, 64512, "10.128.0.2".toList, "10.128.0.1".toList, .empty,
    .scmp SCMP_ECHO_REQUEST (.echo ⟨1, 1, []⟩)⟩

/-- Its bytes: common header, addresses, and an SCMP message with its checksum. Kind: D -/
def echoDatagram : Bytes :=
  [0, 0, 0, 1, 202, 9, 0, 8, 0, 0, 0, 0] ++ [0, 1, 0, 0, 0, 0, 0xfc, 0] ++
    [0, 1, 0, 0, 0, 0, 0xfc, 0] ++ [10, 128, 0, 2, 10, 128, 0, 1] ++
    [128, 0, 0x72, 0x24, 0, 1, 0, 1]

/-- The IPv6 packet that is delivered. Kind: D -/
def echoDelivered : IPv6Packet :=
  ⟨"fc00:10fc::ffff:a80:1".toList, "fc00:10fc::ffff:a80:2".toList, 58,
    .icmpv6EchoRequest ⟨1, 1, []⟩⟩

/-- `scapy` on these packets. Kind: D -/
def echoBuild : ScapyBuild where
  scionBytes pkt :=
    if pkt = echoScion then .ok echoDatagram else .error (.Exception "not a sample packet")
  scion raw := .ok (if raw = echoDatagram then .scion echoScion else .other)
  ipv6Bytes pkt :=
    if pkt = echoDelivered then .ok (tunData echoFrame)
    else .error (.Exception "not a sample packet")

/-- The two hosts. Kind: D -/
def echoFleet : Fleet Bool where
  inst := echoInstance
  scapy := sampleScapy
  build := echoBuild
  answers := AnswersOk fun path => path.1 = .empty
  duplicates := False

/-- There are no bytes but those of the echo request. Kind: L -/
theorem echoBuild_scionBytes {pkt : SCION} {raw : Bytes} (h : echoBuild.scionBytes pkt = .ok raw) :
    pkt = echoScion ∧ raw = echoDatagram := by
  simp only [echoBuild] at h
  split_ifs at h with hpkt
  exact ⟨hpkt, (Except.ok.inj h).symm⟩

/-- They are dissected as documented. Kind: L -/
theorem echoBuild_documented (wellFormed : ScionPath → Prop) :
    echoBuild.Documented sampleScapy wellFormed := by
  intro frame pkt ip path localIa hostIp l4 raw _ _ _ _ hraw
  obtain ⟨hpkt, rfl⟩ := echoBuild_scionBytes hraw
  refine ⟨echoScion, by simp [echoBuild], ?_⟩
  rw [hpkt]
  exact ⟨⟨rfl, rfl⟩, ⟨rfl, rfl⟩, ⟨rfl, rfl⟩, ⟨rfl, rfl⟩, ⟨fun _ => rfl, fun _ => rfl⟩,
    ⟨fun _ => rfl, fun _ => rfl⟩, fun _ => rfl⟩

/-- The two hosts, whose daemons know the empty path only, behave as documented. Kind: L -/
theorem echoFleet_documented : echoFleet.Documented fun path => path = .empty :=
  ⟨echoBuild_documented _, fun _ h => h⟩

/-- They fit the buffer. Kind: L -/
theorem not_oversized_echoFleet (x : Bool × Bytes) : ¬ Oversized echoFleet x := by
  rintro ⟨c, c', ms, ⟨cache, calls, r, cache', -, -, hturn, ⟨rfl, -⟩ | ⟨-, -, rfl⟩⟩, raw, hraw, hlong⟩
  · obtain ⟨_, _, _, _, -, -, -, -, -, hsent⟩ := (tunTurn_inversion hturn).2 raw hraw
    rw [(echoBuild_scionBytes hsent).2] at hlong
    exact absurd hlong (by decide)
  · cases hraw

/-- Calls that all succeed. Kind: D -/
def echoCalls : TurnCalls := ⟨sampleGetPaths, fun raw _ => .ok raw.length, fun b => .ok b.length⟩

/-- The path of the sample answer is empty. Kind: L -/
theorem echoFleet_answers : echoFleet.answers sampleGetPaths := by
  rintro ia answer hanswer path hpath router -
  obtain rfl := Except.ok.inj hanswer
  rw [List.mem_singleton.mp hpath]
  rfl

/-- The two hosts, before anything is read. Kind: D -/
def echoNetwork : NetworkState Bool (Option PathCache) Bytes Bytes Bytes :=
  ⟨fun _ => some (newPathCache 0x000100000000fc00), [], [], []⟩

/-- The network with the datagram underway. Kind: D -/
def echoSent (cache : PathCache) : NetworkState Bool (Option PathCache) Bytes Bytes Bytes :=
  { echoNetwork.setParty false (some cache) with
    wire := [((false, echoFrame), echoDatagram)]
    submitted := [(false, echoFrame)] }

/-- A run in which the echo request arrives. Kind: C -/
theorem tunnels_carry_what_was_read_sample :
    ∃ pkt out, ReadAs sampleScapy echoFrame pkt ∧ Delivers echoFleet false true pkt out := by
  have hstart : (network (instances echoFleet)).Reachable echoNetwork :=
    .init ⟨fun _ => rfl, rfl, rfl, rfl⟩
  have hsent : (tunTurn sampleScapy echoBuild echoCalls (echoInstance false).hostIp 30041 echoFrame
      (newPathCache 0x000100000000fc00)).1 = .ok [echoDatagram] := by decide +kernel
  rcases hturn : tunTurn sampleScapy echoBuild echoCalls (echoInstance false).hostIp 30041 echoFrame
    (newPathCache 0x000100000000fc00) with ⟨r, cache⟩
  rw [hturn] at hsent
  obtain rfl : r = .ok [echoDatagram] := hsent
  have hudp : udpTurn echoBuild echoCalls (echoInstance true).tun echoDatagram
      = .ok [tunBuffer (tunData echoFrame)] := by decide +kernel
  have hsend : NetworkStep (instances echoFleet) echoNetwork (echoSent cache) :=
    NetworkStep.submit (P := instances echoFleet) echoNetwork false echoFrame _ _
      ⟨_, echoCalls, _, cache, rfl, echoFleet_answers, hturn, Or.inl ⟨rfl, rfl⟩⟩
  have hrecv := NetworkStep.receive (P := instances echoFleet) (echoSent cache) [] []
    (false, echoFrame) echoDatagram true _ _ rfl
    ⟨_, echoCalls, _, rfl, hudp, Or.inl ⟨rfl, rfl⟩⟩
  have hend := (hstart.step hsend).step hrecv
  obtain ⟨hall, -⟩ := tunnels_carry_what_was_read echoFleet_documented hend
  obtain ⟨pkt, out, raw, hread, -, -, hdel⟩ :=
    (hall _ List.mem_cons_self).2 (not_oversized_echoFleet _)
  exact ⟨pkt, out, hread, hdel⟩

end ScionIp.Prototype
