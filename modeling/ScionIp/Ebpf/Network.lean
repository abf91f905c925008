import ScionIp.Lib.BoundedTable
import ScionIp.Lib.Network
import ScionIp.Ebpf.IngressChecks
import ScionIp.Ebpf.PathCache

/-!
# Translator hosts on a network

Hosts that run both programs and the path service, on a network between them. What a host's stack
sends goes through `scion_egress`, what arrives goes through `scion_ingress`, and the path service
answers the requests of the former in between, in any interleaving. The network below is made of
nodes that forward by IP and of border routers, which treat what is addressed to them as a SCION
packet and send it to the next router, or to the destination host the SCION header names.

* `translators` — the hosts as parties of a network.
* `translators_explained` — a translated frame reaches the host it is for, and only that one, and
  is there what it was; a frame that was forwarded untouched stays so unless it has the form of a
  packet to decapsulate.
* `delivery_run` — from any state with such hosts, a frame can be delivered, if the map has room
  for a path: after a miss, the pending requests are answered in turn, and then its own.
* `frames_arrive_intact`, `delivery_stays_possible` — both for every reachable state.
-/

namespace ScionIp.Ebpf

open ScionIp.Lib

/-! ## The packet in a frame -/

/-- **`g` is the packet of `p`**: the addresses, next header, payload length, size, and every byte
behind the IPv6 header. Kind: D -/
structure SamePacket (p g : Frame) : Prop where
  length : g.length = p.length
  saddr : ipSaddr g = ipSaddr p
  daddr : ipDaddr g = ipDaddr p
  nexthdr : ipNexthdr g = ipNexthdr p
  payloadLen : peek g 18 2 = peek p 18 2
  rest : g.drop 54 = p.drop 54

/-- A received frame that changes in transit is still received. Kind: L -/
theorem Received.inTransit {n : ℕ} {p q r : Frame} (h : Received n p q) (hr : InTransit n q r) :
    Received n p r where
  length := by rw [hr.length, h.length]
  ipv6 := by rw [hr.peek_eq (fun i hi hi' => by unfold MayChange; omega), h.ipv6]
  nexthdr := by rw [ipNexthdr, hr.byteAt_eq (by unfold MayChange; omega), ← h.nexthdr, ipNexthdr]
  hdrLen := by rw [sciLen, hr.byteAt_eq (by unfold MayChange; omega), ← h.hdrLen, sciLen]
  next := by rw [hr.byteAt_eq (by unfold MayChange; omega), h.next]
  payload := by rw [hr.peek_eq (fun i hi hi' => by unfold MayChange; omega), h.payload]
  dstHost := by rw [hr.peek_eq (fun i hi hi' => by unfold MayChange; omega), h.dstHost]
  srcHost := by rw [hr.peek_eq (fun i hi hi' => by unfold MayChange; omega), h.srcHost]
  tail := by rw [hr.drop_eq, h.tail]

/-- The length of the path is announced in the frame. Kind: L -/
theorem Received.pathLen {n : ℕ} {p q : Frame} (h : Received n p q) :
    4 * (sciLen q).toNat - 60 = n := by
  have := h.hdrLen
  omega

/-- The decapsulation of a received frame is the packet that was sent. Kind: L -/
theorem Received.samePacket {n : ℕ} {e : Endian} {p q g : Frame} (h : Received n p q)
    (hp : 62 ≤ p.length) (hlay : IngressLayout e q g) : SamePacket p g := by
  have hlen := h.length
  have hhdr := h.hdrLen
  constructor
  case length =>
    rw [hlay.length]
    omega
  case saddr => rw [hlay.saddr, h.srcHost]
  case daddr => rw [hlay.daddr, h.dstHost]
  case nexthdr => rw [hlay.nexthdr, h.next]
  case payloadLen => rw [hlay.payloadLen, h.payload]
  case rest => rw [hlay.tail, hhdr, ← Nat.add_assoc, h.tail]

/-- A frame received for a SCION address is decapsulated where there is room. Kind: L -/
theorem Received.decapsulated {n : ℕ} {p q : Frame} (h : Received n p q) (hp : 62 ≤ p.length)
    (hmatch : scionPrefixMatch (ipDaddr q) = true) (e : Endian) :
    (scionIngress e ⟨fun _ _ => 0⟩ q).verdict = .XDP_PASS ∧
      SamePacket p (scionIngress e ⟨fun _ _ => 0⟩ q).frame := by
  have hlen := h.length
  have hhdr := h.hdrLen
  rcases scionIngress_of_not_skips e ⟨fun _ _ => 0⟩ (h.not_skips (by omega) hmatch) with
    ⟨-, -, hv, hlay⟩ | ⟨hshort | hroom, -⟩
  · exact ⟨hv, h.samePacket hp hlay⟩
  · omega
  · exact absurd hroom (lt_irrefl 0)

/-- The last router writes the destination host over the address. Kind: L -/
theorem InTransit.setDaddr (n : ℕ) (q : Frame) {addr : Bytes} (ha : addr.length = 16) :
    InTransit n q (Lib.poke q 38 addr) := by
  refine (InTransit.refl n q).poke ?_
  intro i h1 h2
  rw [ha] at h2
  exact Or.inr (Or.inl (by omega))

/-- The frame is then received, for that host. Kind: L -/
theorem Received.routed {n : ℕ} {p q : Frame} (h : Received n p q) (hp : 62 ≤ p.length) :
    Received n p (poke q 38 (ipDaddr p)) ∧ ipDaddr (poke q 38 (ipDaddr p)) = ipDaddr p := by
  have hlen := h.length
  have hdst : (ipDaddr p).length = 16 := length_ipDaddr (by omega)
  exact ⟨h.inTransit (.setDaddr n q hdst), peek_poke_same hdst (by omega)⟩

/-- A frame that is not forwarded is for a SCION address. Kind: L -/
theorem scionPrefixMatch_of_not_forwards {e : Endian} {f : Frame} (h : ¬ EgressForwards e f) :
    scionPrefixMatch (ipDaddr f) = true := by
  by_contra hc
  exact h (by simp [EgressForwards, hc])

/-! ## The network -/

/-- Where the hosts are: their byte orders and addresses, the addresses of the border routers, and
whether a frame may arrive twice. Kind: D -/
structure Topology (ι : Type*) where
  endian : ι → Endian
  owns : ι → Bytes → Prop
  router : Bytes → Prop
  duplicates : Prop
  apart : ∀ i a, owns i a → ¬ router a

/-- A node that forwards by IP: MAC addresses and hop limit. Kind: D -/
structure IpHop (q r : Frame) : Prop where
  length : r.length = q.length
  same : ∀ i, ¬ (i < 12 ∨ i = 21) → r[i]? = q[i]?

/-- Such a hop changes nothing that may not change. Kind: L -/
theorem IpHop.inTransit {q r : Frame} (h : IpHop q r) (n : ℕ) : InTransit n q r where
  length := h.length
  same i hi := h.same i (fun hc => hi (by unfold MayChange; omega))

/-- Two such hops. Kind: L -/
theorem IpHop.trans {p q r : Frame} (h : IpHop p q) (h' : IpHop q r) : IpHop p r where
  length := by rw [h'.length, h.length]
  same i hi := by rw [h'.same i hi, h.same i hi]

/-- A read of bytes that do not change. Kind: L -/
theorem IpHop.peek_eq {q r : Frame} (h : IpHop q r) {off k : ℕ}
    (hk : 12 ≤ off ∧ off + k ≤ 21 ∨ 22 ≤ off) : peek r off k = peek q off k := by
  apply List.ext_getElem?
  intro i
  rw [getElem?_peek, getElem?_peek]
  by_cases hi : i < k
  · rw [if_pos hi, if_pos hi, h.same (off + i) (by omega)]
  · rw [if_neg hi, if_neg hi]

/-- Such a hop decides nothing about ingress. Kind: L -/
theorem IpHop.skips {q r : Frame} (h : IpHop q r) (hs : IngressSkips q) : IngressSkips r := by
  have hnext : ipNexthdr r = ipNexthdr q :=
    byteAt_of_peek_eq (h.peek_eq (k := 1) (by omega)) Nat.zero_lt_one
  have hdst : ipDaddr r = ipDaddr q := h.peek_eq (by omega)
  unfold IngressSkips
  rw [h.length, h.peek_eq (by omega), hnext, hdst]
  exact hs

variable {ι : Type*}

/-- A border router gets a frame that is addressed to it, and sends it to another router or to the
host the SCION header names as destination. Kind: D -/
structure ScionHop (T : Topology ι) (q r : Frame) : Prop where
  router : T.router (ipDaddr q)
  inTransit : InTransit (4 * (sciLen q).toNat - 60) q r
  next : T.router (ipDaddr r) ∨ ipDaddr r = peek r 90 16

/-- What is relied on of the daemon: as for the cache, and that next hops are border routers.
Kind: D -/
structure DaemonOk (T : Topology ι) (queryPaths : QueryPaths) : Prop where
  query : QueryOk queryPaths
  nextHop : ∀ dst, ∀ path ∈ (queryPaths dst).1, T.router path.nextHop.getIPv6.toList

/-- A frame reaches the host that owns its destination; one that is not IPv6 reaches any.
Kind: D -/
def Reaches (T : Topology ι) (j : ι) (q : Frame) : Prop :=
  peek q 12 2 = [0x86, 0xDD] → T.owns j (ipDaddr q)

/-- Source: `egress.bpf.c`, `PATH_ENTRIES`. Kind: D -/
def PATH_ENTRIES : ℕ := 4096

/-- What `bpf_map__update_elem` returns for `path_map`: a full map takes no new key. Kind: D -/
def UpdateRetOk (pathMap : PathMap) (key : ScionAddr) (updateRet : ℤ) : Prop :=
  key ∉ keys pathMap → PATH_ENTRIES ≤ (keys pathMap).ncard → updateRet < 0

/-- **The hosts as parties of a network.** Source: `egress.bpf.c`, `ingress.bpf.c`,
`PathService.cxx`, on each host. Kind: D -/
def translators (T : Topology ι) : Parties ι CacheState Frame Frame Frame where
  initially _ c := c = ⟨fun _ => none, []⟩
  own i c c' := ∃ key pending queryPaths updateRet, c.pathReq = key :: pending ∧
    DaemonOk T queryPaths ∧ UpdateRetOk c.pathMap key updateRet ∧
    c' = ⟨reqHandler (T.endian i) queryPaths updateRet c.pathMap key, pending⟩
  submit i p c c' ms := ∃ (h : TcHelpers) (pushed : Bool),
    c' = { c with
      pathReq := c.pathReq ++
        if pushed then (scionEgress (T.endian i) h c.pathMap p).request.toList else [] } ∧
    ms = if (scionEgress (T.endian i) h c.pathMap p).verdict = .TC_ACT_OK then
      [(scionEgress (T.endian i) h c.pathMap p).frame] else []
  receive j q c c' gs := Reaches T j q ∧ c' = c ∧ ∃ x,
    gs = if (scionIngress (T.endian j) x q).verdict = .XDP_PASS then
      [(scionIngress (T.endian j) x q).frame] else []
  hop q r := IpHop q r ∨ ScionHop T q r
  duplicates := T.duplicates

/-! ## What is carried -/

/-- The cache of a host is right, and its entries lead to border routers. Kind: D -/
structure HostOk (T : Topology ι) (i : ι) (c : CacheState) : Prop where
  cache : CacheOk (T.endian i) c.pathMap
  routed : ∀ key entry, c.pathMap key = some entry → T.router entry.routerAddr.toList

/-- What a frame `q` underway has of the frame `p` that host `i` sent: if `p` was translated, all
that ingress reads, and an address of a router or the destination of `p`; if it was forwarded and
is not for a router, everything but MAC addresses and hop limit. Kind: D -/
structure Carries (T : Topology ι) (x : ι × Frame) (q : Frame) : Prop where
  translated : ¬ EgressForwards (T.endian x.1) x.2 →
    ∃ n, Received n x.2 q ∧ (T.router (ipDaddr q) ∨ ipDaddr q = ipDaddr x.2)
  forwarded : EgressForwards (T.endian x.1) x.2 → ¬ T.router (ipDaddr x.2) → IpHop x.2 q

/-- **What the stack of host `j` is handed as `g` when host `i` sent `p`**: the packet of `p`, at a
host that owns its destination, if `p` was translated; `p` as it was, if it was forwarded, is not
for a router, and does not have the form of a packet to decapsulate. Kind: D -/
structure Explains (T : Topology ι) (x y : ι × Frame) : Prop where
  translated : ¬ EgressForwards (T.endian x.1) x.2 →
    SamePacket x.2 y.2 ∧ T.owns y.1 (ipDaddr x.2)
  forwarded : EgressForwards (T.endian x.1) x.2 → ¬ T.router (ipDaddr x.2) → IngressSkips x.2 →
    IpHop x.2 y.2 ∧ Reaches T y.1 x.2

/-- Handling one request keeps the entries leading to routers. Kind: L -/
theorem HostOk.reqHandler {T : Topology ι} {i : ι} {c : CacheState} (h : HostOk T i c)
    {queryPaths : QueryPaths} (hq : DaemonOk T queryPaths) (updateRet : ℤ) (key : ScionAddr)
    (pending : List ScionAddr) :
    HostOk T i ⟨Ebpf.reqHandler (T.endian i) queryPaths updateRet c.pathMap key, pending⟩ := by
  refine ⟨h.cache.reqHandler hq.query updateRet key, ?_⟩
  intro k entry hk
  unfold Ebpf.reqHandler insertPaths at hk
  rcases hp : getPaths queryPaths key with _ | ⟨path, paths⟩
  · rw [hp] at hk
    exact h.routed k entry hk
  · simp only [hp] at hk
    split_ifs at hk
    · exact h.routed k entry hk
    · by_cases hkey : k = key
      · subst hkey
        rw [Function.update_self] at hk
        obtain rfl := Option.some.inj hk
        rw [pathToMapEntry_routerAddr]
        refine hq.nextHop (getPathsDst k) path ?_
        rw [getPaths] at hp
        simp [hp]
      · rw [Function.update_of_ne hkey] at hk
        exact h.routed k entry hk

/-- A frame that egress translates is carried by what it emits. Kind: L -/
theorem HostOk.carries {T : Topology ι} {i : ι} {c : CacheState} (hc : HostOk T i c)
    {h : TcHelpers} {p : Frame} {entry : PathMapEntry}
    (ht : EgressTranslates (T.endian i) h c.pathMap p entry) :
    ∃ n, Received n p (egressOutput (T.endian i) h entry p) ∧
      T.router (ipDaddr (egressOutput (T.endian i) h entry p)) := by
  obtain ⟨path, -, hfit, rfl⟩ := hc.cache _ _ ht.hit
  have hlay := egressOutput_layout ht (pathToMapEntry_consistent _ hfit)
  refine ⟨path.dp.length, (InTransit.refl _ _).received hfit ht.notForwarded hlay, ?_⟩
  rw [hlay.daddr]
  exact hc.routed _ _ ht.hit

/-- What a host sends carries what it was handed. Kind: L -/
theorem HostOk.submit {T : Topology ι} {i : ι} {c : CacheState} (hc : HostOk T i c) (h : TcHelpers)
    (p : Frame) (hok : (scionEgress (T.endian i) h c.pathMap p).verdict = .TC_ACT_OK) :
    Carries T (i, p) (scionEgress (T.endian i) h c.pathMap p).frame := by
  rcases scionEgress_cases (T.endian i) h c.pathMap p with ⟨hf, heq⟩ | ⟨-, -, heq⟩ |
    ⟨_, -, -, -, hv, -⟩ | ⟨entry, ht, heq⟩
  · rw [heq]
    exact ⟨fun hn => absurd hf hn, fun _ _ => ⟨rfl, fun _ _ => rfl⟩⟩
  · rw [heq] at hok
    cases hok
  · rw [hv] at hok
    cases hok
  · rw [heq]
    obtain ⟨n, hrec, hrouter⟩ := hc.carries ht
    exact ⟨fun _ => ⟨n, hrec, Or.inl hrouter⟩, fun hf => absurd hf ht.notForwarded⟩

/-- A hop keeps what is carried. Kind: L -/
theorem Carries.hop {T : Topology ι} {x : ι × Frame} {q r : Frame} (h : Carries T x q)
    (hr : IpHop q r ∨ ScionHop T q r) : Carries T x r := by
  rcases hr with hip | hsci
  · refine ⟨fun hn => ?_, fun hf hrouter => (h.forwarded hf hrouter).trans hip⟩
    obtain ⟨n, hrec, hdst⟩ := h.translated hn
    have hdaddr : ipDaddr r = ipDaddr q := hip.peek_eq (by omega)
    exact ⟨n, hrec.inTransit (hip.inTransit n), by rwa [hdaddr]⟩
  · refine ⟨fun hn => ?_, fun hf hrouter => ?_⟩
    · obtain ⟨n, hrec, -⟩ := h.translated hn
      have hit := hsci.inTransit
      rw [hrec.pathLen] at hit
      have hrec' := hrec.inTransit hit
      refine ⟨n, hrec', hsci.next.imp_right fun hdst => ?_⟩
      rw [hdst, hrec'.dstHost]
    · -- a router is addressed, so the frame was addressed to a router when it was sent
      have hdaddr : ipDaddr q = ipDaddr x.2 := (h.forwarded hf hrouter).peek_eq (by omega)
      exact absurd (hdaddr ▸ hsci.router) hrouter

/-- What arrives explains what is delivered. Kind: L -/
theorem Carries.receive {T : Topology ι} {x : ι × Frame} {q : Frame} (h : Carries T x q) {j : ι}
    (hreach : Reaches T j q) (helpers : XdpHelpers)
    (hpass : (scionIngress (T.endian j) helpers q).verdict = .XDP_PASS) :
    Explains T x (j, (scionIngress (T.endian j) helpers q).frame) := by
  constructor
  · intro hn
    obtain ⟨n, hrec, hdst⟩ := h.translated hn
    have hown := hreach hrec.ipv6
    have hdaddr := hdst.resolve_left (T.apart j _ hown)
    have hmatch : scionPrefixMatch (ipDaddr q) = true := by
      rw [hdaddr]
      exact scionPrefixMatch_of_not_forwards hn
    have hp := length_of_not_forwards hn
    rcases scionIngress_of_not_skips (T.endian j) helpers
      (hrec.not_skips (by omega) hmatch) with ⟨-, -, -, hlay⟩ | ⟨-, hdrop⟩
    · exact ⟨hrec.samePacket hp hlay, hdaddr ▸ hown⟩
    · rw [hpass] at hdrop
      cases hdrop
  · intro hf hrouter hskip
    have hip := h.forwarded hf hrouter
    rw [scionIngress_eq, if_pos (hip.skips hskip)]
    refine ⟨hip, fun htype => ?_⟩
    have hdaddr : ipDaddr q = ipDaddr x.2 := hip.peek_eq (by omega)
    rw [← hdaddr]
    exact hreach (by rw [hip.peek_eq (by omega), htype])

/-- **The hosts and routers account for every frame.** Kind: P -/
theorem translators_explained (T : Topology ι) :
    Explained (translators T) (HostOk T) (Carries T) (Explains T) where
  initially i c hc := by
    rw [show c = ⟨fun _ => none, []⟩ from hc]
    exact ⟨fun _ _ h => by simp at h, fun _ _ h => by simp at h⟩
  own i c c' hgood hstep := by
    obtain ⟨key, pending, queryPaths, updateRet, -, hq, -, rfl⟩ := hstep
    exact hgood.reqHandler hq updateRet key pending
  submit i p c c' ms hgood hstep := by
    obtain ⟨h, pushed, rfl, rfl⟩ := hstep
    refine ⟨⟨hgood.cache, hgood.routed⟩, fun m hm => ?_⟩
    split_ifs at hm with hok
    · rw [List.mem_singleton.mp hm]
      exact hgood.submit h p hok
    · cases hm
  hop x m m' hcarries hhop := hcarries.hop hhop
  receive x m j c c' bs hgood hcarries hstep := by
    obtain ⟨hreach, rfl, helpers, rfl⟩ := hstep
    refine ⟨hgood, fun b hb => ?_⟩
    split_ifs at hb with hpass
    · rw [List.mem_singleton.mp hb]
      exact hcarries.receive hreach helpers hpass
    · cases hb

/-- A host makes at most one frame of a frame. Kind: L -/
theorem translators_single {T : Topology ι} (hd : ¬ T.duplicates) : Single (translators T) where
  submit i p c c' ms hstep := by
    obtain ⟨h, pushed, -, rfl⟩ := hstep
    split_ifs <;> simp
  receive j q c c' gs hstep := by
    obtain ⟨-, -, helpers, rfl⟩ := hstep
    split_ifs <;> simp
  once := hd

/-- The helpers of a device that has room for everything. Kind: D -/
def roomyTc : TcHelpers := ⟨fun _ _ => 0, fun _ _ => 0, fun _ => 0⟩

/-- A frame for a cached destination is translated there. Kind: L -/
theorem HostOk.translates {T : Topology ι} {i : ι} {c : CacheState} (hc : HostOk T i c) {p : Frame}
    (hp : ¬ EgressForwards (T.endian i) p) {entry : PathMapEntry}
    (hit : c.pathMap (getMapKey (T.endian i) (ipDaddr p)) = some entry) :
    EgressTranslates (T.endian i) roomyTc c.pathMap p entry := by
  obtain ⟨path, -, hfit, rfl⟩ := hc.cache _ _ hit
  have hlen := length_of_not_forwards hp
  have hhdr := pathToMapEntry_len (T.endian i) hfit
  exact ⟨hp, hit, rfl, le_refl _, by omega⟩

/-- A daemon that answers every question with one path, made to lead where it is asked for.
Kind: D -/
def obligingDaemon (path : Path) : QueryPaths := fun dst => ([{ path with dst := dst }], true)

/-- A daemon that knows no path. Kind: D -/
def silentDaemon : QueryPaths := fun _ => ([], true)

/-- The daemon is all right if the path is. Kind: L -/
theorem obligingDaemon_ok {T : Topology ι} {path : Path} (hfit : path.Fits)
    (hrouter : T.router path.nextHop.getIPv6.toList) : DaemonOk T (obligingDaemon path) := by
  constructor
  · intro dst p hp
    rw [List.mem_singleton.mp hp]
    exact ⟨rfl, hfit.words, hfit.size⟩
  · intro dst p hp
    rw [List.mem_singleton.mp hp]
    exact hrouter

/-- The daemon that knows no path is all right. Kind: L -/
theorem silentDaemon_ok (T : Topology ι) : DaemonOk T silentDaemon :=
  ⟨fun _ _ hp => absurd hp List.not_mem_nil, fun _ _ hp => absurd hp List.not_mem_nil⟩

variable [DecidableEq ι]

/-! ## Delivery from any state -/

/-- **The requests of a host can be got out of the way**: answers without a path leave the map
alone. The induction is on the requests. Kind: L -/
theorem requests_drained (T : Topology ι) (i : ι) (pending : List ScionAddr)
    (s : NetworkState ι CacheState Frame Frame Frame) (hreq : (s.party i).pathReq = pending) :
    Relation.ReflTransGen (network (translators T)).step s
      (s.setParty i ⟨(s.party i).pathMap, []⟩) := by
  induction pending generalizing s with
  | nil =>
    have hsame : (⟨(s.party i).pathMap, []⟩ : CacheState) = s.party i := by
      rw [← hreq]
    rw [hsame, NetworkState.setParty_party]
  | cons key pending ih =>
    have hfirst : (network (translators T)).step s (s.setParty i ⟨(s.party i).pathMap, pending⟩) :=
      .own s i _
        ⟨key, pending, silentDaemon, -1, hreq, silentDaemon_ok T, fun _ _ => by decide, rfl⟩
    have hrest := ih (s.setParty i ⟨(s.party i).pathMap, pending⟩) (by simp)
    rw [NetworkState.setParty_self, NetworkState.setParty_setParty] at hrest
    exact .head hfirst hrest

/-- **From any state, a destination can get into the cache**, if the map has room for it: a request
that nobody stands before is answered. Kind: L -/
theorem cached_from (T : Topology ι) (i : ι) {path : Path} (hfit : path.Fits)
    (hrouter : T.router path.nextHop.getIPv6.toList)
    (s : NetworkState ι CacheState Frame Frame Frame) (hs : HostOk T i (s.party i)) {p : Frame}
    (hp : ¬ EgressForwards (T.endian i) p)
    (hroom : getMapKey (T.endian i) (ipDaddr p) ∈ keys (s.party i).pathMap ∨
      (keys (s.party i).pathMap).ncard < PATH_ENTRIES) :
    ∃ t, Relation.ReflTransGen (network (translators T)).step s t ∧ HostOk T i (t.party i) ∧
      ∃ entry, (t.party i).pathMap (getMapKey (T.endian i) (ipDaddr p)) = some entry := by
  set pathMap := (s.party i).pathMap with hmap
  set key := getMapKey (T.endian i) (ipDaddr p) with hkey
  cases hmiss : pathMap key with
  | some entry => exact ⟨s, .refl, hs, entry, hmiss⟩
  | none =>
    have hempty : HostOk T i ⟨pathMap, [key]⟩ := ⟨hs.cache, hs.routed⟩
    -- the frame is lost, and leaves its request
    have hrun := scionEgress_of_not_forwards hp roomyTc pathMap
    rw [← hkey, hmiss] at hrun
    have hask := NetworkStep.submit (P := translators T) (s.setParty i ⟨pathMap, []⟩) i p
      ⟨pathMap, [key]⟩ [] ⟨roomyTc, true, by simp [hrun], by simp [hrun]⟩
    set t : NetworkState ι CacheState Frame Frame Frame :=
      { (s.setParty i ⟨pathMap, []⟩).setParty i ⟨pathMap, [key]⟩ with
        wire := ([] : List Frame).map (Prod.mk (i, p)) ++ (s.setParty i ⟨pathMap, []⟩).wire
        submitted := (i, p) :: (s.setParty i ⟨pathMap, []⟩).submitted } with ht
    have hparty : t.party i = ⟨pathMap, [key]⟩ := by
      simp [ht, NetworkState.setParty]
    have hcount : (keys pathMap).ncard < PATH_ENTRIES :=
      hroom.resolve_left fun hmem => hmem hmiss
    have hupdate : UpdateRetOk pathMap key 0 := fun _ hfull => absurd hfull (not_le.mpr hcount)
    have hanswer : (network (translators T)).step t (t.setParty i
        ⟨reqHandler (T.endian i) (obligingDaemon path) 0 pathMap key, []⟩) :=
      .own t i _ ⟨key, [], obligingDaemon path, 0, by rw [hparty],
        obligingDaemon_ok hfit hrouter, by rwa [hparty], by rw [hparty]⟩
    refine ⟨_, ((requests_drained T i _ s rfl).tail hask).tail hanswer, ?_⟩
    rw [NetworkState.setParty_self]
    refine ⟨hempty.reqHandler (obligingDaemon_ok hfit hrouter) 0 key [],
      pathToMapEntry (T.endian i) { path with dst := getPathsDst key }, ?_⟩
    simp [reqHandler, insertPaths, getPaths, obligingDaemon]

/-- **A frame gets through**: from any state with good hosts, a frame that is to be translated can
reach a host that owns its destination, provided some path fits and the map has room for it.
Kind: P -/
theorem delivery_run {T : Topology ι} {s : NetworkState ι CacheState Frame Frame Frame}
    (hs : ∀ i, HostOk T i (s.party i)) {i j : ι} {p : Frame} (hp : ¬ EgressForwards (T.endian i) p)
    (hown : T.owns j (ipDaddr p)) {path : Path} (hfit : path.Fits)
    (hrouter : T.router path.nextHop.getIPv6.toList)
    (hroom : getMapKey (T.endian i) (ipDaddr p) ∈ keys (s.party i).pathMap ∨
      (keys (s.party i).pathMap).ncard < PATH_ENTRIES) :
    ∃ t, Relation.ReflTransGen (network (translators T)).step s t ∧
      ∃ g, ((i, p), j, g) ∈ t.delivered ∧ SamePacket p g := by
  obtain ⟨t, hst, ht, entry, hentry⟩ := cached_from T i hfit hrouter s (hs i) hp hroom
  have htrans := ht.translates hp hentry
  obtain ⟨n, hrec, hnext⟩ := ht.carries htrans
  set out := egressOutput (T.endian i) roomyTc entry p with hout
  have hp62 := length_of_not_forwards hp
  -- it is sent, and the router it is addressed to sends it on to its destination
  have hsend := NetworkStep.submit (P := translators T) t i p _ _ ⟨roomyTc, false, rfl, rfl⟩
  rw [htrans.rewrites] at hsend
  have hrouted := hrec.routed hp62
  have hhop : ScionHop T out (poke out 38 (ipDaddr p)) := by
    refine ⟨hnext, ?_, Or.inr ?_⟩
    · rw [hrec.pathLen]
      exact .setDaddr n out (@length_ipDaddr p (by omega))
    · rw [hrouted.1.dstHost, hrouted.2]
  have hpass := hrouted.1.decapsulated hp62
    (by rw [hrouted.2]; exact scionPrefixMatch_of_not_forwards hp) (T.endian j)
  refine ⟨_, ((hst.tail hsend).tail (.hop _ [] t.wire (i, p) out _ rfl (Or.inr hhop))).tail
    (.receive _ [] t.wire (i, p) _ j _ _ rfl ⟨?_, rfl, ⟨fun _ _ => 0⟩, rfl⟩), _, ?_, hpass.2⟩
  · intro _
    rwa [hrouted.2]
  · simp [hpass.1]

/-! ## A sample network -/

/-- Two hosts of different byte order, one in `1-64512` and one in `1-64513`, and the border router
of the former. Kind: D -/
def sampleTopology : Topology Bool where
  endian i := if i then .big else .little
  owns i a := a = if i then sampleDaddr else ipSaddr sampleFrame
  router a := a = sampleNextHop.getIPv6.toList
  duplicates := False
  apart i a ha := by
    rw [ha]
    cases i <;> decide

/-- The network before anything is sent. Kind: D -/
def sampleNetwork : NetworkState Bool CacheState Frame Frame Frame :=
  ⟨fun _ => ⟨fun _ => none, []⟩, [], [], []⟩

/-- It is a state of the sample topology. Kind: L -/
theorem sampleNetwork_reachable : (network (translators sampleTopology)).Reachable sampleNetwork :=
  .init ⟨fun _ => rfl, rfl, rfl, rfl⟩

/-- Its maps have room. Kind: L -/
theorem sampleNetwork_room {key : ScionAddr} : key ∈ keys (sampleNetwork.party false).pathMap ∨
    (keys (sampleNetwork.party false).pathMap).ncard < PATH_ENTRIES := by
  right
  simp [sampleNetwork, PATH_ENTRIES]

/-- The sample path fits. Kind: L -/
theorem samplePath_fits : samplePath.Fits := ⟨by decide, by decide⟩

/-! ## Over whole runs -/

/-- **Whatever the interleaving, frames arrive as they were sent**: each delivery goes back to a
frame that a host sent and that explains it, and on a network that does not duplicate, different
deliveries go back to different frames. Kind: P -/
theorem frames_arrive_intact {T : Topology ι} {s : NetworkState ι CacheState Frame Frame Frame}
    (hs : (network (translators T)).Reachable s) :
    (∀ d ∈ s.delivered, d.1 ∈ s.submitted ∧ Explains T d.1 d.2) ∧
      (¬ T.duplicates → labels s.delivered ≤ ↑s.submitted) := by
  refine ⟨((translators_explained T).reachable hs).delivered, fun hd => ?_⟩
  exact (translators_single hd).submissions_le hs

/-- A run of the sample network in which the sample datagram arrives. Kind: C -/
theorem frames_arrive_intact_sample :
    ∃ s, (network (translators sampleTopology)).Reachable s ∧
      ∃ d ∈ s.delivered, d.1 = (false, sampleFrame) ∧ SamePacket sampleFrame d.2.2 := by
  have hfwd : ¬ EgressForwards .little sampleFrame := by decide
  have hgood : ∀ i, HostOk sampleTopology i (sampleNetwork.party i) := fun i =>
    (translators_explained sampleTopology).initially i _ rfl
  obtain ⟨t, hrun, g, hg, -⟩ := @delivery_run Bool _ sampleTopology sampleNetwork hgood false true
    sampleFrame hfwd rfl samplePath samplePath_fits rfl sampleNetwork_room
  have ht := sampleNetwork_reachable.run hrun
  obtain ⟨hall, -⟩ := frames_arrive_intact ht
  exact ⟨t, ht, _, hg, rfl, ((hall _ hg).2.translated hfwd).1⟩

/-- **Delivery stays possible** while the map has room: no run leads to a state from which a frame
that is to be translated, and for whose destination the daemon could have a path, cannot be
delivered. Kind: P -/
theorem delivery_stays_possible {T : Topology ι}
    {s : NetworkState ι CacheState Frame Frame Frame} (hs : (network (translators T)).Reachable s)
    {i j : ι} {p : Frame} (hp : ¬ EgressForwards (T.endian i) p) (hown : T.owns j (ipDaddr p))
    {path : Path} (hfit : path.Fits) (hrouter : T.router path.nextHop.getIPv6.toList)
    (hroom : getMapKey (T.endian i) (ipDaddr p) ∈ keys (s.party i).pathMap ∨
      (keys (s.party i).pathMap).ncard < PATH_ENTRIES) :
    ∃ t, Relation.ReflTransGen (network (translators T)).step s t ∧
      ∃ g, ((i, p), j, g) ∈ t.delivered ∧ SamePacket p g :=
  delivery_run ((translators_explained T).reachable hs).party hp hown hfit hrouter hroom

/-- On the sample network, with empty caches. Kind: C -/
theorem delivery_stays_possible_sample :
    ∃ t, Relation.ReflTransGen (network (translators sampleTopology)).step sampleNetwork t ∧
      ∃ g, ((false, sampleFrame), true, g) ∈ t.delivered ∧ SamePacket sampleFrame g :=
  @delivery_stays_possible Bool _ sampleTopology sampleNetwork sampleNetwork_reachable false true
    sampleFrame (by decide) rfl samplePath samplePath_fits rfl sampleNetwork_room

end ScionIp.Ebpf
