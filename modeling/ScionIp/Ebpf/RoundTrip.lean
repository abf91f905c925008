import ScionIp.Ebpf.Ingress
import ScionIp.Ebpf.PathService

/-!
# Egress and ingress are inverse on the inner packet

A frame translated on the sending host, changed on its way only where routers and the network
below SCION may change it, is translated back on the receiving host to a frame with the original
addresses, next header, payload length and bytes behind the IPv6 header.

* `Rewrites` — what a run of `scion_egress` that translates looks like from outside; by
  `scionEgress_rewrites` it comes from `EgressTranslates`.
* `InTransit n` — the changes allowed between the two hosts, for a path of `n` bytes; `Received n` —
  what they leave for `scion_ingress` to read.
* `scionIngress_scionEgress` — the round trip. The two hosts may differ in byte order.
-/

namespace ScionIp.Ebpf

open ScionIp.Lib

/-- The run translated its frame: it returned `TC_ACT_OK` with another frame. Kind: D -/
def Rewrites (f : Frame) (r : TcResult) : Prop := r.verdict = .TC_ACT_OK ∧ r.frame ≠ f

/-- A run rewrites its frame exactly when it translates it, and then emits `egressOutput`.
Kind: L -/
theorem scionEgress_rewrites {e : Endian} {h : TcHelpers} {pathMap : PathMap} {f : Frame}
    (hr : Rewrites f (scionEgress e h pathMap f)) :
    ∃ path, EgressTranslates e h pathMap f path ∧
      scionEgress e h pathMap f = ⟨.TC_ACT_OK, egressOutput e h path f, none⟩ := by
  obtain ⟨hok, hne⟩ := hr
  rcases scionEgress_cases e h pathMap f with ⟨-, heq⟩ | ⟨-, -, heq⟩ | ⟨path, -, -, -, hv, -⟩ |
    ⟨path, ht, heq⟩
  · exact absurd (by rw [heq]) hne
  · rw [heq] at hok
    cases hok
  · rw [hv] at hok
    cases hok
  · exact ⟨path, ht, heq⟩

/-- A translating run does rewrite its frame. Kind: L -/
theorem EgressTranslates.rewrites {e : Endian} {h : TcHelpers} {pathMap : PathMap} {f : Frame}
    {path : PathMapEntry} (ht : EgressTranslates e h pathMap f path) :
    scionEgress e h pathMap f = ⟨.TC_ACT_OK, egressOutput e h path f, none⟩ := by
  rcases scionEgress_cases e h pathMap f with ⟨hf, -⟩ | ⟨-, hmiss, -⟩ | ⟨path', -, hit, hn, -⟩ |
    ⟨path', ht', heq⟩
  · exact absurd hf ht.notForwarded
  · rw [ht.hit] at hmiss
    cases hmiss
  · rw [ht.hit] at hit
    cases hit
    exact absurd ht hn
  · have hit := ht'.hit
    rw [ht.hit] at hit
    cases hit
    exact heq

/-- The bytes that may change between the two hosts: MAC addresses, hop limit, both underlay
addresses, the underlay UDP header and the `n` path bytes. Kind: D -/
def MayChange (n i : ℕ) : Prop := i < 12 ∨ (21 ≤ i ∧ i < 62) ∨ (122 ≤ i ∧ i < 122 + n)

/-- `q` is `p` after transit over a path of `n` bytes. Kind: D -/
structure InTransit (n : ℕ) (p q : Frame) : Prop where
  length : q.length = p.length
  same : ∀ i, ¬ MayChange n i → q[i]? = p[i]?

/-- A read of bytes that do not change. Kind: L -/
theorem InTransit.peek_eq {n : ℕ} {p q : Frame} (h : InTransit n p q) {off k : ℕ}
    (hk : ∀ i, off ≤ i → i < off + k → ¬ MayChange n i) : peek q off k = peek p off k := by
  apply List.ext_getElem?
  intro i
  rw [getElem?_peek, getElem?_peek]
  by_cases hi : i < k
  · rw [if_pos hi, if_pos hi, h.same (off + i) (hk (off + i) (by omega) (by omega))]
  · rw [if_neg hi, if_neg hi]

/-- A byte that does not change. Kind: L -/
theorem InTransit.byteAt_eq {n : ℕ} {p q : Frame} (h : InTransit n p q) {i : ℕ}
    (hi : ¬ MayChange n i) : byteAt q i = byteAt p i := by
  simp only [byteAt, List.getD_eq_getElem?_getD, h.same i hi]

/-- The bytes behind the path do not change. Kind: L -/
theorem InTransit.drop_eq {n : ℕ} {p q : Frame} (h : InTransit n p q) :
    q.drop (122 + n) = p.drop (122 + n) := by
  apply List.ext_getElem?
  intro i
  rw [List.getElem?_drop, List.getElem?_drop, h.same _ (by unfold MayChange; omega)]

/-- Nothing changed. Kind: L -/
theorem InTransit.refl (n : ℕ) (p : Frame) : InTransit n p p := ⟨rfl, fun _ _ => rfl⟩

/-- A node on the way writes bytes that may change. Kind: L -/
theorem InTransit.poke {n : ℕ} {p q : Frame} (h : InTransit n p q) {off : ℕ} {v : Bytes}
    (hv : ∀ i, off ≤ i → i < off + v.length → MayChange n i) :
    InTransit n p (poke q off v) where
  length := by rw [length_poke, h.length]
  same i hi := by
    rw [getElem?_poke, if_neg, h.same i hi]
    rintro ⟨h1, h2, -⟩
    exact hi (hv i h1 h2)

/-- **A frame `q` that arrives for the frame `p`**, over a path of `n` bytes: what `scion_ingress`
reads of it. Kind: D -/
structure Received (n : ℕ) (p q : Frame) : Prop where
  length : q.length = p.length + 68 + n
  ipv6 : peek q 12 2 = [0x86, 0xDD]
  nexthdr : ipNexthdr q = NEXTHDR_UDP
  hdrLen : 4 * (sciLen q).toNat = 60 + n
  next : byteAt q 66 = ipNexthdr p
  payload : peek q 68 2 = peek p 18 2
  dstHost : peek q 90 16 = ipDaddr p
  srcHost : peek q 106 16 = ipSaddr p
  tail : q.drop (122 + n) = p.drop 54

/-- A translated frame arrives with everything ingress reads. Kind: L -/
theorem InTransit.received {e : Endian} {path : Path} (hfit : path.Fits) {p out q : Frame}
    (hfwd : ¬ EgressForwards e p) (hlay : EgressLayout e (pathToMapEntry e path) p out)
    (hq : InTransit path.dp.length out q) : Received path.dp.length p q := by
  have hp := length_of_not_forwards hfwd
  have hlen := pathToMapEntry_len e hfit
  -- the header fields of `q` that ingress reads
  have hhdr : ∀ off k, off + k ≤ 28 →
      peek q (62 + off) k =
        peek ((writeScionhdr e (pathToMapEntry e path).header p).bytes e) off k := by
    intro off k hk
    rw [hq.peek_eq (fun i hi hi' => by unfold MayChange; omega), ← hlay.scionhdr, peek_peek _ hk]
  have hbyte : ∀ i, i < 28 →
      byteAt q (62 + i) = byteAt ((writeScionhdr e (pathToMapEntry e path).header p).bytes e) i :=
    fun i hi => byteAt_of_peek_eq (hhdr i 1 (by omega)) Nat.zero_lt_one
  constructor
  case length =>
    rw [hq.length, hlay.length]
    omega
  case ipv6 =>
    have hp2 : ¬ peek p 12 2 ≠ [0x86, 0xDD] := fun hc => hfwd (Or.inr (Or.inl hc))
    rw [hq.peek_eq (fun i hi hi' => by unfold MayChange; omega),
      ← @peek_peek out 0 18 12 2 (by omega), hlay.head, peek_peek _ (by omega)]
    exact not_not.mp hp2
  case nexthdr =>
    rw [ipNexthdr, hq.byteAt_eq (by unfold MayChange; omega)]
    exact hlay.nexthdr
  case hdrLen => rw [sciLen, hbyte 5 (by omega), ScionHdr.bytes_len, writeScionhdr_len, hlen]
  case next => rw [hbyte 4 (by omega), ScionHdr.bytes_next, writeScionhdr_next]
  case payload =>
    rw [hhdr 6 2 (by omega), ScionHdr.bytes_payload, writeScionhdr_payload, ipPayloadLen,
      storeU16_loadU16 (length_peek (by omega))]
  case dstHost => rw [hq.peek_eq (fun i hi hi' => by unfold MayChange; omega), hlay.dstHost]
  case srcHost => rw [hq.peek_eq (fun i hi hi' => by unfold MayChange; omega), hlay.srcHost]
  case tail =>
    have htail := hlay.tail
    rw [pathToMapEntry_pathLen e hfit] at htail
    rw [hq.drop_eq, htail]

/-- Such a frame takes no early exit of ingress. Kind: L -/
theorem Received.not_skips {n : ℕ} {p q : Frame} (h : Received n p q) (hp : 54 ≤ p.length)
    (hmatch : scionPrefixMatch (ipDaddr q) = true) : ¬ IngressSkips q := by
  have hlen := h.length
  rintro (hshort | htype | hicmp | htcp | hrange)
  · omega
  · exact htype h.ipv6
  · rw [h.nexthdr] at hicmp
    cases hicmp
  · rw [h.nexthdr] at htcp
    cases htcp
  · rw [hmatch] at hrange
    cases hrange

/-- **Egress, transit and ingress restore the inner packet.** A frame `p` rewritten with the entry
of a path that fits, received as `q`, is passed as a frame with the addresses, next header,
payload length and upper-layer bytes of `p`. Kind: P -/
theorem scionIngress_scionEgress {e e' : Endian} {h : TcHelpers} {x : XdpHelpers}
    {pathMap : PathMap} {path : Path} {p q : Frame} (hwords : path.dp.length % 4 = 0)
    (hsize : path.dp.length ≤ 960)
    (hentry : pathMap (getMapKey e (ipDaddr p)) = some (pathToMapEntry e path))
    (hrw : Rewrites p (scionEgress e h pathMap p))
    (hq : InTransit path.dp.length (scionEgress e h pathMap p).frame q)
    (hmatch : scionPrefixMatch (ipDaddr q) = true)
    (hadjust : ∀ n d, 0 ≤ x.bpfXdpAdjustHead n d) :
    (scionIngress e' x q).verdict = .XDP_PASS ∧
      ipSaddr (scionIngress e' x q).frame = ipSaddr p ∧
      ipDaddr (scionIngress e' x q).frame = ipDaddr p ∧
      ipNexthdr (scionIngress e' x q).frame = ipNexthdr p ∧
      peek (scionIngress e' x q).frame 18 2 = peek p 18 2 ∧
      (scionIngress e' x q).frame.length = p.length ∧
      (scionIngress e' x q).frame.drop 54 = p.drop 54 := by
  have hfit : path.Fits := ⟨hwords, hsize⟩
  obtain ⟨entry, ht, heq⟩ := scionEgress_rewrites hrw
  obtain rfl : pathToMapEntry e path = entry := Option.some.inj (hentry.symm.trans ht.hit)
  rw [heq] at hq
  have hp := length_of_not_forwards ht.notForwarded
  have hrec := hq.received hfit ht.notForwarded
    (egressOutput_layout ht (pathToMapEntry_consistent e hfit))
  have hlen := hrec.length
  have hhdr := hrec.hdrLen
  rcases scionIngress_of_not_skips e' x (hrec.not_skips (by omega) hmatch) with
    ⟨-, -, hv, hdec⟩ | ⟨hbad, -⟩
  · refine ⟨hv, hdec.saddr.trans hrec.srcHost, hdec.daddr.trans hrec.dstHost,
      hdec.nexthdr.trans hrec.next, hdec.payloadLen.trans hrec.payload, ?_, ?_⟩
    · rw [hdec.length]
      omega
    · rw [hdec.tail, hhdr, ← Nat.add_assoc, hrec.tail]
  · exfalso
    rcases hbad with hshort | hroom
    · omega
    · exact absurd hroom (not_lt.mpr (hadjust _ _))

/-! ## A sample run -/

/-- A UDP datagram from a host in `1-64512`. Kind: D -/
def udpDatagram (daddr payload : Bytes) : Frame :=
  [2, 0, 0, 0, 0, 2, 2, 0, 0, 0, 0, 1, 0x86, 0xDD] ++
  ([0x60, 0, 0, 0] ++ toBE 2 (8 + payload.length) ++ [17, 64]) ++
  [0xFC, 0, 0x10, 0xFC, 0, 0, 0, 0, 0, 0, 0, 0, 0, 0, 0, 1] ++ daddr ++
  ([0x03, 0xE8, 0x07, 0xD0] ++ toBE 2 (8 + payload.length) ++ [0, 0]) ++ payload

/-- A host in `1-64513`. Kind: D -/
def sampleDaddr : Bytes := [0xFC, 0, 0x10, 0xFC, 1, 0, 0, 0, 0, 0, 0, 0, 0, 0, 0, 2]

/-- A datagram of four bytes between the two ASes. Kind: D -/
def sampleFrame : Frame := udpDatagram sampleDaddr [0xDE, 0xAD, 0xBE, 0xEF]

/-- A border router in `fc00::/8`. Kind: D -/
def sampleNextHop : NextHop :=
  ⟨⟨[0xFC, 0, 0x10, 0xFC, 0, 0, 0, 0, 0, 0, 0, 0, 0, 0, 0, 0xFF], rfl⟩, 30042⟩

/-- A path of eight bytes from `1-64512` to `1-64513`. Kind: D -/
def samplePath : Path :=
  ⟨0x000100000000FC01, 0x000100000000FC00, [1, 2, 3, 4, 5, 6, 7, 8], sampleNextHop⟩

/-- A cache that holds the sample path. Kind: D -/
def samplePathMap (e : Endian) : PathMap :=
  fun key => if key = 0x0010FC01 then some (pathToMapEntry e samplePath) else none

/-- The helpers on a device with the given MTU; room is always available. Kind: D -/
def mtuHelpers (mtu : ℕ) : TcHelpers :=
  ⟨fun n lenDiff => if n + lenDiff ≤ mtu + 14 then 0 else 1, fun _ _ => 0, fun _ => 0⟩

/-- What the receiver sees of the sample frame: new MAC addresses, hop limit, destination and
path. Kind: D -/
def sampleReceived : Frame :=
  poke (poke (poke (poke (scionEgress .little (mtuHelpers 1500) (samplePathMap .little)
    sampleFrame).frame 0 [2, 0, 0, 0, 0, 4, 2, 0, 0, 0, 0, 3]) 21 [62])
    38 (ipDaddr sampleFrame)) 122 [8, 7, 6, 5, 4, 3, 2, 1]

/-- The round trip on the sample frame, between hosts of different byte order. Kind: C -/
theorem scionIngress_scionEgress_sample :
    (scionIngress .big ⟨fun _ _ => 0⟩ sampleReceived).verdict = .XDP_PASS ∧
      (scionIngress .big ⟨fun _ _ => 0⟩ sampleReceived).frame.drop 54 = sampleFrame.drop 54 := by
  have hq : InTransit samplePath.dp.length (scionEgress .little (mtuHelpers 1500)
      (samplePathMap .little) sampleFrame).frame sampleReceived := by
    refine InTransit.poke (InTransit.poke (InTransit.poke (InTransit.poke (InTransit.refl _ _)
      ?_) ?_) ?_) ?_
    · exact fun i _ hi => Or.inl hi
    · intro i h1 h2
      simp only [List.length_singleton] at h2
      exact Or.inr (Or.inl (by omega))
    · intro i h1 h2
      rw [length_ipDaddr (by decide)] at h2
      exact Or.inr (Or.inl (by omega))
    · exact fun i h1 h2 => Or.inr (Or.inr ⟨h1, h2⟩)
  obtain ⟨hpass, -, -, -, -, -, hinner⟩ :=
    @scionIngress_scionEgress .little .big (mtuHelpers 1500) ⟨fun _ _ => 0⟩ (samplePathMap .little)
      samplePath sampleFrame sampleReceived (by decide) (by decide) (by decide +kernel)
      ⟨by decide +kernel, by decide +kernel⟩ hq (by decide +kernel) (fun _ _ => le_refl _)
  exact ⟨hpass, hinner⟩

end ScionIp.Ebpf
