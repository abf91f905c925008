import ScionIp.Ebpf.Packet

/-!
# `scion_ingress`: from SCION back to IPv6

`scionIngress` follows `ingress.bpf.c` statement by statement. It is cut where the source starts
to write: `ingressRestore` is the block of assignments that turns the outer IPv6 header into the
inner one, `ingressDecap` moves the two headers over the SCION header and shrinks the frame.

* `scionIngress_eq` — a frame either takes one of the early exits and is passed unchanged
  (`IngressSkips`, a condition on type, next header, destination and length), or it is rewritten
  in place and goes through `ingressDecap`.
* `scionIngress_of_not_skips` — in the second case the frame is dropped, or passed as described
  field by field by `IngressLayout`, the only description of a decapsulated frame that later
  modules use.
-/

namespace ScionIp.Ebpf

open ScionIp.Lib

/-- The assignments to the IPv6 header, in the source's order: both addresses, next header,
payload length, hop limit and the three flow label octets, the latter from the *unconverted*
first word of the SCION header.
Source: `ingress.bpf.c`, `scion_ingress`, lines 74-87. Kind: D -/
def ingressRestore (e : Endian) (f : Frame) : Frame :=
  let f := poke f 38 (peek f 90 16)
  let f := poke f 22 (peek f 106 16)
  let f := poke f 20 [byteAt f 66]
  let f := poke f 18 (peek f 68 2)
  let f := poke f 21 [0xFF]
  let verQosFlow := loadU32 e (peek f 62 4)
  let f := poke f 15 [ipFlowLbl f 0 ||| ((verQosFlow >>> 16) &&& 0xF).toUInt8]
  let f := poke f 16 [(verQosFlow >>> 8).toUInt8]
  poke f 17 [verQosFlow.toUInt8]

/-- Moving the Ethernet and IPv6 header to the new start, and shrinking the frame.
Source: `ingress.bpf.c`, `scion_ingress`, lines 89-105. Kind: D -/
def ingressDecap (h : XdpHelpers) (f : Frame) : XdpResult :=
  let scionEnd := 62 + 4 * (sciLen f).toNat
  let newStart := scionEnd - (40 + 14)
  if newStart + 14 + 40 > f.length then
    ⟨.XDP_DROP, f⟩  -- we already borked the packet, so just drop it
  else
    let f := poke f newStart (peek f 0 (14 + 40))
    if h.bpfXdpAdjustHead f.length newStart < 0 then
      ⟨.XDP_DROP, f⟩
    else
      ⟨.XDP_PASS, f.drop newStart⟩

/-- The XDP program on the receiving host. The intra-AS check of the source is commented out, so
`src` and `dst` are computed and not used.
Source: `ingress.bpf.c`, `scion_ingress`. Kind: D -/
def scionIngress (e : Endian) (h : XdpHelpers) (f : Frame) : XdpResult :=
  if 14 > f.length then ⟨.XDP_PASS, f⟩
  else if hProto e f ≠ bpfHtons e ETH_P_IPV6 then ⟨.XDP_PASS, f⟩
  else if 54 > f.length then ⟨.XDP_PASS, f⟩
  else if ipNexthdr f = NEXTHDR_ICMPV6 then ⟨.XDP_PASS, f⟩
  else if !scionPrefixMatch (ipDaddr f) then ⟨.XDP_PASS, f⟩
  else if 62 > f.length then ⟨.XDP_PASS, f⟩
  else if 90 > f.length then ⟨.XDP_PASS, f⟩
  else if ipNexthdr f = NEXTHDR_TCP then ⟨.XDP_PASS, f⟩
  else if 62 + 28 + 2 * 16 > f.length then ⟨.XDP_PASS, f⟩
  else ingressDecap h (ingressRestore e f)

/-! ## Which frames are left alone -/

/-- The frames that leave `scion_ingress` through an early exit. Kind: D -/
def IngressSkips (f : Frame) : Prop :=
  f.length < 122 ∨ peek f 12 2 ≠ [0x86, 0xDD] ∨ ipNexthdr f = NEXTHDR_ICMPV6 ∨
    ipNexthdr f = NEXTHDR_TCP ∨ scionPrefixMatch (ipDaddr f) = false

instance (f : Frame) : Decidable (IngressSkips f) :=
  inferInstanceAs (Decidable (_ ∨ _ ∨ _ ∨ _ ∨ _))

/-- A frame that takes no early exit holds the fixed SCION headers. Kind: L -/
theorem length_of_not_skips {f : Frame} (h : ¬ IngressSkips f) : 122 ≤ f.length :=
  not_lt.mp fun hlt => h (Or.inl hlt)

/-- **Inversion of `scion_ingress`**: an early exit passes the frame unchanged, every other frame
is rewritten. Kind: P -/
theorem scionIngress_eq (e : Endian) (h : XdpHelpers) (f : Frame) :
    scionIngress e h f =
      if IngressSkips f then ⟨.XDP_PASS, f⟩ else ingressDecap h (ingressRestore e f) := by
  by_cases hlen : f.length < 122
  · have hskip : IngressSkips f := Or.inl hlen
    rw [if_pos hskip]
    unfold scionIngress
    split_ifs <;> rfl
  · have hproto := hProto_eq_iff e (f := f) (by omega)
    have hskip : IngressSkips f ↔ (¬ peek f 12 2 = [0x86, 0xDD]) ∨ ipNexthdr f = NEXTHDR_ICMPV6 ∨
        ipNexthdr f = NEXTHDR_TCP ∨ scionPrefixMatch (ipDaddr f) = false := by
      simp [IngressSkips, hlen]
    unfold scionIngress
    -- the remaining conditions on the length are all implied by `hlen`
    rw [if_neg (by omega), if_neg (c := 54 > f.length) (by omega),
      if_neg (c := 62 > f.length) (by omega), if_neg (c := 90 > f.length) (by omega),
      if_neg (c := 62 + 28 + 2 * 16 > f.length) (by omega)]
    simp only [hskip, ne_eq, hproto]
    by_cases h1 : peek f 12 2 = [0x86, 0xDD]
    · by_cases h2 : ipNexthdr f = NEXTHDR_ICMPV6
      · simp [h1, h2]
      · by_cases h3 : ipNexthdr f = NEXTHDR_TCP
        · simp [h1, h3]
        · by_cases h4 : scionPrefixMatch (ipDaddr f) = true
          · simp [h1, h2, h3, h4]
          · simp [h1, h4]
    · simp [h1]

/-! ## What the rewriting delivers -/

/-- The assignments keep the frame's size. Kind: L -/
@[simp] theorem length_ingressRestore (e : Endian) (f : Frame) :
    (ingressRestore e f).length = f.length := by
  simp [ingressRestore]

/-- The flow label octets the assignments produce, from the host's reading of the first word of
the SCION header. Kind: D -/
def ingressFlowLbl (e : Endian) (f : Frame) : Bytes :=
  [ipFlowLbl f 0 ||| ((loadU32 e (peek f 62 4) >>> 16) &&& 0xF).toUInt8,
    (loadU32 e (peek f 62 4) >>> 8).toUInt8, (loadU32 e (peek f 62 4)).toUInt8]

/-- The pieces of the frame that make up the rewritten header have their full length. Kind: L -/
theorem length_restored (e : Endian) {f : Frame} (hf : 122 ≤ f.length) :
    (peek f 90 16).length = 16 ∧ (peek f 106 16).length = 16 ∧ (peek f 68 2).length = 2 ∧
      (ingressFlowLbl e f).length = 3 :=
  ⟨length_peek (by omega), length_peek (by omega), length_peek (by omega), rfl⟩

/-- The assignments, with every value read from the original frame: they read behind the IPv6
header and write inside it. Kind: L -/
theorem ingressRestore_eq (e : Endian) {f : Frame} (hf : 122 ≤ f.length) :
    ingressRestore e f =
      poke (poke (poke (poke (poke (poke f 38 (peek f 90 16)) 22 (peek f 106 16)) 20 [byteAt f 66])
        18 (peek f 68 2)) 21 [0xFF]) 15 (ingressFlowLbl e f) := by
  obtain ⟨h90, h106, h68, -⟩ := length_restored e hf
  have hflow : ∀ (m : Frame) (a b c : UInt8),
      poke m 15 [a, b, c] = poke (poke (poke m 15 [a]) 16 [b]) 17 [c] := fun m a b c =>
    calc poke m 15 [a, b, c] = poke (poke m 15 [a, b]) 17 [c] := (poke_append m 15 [a, b] [c]).symm
      _ = poke (poke (poke m 15 [a]) 16 [b]) 17 [c] :=
        congrArg (fun g => poke g 17 [c]) (poke_append m 15 [a] [b]).symm
  rw [ingressFlowLbl, hflow]
  simp [ingressRestore, ipFlowLbl, peek_poke_of_disjoint, byteAt_poke_of_disjoint, h90, h106, h68]

/-- **A frame `out` that is the decapsulation of `f`**, field by field. Kind: D -/
structure IngressLayout (e : Endian) (f out : Frame) : Prop where
  length : out.length = f.length - (8 + 4 * (sciLen f).toNat)
  /-- The Ethernet header and the octet of version and priority are kept. -/
  head : peek out 0 15 = peek f 0 15
  flowLbl : peek out 15 3 = ingressFlowLbl e f
  payloadLen : peek out 18 2 = peek f 68 2
  nexthdr : ipNexthdr out = byteAt f 66
  hopLimit : byteAt out 21 = 0xFF
  saddr : ipSaddr out = peek f 106 16
  daddr : ipDaddr out = peek f 90 16
  /-- What followed the SCION header follows the IPv6 header. -/
  tail : out.drop 54 = f.drop (62 + 4 * (sciLen f).toNat)

/-- The moved headers in front of the tail. Kind: L -/
theorem decap_layout {e : Endian} {f : Frame} (hf : 122 ≤ f.length)
    (hsz : 62 + 4 * (sciLen f).toNat ≤ f.length) :
    IngressLayout e f ((poke (ingressRestore e f) (8 + 4 * (sciLen f).toNat)
      (peek (ingressRestore e f) 0 54)).drop (8 + 4 * (sciLen f).toNat)) := by
  obtain ⟨h90, h106, h68, hfl⟩ := length_restored e hf
  generalize hk : 8 + 4 * (sciLen f).toNat = k at *
  set r := ingressRestore e f with hr
  have hrlen : r.length = f.length := by simp [hr]
  have hhdr : (peek r 0 54).length = 54 := length_peek (by omega)
  -- the front of the new frame is the rewritten header, the rest is the old tail
  have hfront : ∀ off n, off + n ≤ 54 →
      peek ((poke r k (peek r 0 54)).drop k) off n = peek r off n := by
    intro off n h
    rw [peek_drop, peek_poke_inside (by omega) (by omega) (by omega), Nat.add_sub_cancel_left,
      peek_peek _ (by omega), Nat.zero_add]
  have hbyte : ∀ i, i < 54 →
      byteAt ((poke r k (peek r 0 54)).drop k) i = byteAt r i :=
    fun i h => byteAt_of_peek_eq (hfront i 1 (by omega)) Nat.zero_lt_one
  have heq := ingressRestore_eq e hf
  constructor
  case length => simp [hrlen, hk]
  case head =>
    rw [hfront 0 15 (by omega), hr, heq]
    simp [peek_poke_of_disjoint]
  case flowLbl => rw [hfront 15 3 (by omega), hr, heq, peek_poke_same hfl (by simp; omega)]
  case payloadLen =>
    rw [hfront 18 2 (by omega), hr, heq, peek_poke_of_disjoint _ (by simp [hfl]),
      peek_poke_of_disjoint _ (by simp), peek_poke_same h68 (by simp; omega)]
  case nexthdr =>
    rw [ipNexthdr, hbyte 20 (by omega), hr, heq, byteAt_poke_of_disjoint _ (by simp [hfl]),
      byteAt_poke_of_disjoint _ (by simp), byteAt_poke_of_disjoint _ (by simp [h68]),
      byteAt_poke_inside (by omega) (by simp) (by simp; omega)]
    rfl
  case hopLimit =>
    rw [hbyte 21 (by omega), hr, heq, byteAt_poke_of_disjoint _ (by simp [hfl]),
      byteAt_poke_inside (by omega) (by simp) (by simp; omega)]
    rfl
  case saddr =>
    rw [ipSaddr, hfront 22 16 (by omega), hr, heq, peek_poke_of_disjoint _ (by simp [hfl]),
      peek_poke_of_disjoint _ (by simp), peek_poke_of_disjoint _ (by simp [h68]),
      peek_poke_of_disjoint _ (by simp), peek_poke_same h106 (by simp; omega)]
  case daddr =>
    rw [ipDaddr, hfront 38 16 (by omega), hr, heq, peek_poke_of_disjoint _ (by simp [hfl]),
      peek_poke_of_disjoint _ (by simp), peek_poke_of_disjoint _ (by simp [h68]),
      peek_poke_of_disjoint _ (by simp), peek_poke_of_disjoint _ (by simp [h106]),
      peek_poke_same h90 (by simp; omega)]
  case tail =>
    rw [List.drop_drop, drop_poke_of_le _ (by omega), hr, heq, drop_poke_of_le _ (by omega),
      drop_poke_of_le _ (by simp), drop_poke_of_le _ (by omega),
      drop_poke_of_le _ (by simp), drop_poke_of_le _ (by omega),
      drop_poke_of_le _ (by omega), show k + 54 = 62 + 4 * (sciLen f).toNat by omega]

/-- **What `scion_ingress` does to a frame that takes no early exit**: it drops it, or passes it
decapsulated; the latter exactly when the announced header lies inside the frame and the head
adjustment succeeds. Kind: P -/
theorem scionIngress_of_not_skips (e : Endian) (h : XdpHelpers) {f : Frame}
    (hs : ¬ IngressSkips f) :
    (62 + 4 * (sciLen f).toNat ≤ f.length ∧
        0 ≤ h.bpfXdpAdjustHead f.length (8 + 4 * (sciLen f).toNat : ℕ) ∧
        (scionIngress e h f).verdict = .XDP_PASS ∧ IngressLayout e f (scionIngress e h f).frame) ∨
      ((f.length < 62 + 4 * (sciLen f).toNat ∨
          h.bpfXdpAdjustHead f.length (8 + 4 * (sciLen f).toNat : ℕ) < 0) ∧
        (scionIngress e h f).verdict = .XDP_DROP) := by
  have hf := length_of_not_skips hs
  have hsci : sciLen (ingressRestore e f) = sciLen f := by
    obtain ⟨h90, h106, h68, hfl⟩ := length_restored e hf
    rw [sciLen, ingressRestore_eq e hf]
    simp [byteAt_poke_of_disjoint, hfl, h90, h106, h68, sciLen]
  have hstart : 62 + 4 * (sciLen f).toNat - (40 + 14) = 8 + 4 * (sciLen f).toNat := by omega
  rw [scionIngress_eq, if_neg hs, ingressDecap]
  simp only [hsci, length_ingressRestore, length_poke, hstart]
  by_cases hsz : 62 + 4 * (sciLen f).toNat ≤ f.length
  · rw [if_neg (by omega)]
    by_cases hadj : h.bpfXdpAdjustHead f.length (8 + 4 * (sciLen f).toNat : ℕ) < 0
    · right
      rw [if_pos hadj]
      exact ⟨Or.inr hadj, rfl⟩
    · left
      rw [if_neg hadj]
      exact ⟨hsz, by omega, rfl, decap_layout hf hsz⟩
  · right
    rw [if_pos (by omega)]
    exact ⟨Or.inl (by omega), rfl⟩

end ScionIp.Ebpf
