import ScionIp.Ebpf.Packet

/-!
# `scion_egress`: from IPv6 to SCION

`scionEgress` follows `egress.bpf.c` statement by statement. It is cut at the one place where the
source re-reads its pointers: `egressRewrite` is everything behind `bpf_skb_adjust_room`.

* `EgressForwards` — the frames forwarded untouched, as one condition on the frame.
* `scionEgress_cases` — the inversion lemma: a run forwards, misses the cache, drops after a hit,
  or translates; in the last case the frame is `egressFrame`, a closed expression in the input,
  the cached entry and the contents of the room, and every guard that was passed is recorded.
* The bytes of `egressFrame` are read off in `Ebpf/EgressLayout.lean`.
-/

namespace ScionIp.Ebpf

open ScionIp.Lib

/-! ## The program -/

/-- `path_map` as the program sees it. Source: `egress.bpf.c`, `path_map`. Kind: D -/
abbrev PathMap := ScionAddr → Option PathMapEntry

/-- The SCION common header with the fields of the IPv6 header of `f` filled in.
Source: `egress.bpf.c`, `write_scionhdr`. Kind: D -/
def writeScionhdr (e : Endian) (hdr : ScionHdr) (f : Frame) : ScionHdr :=
  let newHdr := SC_SET_VER e hdr 0
  let newHdr := SC_SET_QOS e newHdr
    ((ipPriority f).toUInt32 <<< 4 ||| (ipFlowLbl f 0).toUInt32 >>> 4)
  let newHdr := SC_SET_FLOW e newHdr
    (((ipFlowLbl f 0).toUInt32 &&& 0xF) <<< 16 ||| (ipFlowLbl f 1).toUInt32 <<< 8 |||
      (ipFlowLbl f 2).toUInt32)
  { newHdr with next := ipNexthdr f, payload := ipPayloadLen e f }

/-- The copy loop over the path words: `n` iterations are left, word `i` is copied while the end
of the *next* word stays strictly before the end of the frame.
Source: `egress.bpf.c`, `scion_egress`, lines 262-266. Kind: D -/
def copyPath (path : Bytes) (dest : ℕ) : ℕ → ℕ → Frame → Frame
  | 0, _, f => f
  | n + 1, i, f =>
      if dest + 4 * (i + 1) < f.length then
        copyPath path dest n (i + 1) (poke f (dest + 4 * i) (peek path (4 * i) 4))
      else f

/-- Everything behind `bpf_skb_adjust_room`, on the frame with the room opened. The check in
front of the copy loop has no `return` in the source and is therefore not here.
Source: `egress.bpf.c`, `scion_egress`, lines 222-289. Kind: D -/
def egressRewrite (e : Endian) (path : PathMapEntry) (srcPort : UInt16) (scionHeaderLen : UInt32)
    (f : Frame) : TcResult :=
  if 62 + scionHeaderLen.toNat > f.length then ⟨.TC_ACT_SHOT, f, none⟩
  else if 14 > f.length then ⟨.TC_ACT_SHOT, f, none⟩
  else if 54 > f.length then ⟨.TC_ACT_SHOT, f, none⟩
  else if 90 > f.length then ⟨.TC_ACT_SHOT, f, none⟩
  else
    -- underlay UDP header
    let f := poke f 56 (storeU16 e (bpfHtons e path.routerPort))
    let f := poke f 54 (storeU16 e (bpfHtons e srcPort))
    -- SCION common header and ISD-AS addresses
    let f := poke f 62 ((writeScionhdr e path.header f).bytes e)
    if 90 + 2 * 16 > f.length then ⟨.TC_ACT_SHOT, f, none⟩
    else
      -- host addresses, from the IPv6 header that is still the original one
      let f := poke f 90 (ipDaddr f ++ ipSaddr f)
      let f := copyPath path.path.toList 122 path.pathLen.toNat 0 f
      -- outer IPv6 header
      let f := poke f 38 path.routerAddr.toList
      let f := poke f 20 [NEXTHDR_UDP]
      let payloadLen := bpfHtons e (8 + 4 * (sciLen f).toUInt16 + bpfNtohs e (sciPayload e f))
      let f := poke f 18 (storeU16 e payloadLen)
      let f := poke f 58 (storeU16 e payloadLen)
      ⟨.TC_ACT_OK, f, none⟩

/-- The size of the inserted headers: `sizeof(struct udphdr) + 4 * path->header.len`.
Source: `egress.bpf.c`, `scion_egress`, lines 204-207. Kind: D -/
def newHdrsSize (path : PathMapEntry) : UInt32 := 8 + 4 * path.header.len.toUInt32

/-- The TC program on the sending host.
Source: `egress.bpf.c`, `scion_egress`. Kind: D -/
def scionEgress (e : Endian) (h : TcHelpers) (pathMap : PathMap) (f : Frame) : TcResult :=
  if 14 > f.length then ⟨.TC_ACT_OK, f, none⟩
  else if hProto e f ≠ bpfHtons e ETH_P_IPV6 then ⟨.TC_ACT_OK, f, none⟩
  else if 54 > f.length then ⟨.TC_ACT_OK, f, none⟩
  else if ipNexthdr f = NEXTHDR_ICMPV6 then ⟨.TC_ACT_OK, f, none⟩
  else if !scionPrefixMatch (ipDaddr f) then ⟨.TC_ACT_OK, f, none⟩
  else if getScionAddr e (ipDaddr f) = getScionAddr e (ipSaddr f) then ⟨.TC_ACT_OK, f, none⟩
  else if 62 > f.length then ⟨.TC_ACT_OK, f, none⟩
  else
    let srcPort := udpSource e f
    let dst := getMapKey e (ipDaddr f)
    match pathMap dst with
    | none => ⟨.TC_ACT_SHOT, f, some dst⟩
    | some path =>
        let scionHeaderLen := 4 * path.header.len.toUInt32
        -- the size is negated as a 32-bit word and passed as a signed one
        if h.bpfCheckMtu f.length (-newHdrsSize path).toInt32.toInt ≠ 0 then
          ⟨.TC_ACT_SHOT, f, none⟩
        else if h.bpfSkbAdjustRoom f.length (newHdrsSize path).toInt32.toInt < 0 then
          ⟨.TC_ACT_SHOT, f, none⟩
        else
          egressRewrite e path srcPort scionHeaderLen
            (insertRoom h.room f (newHdrsSize path).toNat)

/-! ## Sizes -/

/-- The size of the inserted headers as a number. Kind: L -/
theorem newHdrsSize_toNat (path : PathMapEntry) :
    (newHdrsSize path).toNat = 8 + 4 * path.header.len.toNat := by
  have h : path.header.len.toNat < 256 := path.header.len.toNat_lt
  simp only [newHdrsSize, UInt32.toNat_add, UInt32.toNat_mul, UInt8.toNat_toUInt32,
    UInt32.reduceToNat]
  omega

/-- The size passed to `bpf_skb_adjust_room`. Kind: L -/
theorem newHdrsSize_toInt (path : PathMapEntry) :
    (newHdrsSize path).toInt32.toInt = 8 + 4 * (path.header.len.toNat : ℤ) := by
  have h : ∀ n : UInt8, (8 + 4 * n.toUInt32 : UInt32).toInt32.toInt = 8 + 4 * (n.toNat : ℤ) := by
    decide +kernel
  exact h path.header.len

/-- The length difference passed to `bpf_check_mtu` is negative. Kind: L -/
theorem neg_newHdrsSize_toInt (path : PathMapEntry) :
    (-newHdrsSize path).toInt32.toInt = -(8 + 4 * (path.header.len.toNat : ℤ)) := by
  have h : ∀ n : UInt8,
      (-(8 + 4 * n.toUInt32 : UInt32)).toInt32.toInt = -(8 + 4 * (n.toNat : ℤ)) := by
    decide +kernel
  exact h path.header.len

/-! ## The copy loop -/

/-- The copy loop keeps the frame's size. Kind: L -/
@[simp] theorem length_copyPath (path : Bytes) (dest n i : ℕ) (f : Frame) :
    (copyPath path dest n i f).length = f.length := by
  induction n generalizing i f with
  | zero => rfl
  | succ n ih =>
      rw [copyPath]
      split_ifs
      · rw [ih, length_poke]
      · rfl

/-- The loop writes nothing before its target. Kind: L -/
theorem peek_copyPath_of_le (path : Bytes) {dest n i off k : ℕ} (f : Frame) (h : off + k ≤ dest) :
    peek (copyPath path dest n i f) off k = peek f off k := by
  induction n generalizing i f with
  | zero => rfl
  | succ n ih =>
      rw [copyPath]
      split_ifs
      · rw [ih, peek_poke_of_disjoint _ (Or.inl (by omega))]
      · rfl

/-- **The loop is one write**, provided the frame has at least one byte behind the last word.
Kind: P -/
theorem copyPath_eq_poke (path : Bytes) (dest n i : ℕ) (f : Frame)
    (hf : dest + 4 * (i + n) < f.length) (hp : 4 * (i + n) ≤ path.length) :
    copyPath path dest n i f = poke f (dest + 4 * i) (peek path (4 * i) (4 * n)) := by
  induction n generalizing i f with
  | zero => simp [copyPath, peek]
  | succ n ih =>
      have hword : (peek path (4 * i) 4).length = 4 := length_peek (by omega)
      have hoff : dest + 4 * (i + 1) = dest + 4 * i + (peek path (4 * i) 4).length := by omega
      rw [copyPath, if_pos (by omega), ih (i + 1) _ (by rw [length_poke]; omega) (by omega), hoff,
        poke_append]
      congr 1
      rw [show 4 * (n + 1) = 4 + 4 * n by omega, peek_add]
      rfl

/-! ## The SCION header -/

section header

variable (e : Endian) (hdr : ScionHdr) (f : Frame)

@[simp] theorem writeScionhdr_next : (writeScionhdr e hdr f).next = ipNexthdr f := rfl

@[simp] theorem writeScionhdr_len : (writeScionhdr e hdr f).len = hdr.len := rfl

@[simp] theorem writeScionhdr_payload : (writeScionhdr e hdr f).payload = ipPayloadLen e f := rfl

@[simp] theorem writeScionhdr_type : (writeScionhdr e hdr f).type = hdr.type := rfl

@[simp] theorem writeScionhdr_haddr : (writeScionhdr e hdr f).haddr = hdr.haddr := rfl

@[simp] theorem writeScionhdr_rsv : (writeScionhdr e hdr f).rsv = hdr.rsv := rfl

@[simp] theorem writeScionhdr_dst : (writeScionhdr e hdr f).dst = hdr.dst := rfl

@[simp] theorem writeScionhdr_src : (writeScionhdr e hdr f).src = hdr.src := rfl

/-- The header written depends on the first seven octets of the IPv6 header only. Kind: L -/
theorem writeScionhdr_congr {f g : Frame} (h : peek f 14 7 = peek g 14 7) :
    writeScionhdr e hdr f = writeScionhdr e hdr g := by
  have hb : ∀ i, i < 7 → byteAt f (14 + i) = byteAt g (14 + i) := by
    intro i hi
    rw [← byteAt_peek hi, h, byteAt_peek hi]
  have hp : peek f 18 2 = peek g 18 2 := by
    rw [← @peek_peek f 14 7 4 2 (by omega), h, peek_peek g (by omega)]
  unfold writeScionhdr ipPriority ipFlowLbl ipNexthdr ipPayloadLen
  rw [hb 0 (by omega), hb 1 (by omega), hb 2 (by omega), hb 3 (by omega), hb 6 (by omega), hp]

variable (h : ScionHdr)

/-- The memory image, split at its fields. Kind: L -/
theorem ScionHdr.bytes_next : byteAt (h.bytes e) 4 = h.next := by
  simp [ScionHdr.bytes, byteAt, List.getD_eq_getElem?_getD]

theorem ScionHdr.bytes_len : byteAt (h.bytes e) 5 = h.len := by
  simp [ScionHdr.bytes, byteAt, List.getD_eq_getElem?_getD]

theorem ScionHdr.bytes_verQosFlow : peek (h.bytes e) 0 4 = storeU32 e h.verQosFlow := by
  simp [ScionHdr.bytes, peek]

theorem ScionHdr.bytes_payload : peek (h.bytes e) 6 2 = storeU16 e h.payload := by
  simp [ScionHdr.bytes, peek_append_right, peek_append_left, peek_cons_of_pos, peek_zero]

theorem ScionHdr.bytes_dst : peek (h.bytes e) 12 8 = storeU64 e h.dst := by
  simp [ScionHdr.bytes, peek_append_right, peek_append_left, peek_cons_of_pos, peek_zero]

end header

/-! ## Inversion -/

/-- The frames that leave `scion_egress` through an early exit. Kind: D -/
def EgressForwards (e : Endian) (f : Frame) : Prop :=
  f.length < 62 ∨ peek f 12 2 ≠ [0x86, 0xDD] ∨ ipNexthdr f = NEXTHDR_ICMPV6 ∨
    scionPrefixMatch (ipDaddr f) = false ∨ getScionAddr e (ipDaddr f) = getScionAddr e (ipSaddr f)

instance (e : Endian) (f : Frame) : Decidable (EgressForwards e f) :=
  inferInstanceAs (Decidable (_ ∨ _ ∨ _ ∨ _ ∨ _))

/-- A frame that is not forwarded holds a UDP header. Kind: L -/
theorem length_of_not_forwards {e : Endian} {f : Frame} (h : ¬ EgressForwards e f) :
    62 ≤ f.length := not_lt.mp fun hlt => h (Or.inl hlt)

/-- The payload length of the underlay packet, before it is cut to 16 bits. Kind: D -/
def egressPayloadLen (path : PathMapEntry) (g : Frame) : ℕ :=
  8 + 4 * path.header.len.toNat + ofBE (peek g 18 2)

/-- The underlay and SCION headers written over a frame `g` with the room opened, every value in
terms of `g`: the frame when `egressRewrite` returns `TC_ACT_OK`. Kind: D -/
def egressFrame (e : Endian) (path : PathMapEntry) (srcPort : UInt16) (g : Frame) : Frame :=
  let f := poke g 56 (toBE 2 path.routerPort.toNat)
  let f := poke f 54 (toBE 2 srcPort.toNat)
  let f := poke f 62 ((writeScionhdr e path.header g).bytes e)
  let f := poke f 90 (ipDaddr g ++ ipSaddr g)
  let f := copyPath path.path.toList 122 path.pathLen.toNat 0 f
  let f := poke f 38 path.routerAddr.toList
  let f := poke f 20 [NEXTHDR_UDP]
  let f := poke f 18 (toBE 2 (egressPayloadLen path g))
  poke f 58 (toBE 2 (egressPayloadLen path g))

/-- Rewriting neither grows nor shrinks the frame. Kind: L -/
@[simp] theorem length_egressFrame (e : Endian) (path : PathMapEntry) (srcPort : UInt16)
    (g : Frame) : (egressFrame e path srcPort g).length = g.length := by
  simp [egressFrame]

/-- The payload length computed from what was just written into the SCION header. Kind: L -/
theorem toBE_payloadLen (e : Endian) (path : PathMapEntry) {f g : Frame} (hg : 54 ≤ g.length)
    (hlen : byteAt f 67 = path.header.len) (hpay : peek f 68 2 = peek g 18 2) :
    toBE 2 (8 + 4 * (sciLen f).toUInt16 + bpfNtohs e (sciPayload e f)).toNat
      = toBE 2 (egressPayloadLen path g) := by
  have hb : path.header.len.toNat < 256 := path.header.len.toNat_lt
  rw [← toBE_mod 2 (egressPayloadLen path g)]
  congr 1
  rw [sciLen, sciPayload, hlen, hpay, UInt16.toNat_add, UInt16.toNat_add, UInt16.toNat_mul,
    bpfNtohs_loadU16 (length_peek (by omega)), UInt8.toNat_toUInt16, egressPayloadLen]
  simp only [UInt16.reduceToNat]
  omega

/-- The writes of `egressRewrite`, with every value read back from the frame it came from.
Kind: L -/
theorem egressRewrite_eq (e : Endian) (path : PathMapEntry) (srcPort : UInt16)
    {scionHeaderLen : UInt32} {g : Frame} (hsz : 122 ≤ g.length)
    (hlen : 62 + scionHeaderLen.toNat ≤ g.length) :
    egressRewrite e path srcPort scionHeaderLen g
      = ⟨.TC_ACT_OK, egressFrame e path srcPort g, none⟩ := by
  unfold egressRewrite
  rw [if_neg (by omega), if_neg (by omega), if_neg (by omega), if_neg (by omega)]
  simp only [length_poke, storeU16_bpfHtons]
  rw [if_neg (by omega)]
  -- the headers are computed after the UDP ports are written, from bytes the ports do not touch
  generalize hf₁ : poke (poke g 56 (toBE 2 path.routerPort.toNat)) 54 (toBE 2 srcPort.toNat) = f₁
  have hlow : ∀ off n, off + n ≤ 54 → peek f₁ off n = peek g off n := by
    intro off n h
    rw [← hf₁, peek_poke_of_disjoint _ (Or.inl (by omega)),
      peek_poke_of_disjoint _ (Or.inl (by omega))]
  have hl₁ : f₁.length = g.length := by simp [← hf₁]
  have hw : writeScionhdr e path.header f₁ = writeScionhdr e path.header g :=
    writeScionhdr_congr e path.header (hlow 14 7 (by omega))
  rw [hw]
  generalize hhdr : writeScionhdr e path.header g = hdr
  have hd : ipDaddr (poke f₁ 62 (hdr.bytes e)) = ipDaddr g := by
    rw [ipDaddr, peek_poke_of_disjoint _ (Or.inl (by omega)), hlow 38 16 (by omega), ipDaddr]
  have hs : ipSaddr (poke f₁ 62 (hdr.bytes e)) = ipSaddr g := by
    rw [ipSaddr, peek_poke_of_disjoint _ (Or.inl (by omega)), hlow 22 16 (by omega), ipSaddr]
  rw [hd, hs]
  generalize hf₂ : poke (poke (copyPath path.path.toList 122 path.pathLen.toNat 0
    (poke (poke f₁ 62 (hdr.bytes e)) 90 (ipDaddr g ++ ipSaddr g))) 38 path.routerAddr.toList) 20
    [NEXTHDR_UDP] = f₂
  -- reads of the SCION header see what was written there
  have hsci : ∀ i n, i + n ≤ 28 → peek f₂ (62 + i) n = peek (hdr.bytes e) i n := by
    intro i n h
    rw [← hf₂, peek_poke_of_disjoint _ (Or.inr (by simp; omega)),
      peek_poke_of_disjoint _ (Or.inr (by simp; omega)), peek_copyPath_of_le _ _ (by omega),
      peek_poke_of_disjoint _ (Or.inl (by omega)),
      peek_poke_inside (by omega) (by simp; omega) (by simp; omega), Nat.add_sub_cancel_left]
  have hlen₂ : byteAt f₂ 67 = path.header.len := by
    have hread : byteAt f₂ (62 + 5) = byteAt (hdr.bytes e) 5 :=
      byteAt_of_peek_eq (hsci 5 1 (by omega)) Nat.zero_lt_one
    rw [hread, ScionHdr.bytes_len, ← hhdr, writeScionhdr_len]
  have hpay₂ : peek f₂ 68 2 = peek g 18 2 := by
    rw [hsci 6 2 (by omega), ScionHdr.bytes_payload, ← hhdr, writeScionhdr_payload, ipPayloadLen,
      storeU16_loadU16 (length_peek (by omega))]
  rw [toBE_payloadLen e path (by omega) hlen₂ hpay₂]
  simp only [egressFrame, hf₁, hhdr, hf₂]

/-- What `egressRewrite` does: the checks come down to one bound on the length. Kind: L -/
theorem egressRewrite_cases (e : Endian) (path : PathMapEntry) (srcPort : UInt16)
    (scionHeaderLen : UInt32) (g : Frame) :
    (122 ≤ g.length ∧ 62 + scionHeaderLen.toNat ≤ g.length ∧
        egressRewrite e path srcPort scionHeaderLen g
          = ⟨.TC_ACT_OK, egressFrame e path srcPort g, none⟩) ∨
      ((g.length < 122 ∨ g.length < 62 + scionHeaderLen.toNat) ∧
        (egressRewrite e path srcPort scionHeaderLen g).verdict = .TC_ACT_SHOT ∧
        (egressRewrite e path srcPort scionHeaderLen g).request = none) := by
  by_cases h1 : 62 + scionHeaderLen.toNat ≤ g.length
  · by_cases h2 : 122 ≤ g.length
    · exact Or.inl ⟨h2, h1, egressRewrite_eq e path srcPort h2 h1⟩
    · right
      refine ⟨Or.inl (by omega), ?_⟩
      unfold egressRewrite
      rw [if_neg (by omega), if_neg (by omega)]
      split_ifs <;> simp_all
  · right
    refine ⟨Or.inr (by omega), ?_⟩
    unfold egressRewrite
    rw [if_pos (by omega)]
    exact ⟨rfl, rfl⟩

/-- The conditions under which a run of `scion_egress` translates its frame with the entry
`path`: a cache hit for a frame that is not forwarded, both helpers succeeding, and a grown frame
that holds the fixed SCION headers. Kind: D -/
structure EgressTranslates (e : Endian) (h : TcHelpers) (pathMap : PathMap) (f : Frame)
    (path : PathMapEntry) : Prop where
  notForwarded : ¬ EgressForwards e f
  hit : pathMap (getMapKey e (ipDaddr f)) = some path
  mtu : h.bpfCheckMtu f.length (-(8 + 4 * (path.header.len.toNat : ℤ))) = 0
  room : 0 ≤ h.bpfSkbAdjustRoom f.length (8 + 4 * (path.header.len.toNat : ℤ))
  size : 122 ≤ f.length + (8 + 4 * path.header.len.toNat)

/-- The frame a translating run emits. Kind: D -/
def egressOutput (e : Endian) (h : TcHelpers) (path : PathMapEntry) (f : Frame) : Frame :=
  egressFrame e path (udpSource e f) (insertRoom h.room f (8 + 4 * path.header.len.toNat))

/-- A translated frame grows by the size of the inserted headers. Kind: L -/
@[simp] theorem length_egressOutput (e : Endian) (h : TcHelpers) (path : PathMapEntry) (f : Frame) :
    (egressOutput e h path f).length = f.length + (8 + 4 * path.header.len.toNat) := by
  simp [egressOutput]

/-- A forwarded frame leaves untouched. Kind: L -/
theorem scionEgress_of_forwards {e : Endian} {f : Frame} (hfwd : EgressForwards e f)
    (h : TcHelpers) (pathMap : PathMap) : scionEgress e h pathMap f = ⟨.TC_ACT_OK, f, none⟩ := by
  unfold scionEgress
  by_cases h14 : 14 > f.length
  · rw [if_pos h14]
  · have hproto := hProto_eq_iff e (f := f) (by omega)
    rw [if_neg h14]
    split_ifs with h1 h2 h3 h4 h5 h6 <;> first | rfl | skip
    -- every early exit has been refused, against `hfwd`
    rcases hfwd with hshort | htype | hicmp | hrange | hsame
    · omega
    · exact absurd (hproto.mp (not_not.mp h1)) htype
    · exact absurd hicmp h3
    · exact absurd hrange (by simpa using h4)
    · exact absurd hsame h5

/-- Any other frame reaches the lookup, and behind it the two helpers. Kind: L -/
theorem scionEgress_of_not_forwards {e : Endian} {f : Frame} (hfwd : ¬ EgressForwards e f)
    (h : TcHelpers) (pathMap : PathMap) :
    scionEgress e h pathMap f =
      match pathMap (getMapKey e (ipDaddr f)) with
      | none => ⟨.TC_ACT_SHOT, f, some (getMapKey e (ipDaddr f))⟩
      | some path =>
          if h.bpfCheckMtu f.length (-(8 + 4 * (path.header.len.toNat : ℤ))) ≠ 0 then
            ⟨.TC_ACT_SHOT, f, none⟩
          else if h.bpfSkbAdjustRoom f.length (8 + 4 * (path.header.len.toNat : ℤ)) < 0 then
            ⟨.TC_ACT_SHOT, f, none⟩
          else
            egressRewrite e path (udpSource e f) (4 * path.header.len.toUInt32)
              (insertRoom h.room f (8 + 4 * path.header.len.toNat)) := by
  have hlen := length_of_not_forwards hfwd
  have hproto : hProto e f = bpfHtons e ETH_P_IPV6 := by
    by_contra hc
    exact hfwd (Or.inr (Or.inl fun hp => hc ((hProto_eq_iff e (by omega)).mpr hp)))
  have hicmp : ¬ ipNexthdr f = NEXTHDR_ICMPV6 := fun hc => hfwd (by simp [EgressForwards, hc])
  have hmatch : scionPrefixMatch (ipDaddr f) = true := by
    by_contra hc
    exact hfwd (by simp [EgressForwards, hc])
  have hinter : ¬ getScionAddr e (ipDaddr f) = getScionAddr e (ipSaddr f) :=
    fun hc => hfwd (by simp [EgressForwards, hc])
  unfold scionEgress
  rw [if_neg (by omega), if_neg (not_not.mpr hproto), if_neg (by omega), if_neg hicmp,
    if_neg (by simp [hmatch]), if_neg hinter, if_neg (by omega)]
  simp only [neg_newHdrsSize_toInt, newHdrsSize_toInt, newHdrsSize_toNat]

/-- The header length in bytes does not overflow. Kind: L -/
theorem scionHeaderLen_toNat (path : PathMapEntry) :
    (4 * path.header.len.toUInt32 : UInt32).toNat = 4 * path.header.len.toNat := by
  have hb : path.header.len.toNat < 256 := path.header.len.toNat_lt
  simp only [UInt32.toNat_mul, UInt8.toNat_toUInt32, UInt32.reduceToNat]
  omega

/-- **Inversion of `scion_egress`.** A run forwards its frame untouched, misses the cache and
requests the key, drops the frame after a hit, or translates it. Kind: P -/
theorem scionEgress_cases (e : Endian) (h : TcHelpers) (pathMap : PathMap) (f : Frame) :
    (EgressForwards e f ∧ scionEgress e h pathMap f = ⟨.TC_ACT_OK, f, none⟩) ∨
    (¬ EgressForwards e f ∧ pathMap (getMapKey e (ipDaddr f)) = none ∧
      scionEgress e h pathMap f = ⟨.TC_ACT_SHOT, f, some (getMapKey e (ipDaddr f))⟩) ∨
    (∃ path, ¬ EgressForwards e f ∧ pathMap (getMapKey e (ipDaddr f)) = some path ∧
      ¬ EgressTranslates e h pathMap f path ∧
      (scionEgress e h pathMap f).verdict = .TC_ACT_SHOT ∧
      (scionEgress e h pathMap f).request = none) ∨
    (∃ path, EgressTranslates e h pathMap f path ∧
      scionEgress e h pathMap f = ⟨.TC_ACT_OK, egressOutput e h path f, none⟩) := by
  by_cases hfwd : EgressForwards e f
  · exact Or.inl ⟨hfwd, scionEgress_of_forwards hfwd h pathMap⟩
  · right
    have hlen := length_of_not_forwards hfwd
    rw [scionEgress_of_not_forwards hfwd]
    cases hit : pathMap (getMapKey e (ipDaddr f)) with
    | none =>
        left
        exact ⟨hfwd, rfl, rfl⟩
    | some path =>
        right
        by_cases hmtu : h.bpfCheckMtu f.length (-(8 + 4 * (path.header.len.toNat : ℤ))) = 0
        · by_cases hroom : h.bpfSkbAdjustRoom f.length (8 + 4 * (path.header.len.toNat : ℤ)) < 0
          · left
            refine ⟨path, hfwd, rfl, fun ht => absurd ht.room (by omega), ?_⟩
            simp only [hmtu, ne_eq, not_true_eq_false, if_false, if_pos hroom, and_self]
          · simp only [hmtu, hroom, ne_eq, not_true_eq_false, if_false]
            rcases egressRewrite_cases e path (udpSource e f) (4 * path.header.len.toUInt32)
                (insertRoom h.room f (8 + 4 * path.header.len.toNat)) with
              ⟨hsz, -, heq⟩ | ⟨hsz, hv, hr⟩
            · right
              rw [length_insertRoom] at hsz
              exact ⟨path, ⟨hfwd, hit, hmtu, by omega, hsz⟩, heq⟩
            · left
              rw [length_insertRoom, scionHeaderLen_toNat] at hsz
              refine ⟨path, hfwd, rfl, fun ht => ?_, hv, hr⟩
              have hsize := ht.size
              omega
        · left
          refine ⟨path, hfwd, rfl, fun ht => absurd ht.mtu hmtu, ?_⟩
          simp only [ne_eq, hmtu, not_false_eq_true, if_true, and_self]

end ScionIp.Ebpf
