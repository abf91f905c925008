import ScionIp.Ebpf.Packet

/-!
# `scion_filter`: which frames go to VPP

The XDP program of the VPP translator looks at a frame and hands it to the AF_XDP socket or leaves
it to the kernel; it never writes to the frame. A pointer of the source is the offset from `data`,
and `data_end` is the length of the frame.

* `parseTags_of_tagged` — the loop over the VLAN tags, on a frame with at most four of them.
* `scionFilter_of_ipFrame` — the program in closed form on such a frame with a complete IP header;
  `Diverted` is the condition it decides.
* `scionFilter_accepts_iff` — the condition it should decide is `Accepted`; the two differ on IPv6,
  where the number of ICMPv4 stands in place of that of ICMPv6.
-/

namespace ScionIp.Vpp

open ScionIp.Lib ScionIp.Ebpf

/-! ## Constants and the map -/

/-- Source: `af_xdp.c`, `VLAN_MAX_DEPTH`. Kind: D -/
def VLAN_MAX_DEPTH : ℕ := 4

/-- Source: `af_xdp.c`, `IPV6_MAX_ESTENSIONS`. Kind: D -/
def IPV6_MAX_ESTENSIONS : ℕ := 6

/-- Source: `af_xdp.c`, `MIN_SCION_HDR_SIZE`. Kind: D -/
def MIN_SCION_HDR_SIZE : ℕ := 8 + 12 + 48

/-- The sizes of `ethhdr`, `iphdr`, `udphdr`, and the constant above.
Source: `af_xdp.c`, `MIN_PACKET_SIZE`. Kind: D -/
def MIN_PACKET_SIZE : ℕ := 14 + 20 + 8 + MIN_SCION_HDR_SIZE

/-- Source: `if_ether.h`, `ETH_P_IP`. Kind: D -/
def ETH_P_IP : UInt16 := 0x0800

/-- Source: `if_ether.h`, `ETH_P_8021Q`. Kind: D -/
def ETH_P_8021Q : UInt16 := 0x8100

/-- Source: `if_ether.h`, `ETH_P_8021AD`. Kind: D -/
def ETH_P_8021AD : UInt16 := 0x88A8

/-- Source: `in.h`, `IPPROTO_ICMP`. Kind: D -/
def IPPROTO_ICMP : UInt8 := 1

/-- Source: `in.h`, `IPPROTO_UDP`. Kind: D -/
def IPPROTO_UDP : UInt8 := 17

/-- Source: `in6.h`, `IPPROTO_ICMPV6`. Kind: D -/
def IPPROTO_ICMPV6 : UInt8 := 58

/-- Source: `in.h`, `in6.h`, `IPPROTO_HOPOPTS`. Kind: D -/
def IPPROTO_HOPOPTS : UInt8 := 0

/-- Source: `in6.h`, `IPPROTO_ROUTING`. Kind: D -/
def IPPROTO_ROUTING : UInt8 := 43

/-- Source: `in6.h`, `IPPROTO_FRAGMENT`. Kind: D -/
def IPPROTO_FRAGMENT : UInt8 := 44

/-- Source: `in.h`, `IPPROTO_AH`. Kind: D -/
def IPPROTO_AH : UInt8 := 51

/-- Source: `in6.h`, `IPPROTO_DSTOPTS`. Kind: D -/
def IPPROTO_DSTOPTS : UInt8 := 60

/-- Source: `in6.h`, `IPPROTO_MH`. Kind: D -/
def IPPROTO_MH : UInt8 := 135

/-- The value user space writes: both host addresses in network order.
Source: `ebpf.cpp`, `updateScionIpMap`. Kind: D -/
def scionIpValue (hostAddr4 : List.Vector UInt8 4) (hostAddr : List.Vector UInt8 16) : Bytes :=
  hostAddr4.toList ++ hostAddr.toList

/-! ## The program -/

/-- Source: `af_xdp.c`, `proto_is_vlan`. Kind: D -/
def protoIsVlan (e : Endian) (proto : UInt16) : Prop :=
  proto = bpfHtons e ETH_P_8021Q ∨ proto = bpfHtons e ETH_P_8021AD

instance (e : Endian) (proto : UInt16) : Decidable (protoIsVlan e proto) :=
  inferInstanceAs (Decidable (_ ∨ _))

/-- The four words of two addresses, compared one after the other.
Source: `af_xdp.c`, `comp_ipv6`. Kind: D -/
def compIpv6 (e : Endian) (a b : Bytes) : Bool :=
  (List.range 4).all fun i => loadU32 e (peek a (4 * i) 4) == loadU32 e (peek b (4 * i) 4)

/-- The loop over the VLAN tags; `n` iterations are left, `tag` is the offset behind the last one.
Source: `af_xdp.c`, `parse_ethernet`. Kind: D -/
def parseTags (e : Endian) (f : Frame) : ℕ → UInt16 → ℕ → UInt16 × ℕ
  | 0, proto, tag => (proto, tag)
  | n + 1, proto, tag =>
      if ¬ protoIsVlan e proto then (proto, tag)
      else if tag + 4 > f.length then (proto, tag)
      else parseTags e f n (loadU16 e (peek f (tag + 2) 2)) (tag + 4)

/-- The protocol and the offset behind the Ethernet header and its tags.
Source: `af_xdp.c`, `parse_ethernet`. Kind: D -/
def parseEthernet (e : Endian) (f : Frame) : UInt16 × ℕ :=
  if 0 + 14 > f.length then (0, 0)
  else parseTags e f VLAN_MAX_DEPTH (hProto e f) 14

/-- The offset of the header and the one behind it. Source: `af_xdp.c`, `parse_ipv4`. Kind: D -/
def parseIpv4 (f : Frame) (data : ℕ) : Option (ℕ × ℕ) :=
  if data + 20 > f.length then none
  else
    let hdrsize := 4 * (byteAt f data &&& 0xF).toNat
    if data + hdrsize > f.length then none else some (data, data + hdrsize)

/-- The loop over the extension headers; `n` iterations are left.
Source: `af_xdp.c`, `parse_ipv6`. Kind: D -/
def parseExtensions (f : Frame) : ℕ → UInt8 → ℕ → Option (UInt8 × ℕ)
  | 0, _, _ => none
  | n + 1, nh, data =>
      if data + 2 > f.length then none
      else if nh = IPPROTO_HOPOPTS ∨ nh = IPPROTO_DSTOPTS ∨ nh = IPPROTO_ROUTING ∨
          nh = IPPROTO_MH then
        parseExtensions f n (byteAt f data) (data + ((byteAt f (data + 1)).toNat + 1) * 8)
      else if nh = IPPROTO_AH then
        parseExtensions f n (byteAt f data) (data + ((byteAt f (data + 1)).toNat + 1) * 4)
      else if nh = IPPROTO_FRAGMENT then
        parseExtensions f n (byteAt f data) (data + 8)
      else some (nh, data)

/-- The offset of the header, the upper-layer protocol, and the offset of the upper layer.
Source: `af_xdp.c`, `parse_ipv6`. Kind: D -/
def parseIpv6 (f : Frame) (data : ℕ) : Option (ℕ × UInt8 × ℕ) :=
  if data + 40 > f.length then none
  else
    match parseExtensions f IPV6_MAX_ESTENSIONS (byteAt f (data + 6)) (data + 40) with
    | none => none
    | some (next, upper) => some (data, next, upper)

/-- What `scion_filter` returns: the frame is left to the kernel, or it is the helper that decides,
called with `xsks_map`, the receive queue and `XDP_PASS` as the verdict when no socket is bound to
the queue. Kind: D -/
inductive FilterVerdict where
  | XDP_PASS
  | bpfRedirectMap (rxQueueIndex : UInt32)
  deriving DecidableEq, Repr

/-- What a run of `scion_filter` leaves behind. Kind: D -/
structure FilterResult where
  verdict : FilterVerdict
  frame : Frame
  deriving DecidableEq

/-- The XDP program; `filter` is the value found in `scion_ip`, four bytes `ipv4` and sixteen bytes
`ipv6`. Source: `af_xdp.c`, `scion_filter`. Kind: D -/
def scionFilter (e : Endian) (filter : Option Bytes) (rxQueueIndex : UInt32) (f : Frame) :
    FilterResult :=
  if f.length < MIN_PACKET_SIZE then ⟨.XDP_PASS, f⟩
  else
    match filter with
    | none => ⟨.XDP_PASS, f⟩
    | some filter =>
        let (proto, data) := parseEthernet e f
        if proto = bpfNtohs e ETH_P_IP then
          match parseIpv4 f data with
          | none => ⟨.XDP_PASS, f⟩
          | some (ip, _) =>
              if loadU32 e (peek f (ip + 16) 4) ≠ loadU32 e (peek filter 0 4) then ⟨.XDP_PASS, f⟩
              else if byteAt f (ip + 9) ≠ IPPROTO_ICMP ∧ byteAt f (ip + 9) ≠ IPPROTO_UDP then
                ⟨.XDP_PASS, f⟩
              else ⟨.bpfRedirectMap rxQueueIndex, f⟩
        else if proto = bpfNtohs e ETH_P_IPV6 then
          match parseIpv6 f data with
          | none => ⟨.XDP_PASS, f⟩
          | some (ip, nextHdr, _) =>
              if ¬ compIpv6 e (peek f (ip + 24) 16) (peek filter 4 16) then ⟨.XDP_PASS, f⟩
              else if nextHdr ≠ IPPROTO_ICMP ∧ nextHdr ≠ IPPROTO_UDP then ⟨.XDP_PASS, f⟩
              else ⟨.bpfRedirectMap rxQueueIndex, f⟩
        else ⟨.XDP_PASS, f⟩

/-! ## Frames in the domain of the filter -/

/-- The type field behind `k` VLAN tags. Kind: D -/
def etherType (f : Frame) (k : ℕ) : Bytes := peek f (12 + 4 * k) 2

/-- The type of a VLAN tag, `81 00` or `88 a8`. Kind: D -/
def IsVlanType (bs : Bytes) : Prop := bs = [0x81, 0x00] ∨ bs = [0x88, 0xA8]

instance (bs : Bytes) : Decidable (IsVlanType bs) := inferInstanceAs (Decidable (_ ∨ _))

/-- The next header values the filter steps over. Kind: D -/
def IsExtension (nh : UInt8) : Prop :=
  nh = IPPROTO_HOPOPTS ∨ nh = IPPROTO_DSTOPTS ∨ nh = IPPROTO_ROUTING ∨ nh = IPPROTO_MH ∨
    nh = IPPROTO_AH ∨ nh = IPPROTO_FRAGMENT

instance (nh : UInt8) : Decidable (IsExtension nh) :=
  inferInstanceAs (Decidable (_ ∨ _ ∨ _ ∨ _ ∨ _ ∨ _))

/-- **A frame of the minimal size with `k` VLAN tags**, four at most, and behind them a complete
IPv4 header, an IPv6 header without extension headers, or something else. Kind: D -/
structure IpFrame (f : Frame) (k : ℕ) : Prop where
  size : MIN_PACKET_SIZE ≤ f.length
  depth : k ≤ VLAN_MAX_DEPTH
  tags : ∀ i < k, IsVlanType (etherType f i)
  untagged : ¬ IsVlanType (etherType f k)
  ipv4 : etherType f k = [0x08, 0x00] →
    14 + 4 * k + 4 * (byteAt f (14 + 4 * k) &&& 0xF).toNat ≤ f.length
  ipv6 : etherType f k = [0x86, 0xDD] → ¬ IsExtension (byteAt f (14 + 4 * k + 6))

/-- The frame is IPv4 to `host4` with UDP or ICMP, or IPv6 to `host6` with UDP or the protocol
`icmp6`. Kind: D -/
def IpMatch (icmp6 : UInt8) (host4 : List.Vector UInt8 4) (host6 : List.Vector UInt8 16) (f : Frame)
    (k : ℕ) : Prop :=
  etherType f k = [0x08, 0x00] ∧ peek f (14 + 4 * k + 16) 4 = host4.toList ∧
      (byteAt f (14 + 4 * k + 9) = IPPROTO_ICMP ∨ byteAt f (14 + 4 * k + 9) = IPPROTO_UDP) ∨
    etherType f k = [0x86, 0xDD] ∧ peek f (14 + 4 * k + 24) 16 = host6.toList ∧
      (byteAt f (14 + 4 * k + 6) = icmp6 ∨ byteAt f (14 + 4 * k + 6) = IPPROTO_UDP)

instance (icmp6 : UInt8) (host4 : List.Vector UInt8 4) (host6 : List.Vector UInt8 16) (f : Frame)
    (k : ℕ) : Decidable (IpMatch icmp6 host4 host6 f k) :=
  inferInstanceAs (Decidable (_ ∨ _))

/-! ## The parsers on such a frame -/

section parsers

variable (e : Endian)

/-- The VLAN test looks at the bytes of the type field. Kind: L -/
theorem protoIsVlan_loadU16 {bs : Bytes} (h : bs.length = 2) :
    protoIsVlan e (loadU16 e bs) ↔ IsVlanType bs := by
  rw [protoIsVlan, loadU16_eq_bpfHtons h, loadU16_eq_bpfHtons h]
  rfl

/-- **The loop stops behind the last tag.** The induction is on the number of tags left. Kind: L -/
theorem parseTags_of_tagged {f : Frame} {k : ℕ} (hlen : 14 + 4 * k ≤ f.length)
    (hlast : ¬ IsVlanType (etherType f k)) (j : ℕ) {i n : ℕ} (hij : i + j = k) (hn : j ≤ n)
    (htags : ∀ m, i ≤ m → m < k → IsVlanType (etherType f m)) :
    parseTags e f n (loadU16 e (etherType f i)) (14 + 4 * i)
      = (loadU16 e (etherType f k), 14 + 4 * k) := by
  have htype : ∀ m, m ≤ k → (etherType f m).length = 2 := by
    intro m hm
    exact length_peek (by omega)
  induction j generalizing i n with
  | zero =>
      obtain rfl : i = k := hij
      cases n with
      | zero => rfl
      | succ n =>
          have hno : ¬ protoIsVlan e (loadU16 e (etherType f i)) := fun hc =>
            hlast ((protoIsVlan_loadU16 e (htype i (le_refl i))).mp hc)
          rw [parseTags, if_pos hno]
  | succ j ih =>
      obtain ⟨n, rfl⟩ := Nat.exists_eq_succ_of_ne_zero (show n ≠ 0 by omega)
      have hvlan : protoIsVlan e (loadU16 e (etherType f i)) :=
        (protoIsVlan_loadU16 e (htype i (by omega))).mpr (htags i (le_refl i) (by omega))
      have hnext : peek f (14 + 4 * i + 2) 2 = etherType f (i + 1) := by
        rw [etherType, show 14 + 4 * i + 2 = 12 + 4 * (i + 1) by ring]
      rw [parseTags, if_neg (not_not.mpr hvlan), if_neg (by omega), hnext,
        show 14 + 4 * i + 4 = 14 + 4 * (i + 1) by ring]
      exact ih (by omega) (by omega) fun m hm => htags m (by omega)

/-- The Ethernet header and its tags. Kind: L -/
theorem IpFrame.parseEthernet_eq {f : Frame} {k : ℕ} (h : IpFrame f k) :
    parseEthernet e f = (loadU16 e (etherType f k), 14 + 4 * k) := by
  have hsize := h.size
  have hdepth := h.depth
  unfold MIN_PACKET_SIZE MIN_SCION_HDR_SIZE at hsize
  unfold VLAN_MAX_DEPTH at hdepth
  rw [parseEthernet, if_neg (by omega)]
  exact parseTags_of_tagged e (by omega) h.untagged k (Nat.zero_add k) hdepth fun m _ => h.tags m

/-- Word by word, two addresses are compared as a whole. Kind: L -/
theorem compIpv6_iff {a b : Bytes} (ha : a.length = 16) (hb : b.length = 16) :
    compIpv6 e a b = true ↔ a = b := by
  have hword : ∀ m : Bytes, m.length = 16 → ∀ i < 4, (peek m (4 * i) 4).length = 4 := by
    intro m hm i hi
    exact length_peek (by omega)
  have hcut : ∀ m : Bytes, m.length = 16 →
      m = peek m 0 4 ++ (peek m 4 4 ++ (peek m 8 4 ++ peek m 12 4)) := by
    intro m hm
    rw [← @peek_add m 8 4 4, ← @peek_add m 4 4 8, ← @peek_add m 0 4 12, peek_zero (by omega)]
  constructor
  · intro hall
    have heq : ∀ i < 4, peek a (4 * i) 4 = peek b (4 * i) 4 := by
      intro i hi
      have hi' := List.all_eq_true.mp hall i (List.mem_range.mpr hi)
      exact (loadU32_inj (hword a ha i hi) (hword b hb i hi)).mp (beq_iff_eq.mp hi')
    rw [hcut a ha, hcut b hb, heq 0 (by omega), heq 1 (by omega), heq 2 (by omega),
      heq 3 (by omega)]
  · intro heq
    rw [heq, compIpv6, List.all_eq_true]
    intro i _
    exact beq_self_eq_true _

/-- An IPv4 header that is complete. Kind: L -/
theorem parseIpv4_eq_some {f : Frame} {data : ℕ} (hlen : data + 20 ≤ f.length)
    (hihl : data + 4 * (byteAt f data &&& 0xF).toNat ≤ f.length) :
    parseIpv4 f data = some (data, data + 4 * (byteAt f data &&& 0xF).toNat) := by
  simp only [parseIpv4]
  rw [if_neg (not_lt.mpr hlen), if_neg (not_lt.mpr hihl)]

/-- An IPv6 header without extension headers. Kind: L -/
theorem parseIpv6_of_not_extension {f : Frame} {data : ℕ} (hlen : data + 42 ≤ f.length)
    (hnh : ¬ IsExtension (byteAt f (data + 6))) :
    parseIpv6 f data = some (data, byteAt f (data + 6), data + 40) := by
  unfold IsExtension at hnh
  rw [parseIpv6, if_neg (by omega), IPV6_MAX_ESTENSIONS, parseExtensions, if_neg (by omega),
    if_neg (by tauto), if_neg (by tauto), if_neg (by tauto)]

end parsers

/-! ## The decision -/

/-- The first four bytes of the value are the IPv4 address. Kind: L -/
theorem peek_scionIpValue_ipv4 (host4 : List.Vector UInt8 4) (host6 : List.Vector UInt8 16) :
    peek (scionIpValue host4 host6) 0 4 = host4.toList := by
  rw [scionIpValue, peek_append_left (by simp), peek_zero (by simp)]

/-- The other sixteen bytes are the IPv6 address. Kind: L -/
theorem peek_scionIpValue_ipv6 (host4 : List.Vector UInt8 4) (host6 : List.Vector UInt8 16) :
    peek (scionIpValue host4 host6) 4 16 = host6.toList := by
  rw [scionIpValue, peek_append_right _ _ (by simp)]
  simp [peek_zero]

/-- The first comparison is with the IPv4 address. Kind: L -/
theorem loadU32_scionIpValue_iff (e : Endian) (host4 : List.Vector UInt8 4)
    (host6 : List.Vector UInt8 16) {bs : Bytes} (hlen : bs.length = 4) :
    loadU32 e bs = loadU32 e (peek (scionIpValue host4 host6) 0 4) ↔ bs = host4.toList := by
  rw [loadU32_inj hlen (length_peek (by simp [scionIpValue])), peek_scionIpValue_ipv4]

/-- The second one is with the IPv6 address. Kind: L -/
theorem compIpv6_scionIpValue_iff (e : Endian) (host4 : List.Vector UInt8 4)
    (host6 : List.Vector UInt8 16) {bs : Bytes} (hlen : bs.length = 16) :
    compIpv6 e bs (peek (scionIpValue host4 host6) 4 16) = true ↔ bs = host6.toList := by
  rw [compIpv6_iff e hlen (length_peek (by simp [scionIpValue])), peek_scionIpValue_ipv6]

/-- The last two tests in either family. Kind: L -/
theorem tests_eq (rxQueueIndex : UInt32) (f : Frame) (n : UInt8) {P : Prop} [Decidable P] :
    (if ¬ P then ⟨.XDP_PASS, f⟩
      else if n ≠ IPPROTO_ICMP ∧ n ≠ IPPROTO_UDP then ⟨.XDP_PASS, f⟩
      else ⟨.bpfRedirectMap rxQueueIndex, f⟩ : FilterResult) =
      ⟨if P ∧ (n = IPPROTO_ICMP ∨ n = IPPROTO_UDP) then .bpfRedirectMap rxQueueIndex
        else .XDP_PASS, f⟩ := by
  by_cases hp : P
  · by_cases hn : n = IPPROTO_ICMP ∨ n = IPPROTO_UDP
    · rw [if_neg (not_not.mpr hp), if_neg (fun h => not_or.mpr h hn), if_pos ⟨hp, hn⟩]
    · rw [if_neg (not_not.mpr hp), if_pos (not_or.mp hn), if_neg (fun h => hn h.2)]
  · rw [if_pos hp, if_neg (fun h => hp h.1)]

/-- **The program in closed form** on a frame in its domain: it looks for UDP and the number of
ICMPv4 in either family. Kind: P -/
theorem scionFilter_of_ipFrame (e : Endian) (host4 : List.Vector UInt8 4)
    (host6 : List.Vector UInt8 16) (rxQueueIndex : UInt32) {f : Frame} {k : ℕ} (h : IpFrame f k) :
    scionFilter e (some (scionIpValue host4 host6)) rxQueueIndex f =
      ⟨if IpMatch IPPROTO_ICMP host4 host6 f k then .bpfRedirectMap rxQueueIndex else .XDP_PASS,
        f⟩ := by
  have hsize := h.size
  have hdepth := h.depth
  have htype : (etherType f k).length = 2 := by
    unfold MIN_PACKET_SIZE MIN_SCION_HDR_SIZE at hsize
    unfold VLAN_MAX_DEPTH at hdepth
    exact length_peek (by omega)
  have hip4 : loadU16 e (etherType f k) = bpfNtohs e ETH_P_IP ↔ etherType f k = [0x08, 0x00] :=
    loadU16_eq_bpfHtons htype ETH_P_IP
  have hip6 : loadU16 e (etherType f k) = bpfNtohs e ETH_P_IPV6 ↔ etherType f k = [0x86, 0xDD] :=
    loadU16_eq_bpfHtons htype ETH_P_IPV6
  rw [scionFilter, if_neg (not_lt.mpr hsize)]
  simp only [h.parseEthernet_eq e, hip4, hip6]
  unfold MIN_PACKET_SIZE MIN_SCION_HDR_SIZE at hsize
  unfold VLAN_MAX_DEPTH at hdepth
  by_cases h4 : etherType f k = [0x08, 0x00]
  · -- IPv4: the header is complete, so the addresses are compared
    have h46 : ¬ etherType f k = [0x86, 0xDD] := by
      rw [h4]
      decide
    have hdaddr : (peek f (14 + 4 * k + 16) 4).length = 4 := length_peek (by omega)
    have hdst := loadU32_scionIpValue_iff e host4 host6 hdaddr
    have hmatch : IpMatch IPPROTO_ICMP host4 host6 f k ↔ peek f (14 + 4 * k + 16) 4 = host4.toList ∧
        (byteAt f (14 + 4 * k + 9) = IPPROTO_ICMP ∨ byteAt f (14 + 4 * k + 9) = IPPROTO_UDP) := by
      unfold IpMatch
      tauto
    rw [if_pos h4, parseIpv4_eq_some (by omega) (h.ipv4 h4)]
    simp only [hmatch, ne_eq, hdst]
    exact tests_eq rxQueueIndex f _
  · rw [if_neg h4]
    by_cases h6 : etherType f k = [0x86, 0xDD]
    · -- IPv6 without extension headers
      have hlen : 14 + 4 * k + 42 ≤ f.length := by omega
      have hparse := parseIpv6_of_not_extension hlen (h.ipv6 h6)
      have hdaddr : (peek f (14 + 4 * k + 24) 16).length = 16 := length_peek (by omega)
      have hdst := compIpv6_scionIpValue_iff e host4 host6 hdaddr
      have hmatch : IpMatch IPPROTO_ICMP host4 host6 f k ↔
          peek f (14 + 4 * k + 24) 16 = host6.toList ∧
            (byteAt f (14 + 4 * k + 6) = IPPROTO_ICMP ∨
              byteAt f (14 + 4 * k + 6) = IPPROTO_UDP) := by
        unfold IpMatch
        tauto
      rw [if_pos h6, hparse]
      simp only [hmatch, ne_eq, hdst]
      exact tests_eq rxQueueIndex f _
    · rw [if_neg h6, if_neg (by unfold IpMatch; tauto)]

/-- The filter classifies a frame as it should: it hands UDP and ICMP to the socket, in either
family, and leaves everything else to the kernel. Kind: D -/
def Classifies (e : Endian) (host4 : List.Vector UInt8 4) (host6 : List.Vector UInt8 16)
    (rxQueueIndex : UInt32) (f : Frame) (k : ℕ) : Prop :=
  scionFilter e (some (scionIpValue host4 host6)) rxQueueIndex f =
    ⟨if IpMatch IPPROTO_ICMPV6 host4 host6 f k then .bpfRedirectMap rxQueueIndex else .XDP_PASS, f⟩

/-- **When the filter treats both families alike**: always but for an IPv6 frame to the configured
address that carries ICMPv6, which is left to the kernel, or the protocol of that number in IPv4,
which is not. Kind: P -/
theorem classifies_iff (e : Endian) (host4 : List.Vector UInt8 4) (host6 : List.Vector UInt8 16)
    (rxQueueIndex : UInt32) {f : Frame} {k : ℕ} (h : IpFrame f k) :
    Classifies e host4 host6 rxQueueIndex f k ↔
      ¬ (etherType f k = [0x86, 0xDD] ∧ peek f (14 + 4 * k + 24) 16 = host6.toList ∧
        (byteAt f (14 + 4 * k + 6) = IPPROTO_ICMP ∨
          byteAt f (14 + 4 * k + 6) = IPPROTO_ICMPV6)) := by
  have hsame : Classifies e host4 host6 rxQueueIndex f k ↔
      (IpMatch IPPROTO_ICMP host4 host6 f k ↔ IpMatch IPPROTO_ICMPV6 host4 host6 f k) := by
    rw [Classifies, scionFilter_of_ipFrame e host4 host6 rxQueueIndex h, FilterResult.mk.injEq]
    by_cases h1 : IpMatch IPPROTO_ICMP host4 host6 f k
    · by_cases h58 : IpMatch IPPROTO_ICMPV6 host4 host6 f k
      · simp [h1, h58]
      · simp [h1, h58]
    · by_cases h58 : IpMatch IPPROTO_ICMPV6 host4 host6 f k
      · simp [h1, h58]
      · simp [h1, h58]
  have h1udp : IPPROTO_ICMP ≠ IPPROTO_UDP := by decide
  have h58udp : IPPROTO_ICMPV6 ≠ IPPROTO_UDP := by decide
  have h1ne58 : IPPROTO_ICMP ≠ IPPROTO_ICMPV6 := by decide
  have h46 : etherType f k = [0x86, 0xDD] → ¬ etherType f k = [0x08, 0x00] := by
    intro h6
    rw [h6]
    decide
  rw [hsame]
  unfold IpMatch
  constructor
  · rintro hiff ⟨h6, hd, hnh | hnh⟩
    · -- ICMPv4 in IPv6 is handed over
      rcases hiff.mp (Or.inr ⟨h6, hd, Or.inl hnh⟩) with ⟨h4, -⟩ | ⟨-, -, hnh' | hnh'⟩
      · exact h46 h6 h4
      · exact h1ne58 (hnh.symm.trans hnh')
      · exact h1udp (hnh.symm.trans hnh')
    · -- ICMPv6 is not
      rcases hiff.mpr (Or.inr ⟨h6, hd, Or.inl hnh⟩) with ⟨h4, -⟩ | ⟨-, -, hnh' | hnh'⟩
      · exact h46 h6 h4
      · exact h1ne58 (hnh'.symm.trans hnh)
      · exact h58udp (hnh.symm.trans hnh')
  · intro hno
    constructor
    · rintro (hv4 | ⟨h6, hd, hnh | hnh⟩)
      · exact Or.inl hv4
      · exact absurd ⟨h6, hd, Or.inl hnh⟩ hno
      · exact Or.inr ⟨h6, hd, Or.inr hnh⟩
    · rintro (hv4 | ⟨h6, hd, hnh | hnh⟩)
      · exact Or.inl hv4
      · exact absurd ⟨h6, hd, Or.inr hnh⟩ hno
      · exact Or.inr ⟨h6, hd, Or.inr hnh⟩

/-- Bytes of a frame that does not matter in detail. Kind: D -/
def zeros (n : ℕ) : Bytes := List.replicate n 0

/-- The underlay addresses `192.0.2.1` and `fd00::1`. Kind: D -/
def sampleHost4 : List.Vector UInt8 4 := ⟨[192, 0, 2, 1], rfl⟩

/-- The IPv6 address of the sample host. Kind: D -/
def sampleHost6 : List.Vector UInt8 16 := ⟨[0xFD, 0, 0, 0, 0, 0, 0, 0, 0, 0, 0, 0, 0, 0, 0, 1], rfl⟩

/-- An IPv6 frame to the sample host with one VLAN tag and 80 bytes of the given protocol.
Kind: D -/
def taggedFrame (nexthdr : UInt8) : Frame :=
  zeros 12 ++ [0x81, 0, 0, 1, 0x86, 0xDD] ++ ([0x60, 0, 0, 0, 0, 80, nexthdr, 64] ++ zeros 16 ++
    sampleHost6.toList) ++ zeros 80

/-- The tagged frame is in the domain of the filter. Kind: L -/
theorem ipFrame_taggedFrame {nexthdr : UInt8} (h : ¬ IsExtension nexthdr) :
    IpFrame (taggedFrame nexthdr) 1 := by
  have houter : etherType (taggedFrame nexthdr) 0 = [0x81, 0x00] := rfl
  have hinner : etherType (taggedFrame nexthdr) 1 = [0x86, 0xDD] := rfl
  have hnh : byteAt (taggedFrame nexthdr) (14 + 4 * 1 + 6) = nexthdr := rfl
  constructor
  case size => simp [taggedFrame, zeros, sampleHost6, MIN_PACKET_SIZE, MIN_SCION_HDR_SIZE]
  case depth => decide
  case tags =>
    intro i hi
    obtain rfl : i = 0 := by omega
    exact Or.inl houter
  case untagged =>
    rw [hinner]
    decide
  case ipv4 =>
    intro h4
    rw [hinner] at h4
    cases h4
  case ipv6 =>
    intro _
    rwa [hnh]

/-- A tagged UDP frame is handed to the socket. Kind: C -/
theorem classifies_sample :
    Classifies .little sampleHost4 sampleHost6 0 (taggedFrame IPPROTO_UDP) 1 :=
  (classifies_iff .little sampleHost4 sampleHost6 0 (ipFrame_taggedFrame (by decide))).mpr
    (by decide +kernel)

/-- A tagged ICMPv6 frame to the configured address is left to the kernel. Kind: C -/
theorem not_classifies_icmpv6 :
    IpFrame (taggedFrame IPPROTO_ICMPV6) 1 ∧
      ¬ Classifies .little sampleHost4 sampleHost6 0 (taggedFrame IPPROTO_ICMPV6) 1 := by
  refine ⟨ipFrame_taggedFrame (by decide), ?_⟩
  unfold Classifies
  decide +kernel

end ScionIp.Vpp
