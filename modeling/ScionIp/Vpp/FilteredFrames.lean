import ScionIp.Vpp.ExtensionHeaders

/-!
# Which frames the filter takes

`IpFrame` in `XdpFilter` leaves out frames with extension headers and incomplete ones. Here every
frame is decided.

* `Takes` — the frames for the configured host, by their tags, addresses and upper layer.
* `scionFilter_verdict_iff` — exactly these are redirected.
* `scionFilter_decides` — and all others are left to the kernel, with every frame unchanged.
* `headers_do_not_matter` — VLAN tags in front of a packet and plain extension headers in it make
  no difference, up to the limits of the program.
-/

namespace ScionIp.Vpp

open ScionIp.Lib ScionIp.Ebpf

/-! ## The frames -/

/-- The filter looks for UDP and, in either family, for the number of ICMPv4. Kind: D -/
def IsWanted (n : UInt8) : Prop := n = IPPROTO_ICMP ∨ n = IPPROTO_UDP

/-- **An IPv4 packet for the host** at `data`, whose header is in the frame. Kind: D -/
def TakesIpv4 (host4 : List.Vector UInt8 4) (f : Frame) (data : ℕ) : Prop :=
  data + 4 * (byteAt f data &&& 0xF).toNat ≤ f.length ∧ peek f (data + 16) 4 = host4.toList ∧
    IsWanted (byteAt f (data + 9))

/-- **An IPv6 packet for the host** at `data`: at most five extension headers lead to its upper
layer, two bytes of which are in the frame. An authentication header counts four bytes less than it
has. Kind: D -/
def TakesIpv6 (host6 : List.Vector UInt8 16) (f : Frame) (data : ℕ) : Prop :=
  peek f (data + 24) 16 = host6.toList ∧
    ∃ j < IPV6_MAX_ESTENSIONS, ∃ n d, Ends (shortMove f) j (firstHeader f data) (n, d) ∧
      d + 2 ≤ f.length ∧ IsWanted n

/-- **The frames for the host**: long enough, with at most four VLAN tags, and a packet of either
family behind them. Kind: D -/
def Takes (host4 : List.Vector UInt8 4) (host6 : List.Vector UInt8 16) (f : Frame) : Prop :=
  MIN_PACKET_SIZE ≤ f.length ∧ ∃ k ≤ VLAN_MAX_DEPTH, (∀ i < k, IsVlanType (etherType f i)) ∧
    (etherType f k = [0x08, 0x00] ∧ TakesIpv4 host4 f (14 + 4 * k) ∨
      etherType f k = [0x86, 0xDD] ∧ TakesIpv6 host6 f (14 + 4 * k))

/-- Neither family has the type of a tag. Kind: L -/
theorem not_isVlanType_ip {bs : Bytes} (h : bs = [0x08, 0x00] ∨ bs = [0x86, 0xDD]) :
    ¬ IsVlanType bs := by
  rcases h with rfl | rfl
  · decide
  · decide

/-! ## The parsers on every frame -/

section parsers

variable (e : Endian)

/-- **Where the loop over the tags stops**: behind the last tag, or after as many iterations as it
has. The induction is on the iterations left. Kind: L -/
theorem exists_parseTags {f : Frame} (n : ℕ) {i : ℕ} (hlen : 14 + 4 * (i + n) ≤ f.length) :
    ∃ k, i ≤ k ∧ k ≤ i + n ∧ (∀ m, i ≤ m → m < k → IsVlanType (etherType f m)) ∧
      (IsVlanType (etherType f k) → k = i + n) ∧
      parseTags e f n (loadU16 e (etherType f i)) (14 + 4 * i)
        = (loadU16 e (etherType f k), 14 + 4 * k) := by
  have htype : (etherType f i).length = 2 := length_peek (by omega)
  induction n generalizing i with
  | zero => exact ⟨i, le_refl i, le_refl i, fun m hm hlt => absurd hlt (not_lt.mpr hm),
      fun _ => rfl, rfl⟩
  | succ n ih =>
      by_cases hvlan : IsVlanType (etherType f i)
      · have hnext : peek f (14 + 4 * i + 2) 2 = etherType f (i + 1) := by
          rw [etherType, show 14 + 4 * i + 2 = 12 + 4 * (i + 1) by ring]
        have hproto := (protoIsVlan_loadU16 e htype).mpr hvlan
        obtain ⟨k, hik, hkn, htags, hlast, hparse⟩ := @ih (i + 1) (by omega)
          (length_peek (by omega))
        refine ⟨k, by omega, by omega, ?_, fun h => by have := hlast h; omega, ?_⟩
        · intro m hm hlt
          rcases Nat.eq_or_lt_of_le hm with rfl | hgt
          · exact hvlan
          · exact htags m hgt hlt
        · rw [parseTags, if_neg (not_not.mpr hproto), if_neg (by omega), hnext,
            show 14 + 4 * i + 4 = 14 + 4 * (i + 1) by ring]
          exact hparse
      · have hproto : ¬ protoIsVlan e (loadU16 e (etherType f i)) := fun h =>
          hvlan ((protoIsVlan_loadU16 e htype).mp h)
        refine ⟨i, le_refl i, by omega, fun m hm hlt => absurd hlt (not_lt.mpr hm),
          fun h => absurd h hvlan, ?_⟩
        rw [parseTags, if_pos hproto]

/-- The Ethernet header of a frame that is long enough. Kind: L -/
theorem exists_parseEthernet {f : Frame} (hsize : MIN_PACKET_SIZE ≤ f.length) :
    ∃ k ≤ VLAN_MAX_DEPTH, (∀ i < k, IsVlanType (etherType f i)) ∧
      (IsVlanType (etherType f k) → k = VLAN_MAX_DEPTH) ∧
      parseEthernet e f = (loadU16 e (etherType f k), 14 + 4 * k) := by
  unfold MIN_PACKET_SIZE MIN_SCION_HDR_SIZE at hsize
  obtain ⟨k, -, hk, htags, hlast, hparse⟩ := @exists_parseTags e f VLAN_MAX_DEPTH 0
    (by unfold VLAN_MAX_DEPTH; omega)
  rw [Nat.zero_add] at hk hlast
  refine ⟨k, hk, fun i hi => htags i (Nat.zero_le i) hi, hlast, ?_⟩
  rw [parseEthernet, if_neg (by omega)]
  exact hparse

/-- **The packet behind the tags is the one the program finds.** Kind: L -/
theorem takes_iff {f : Frame} (hsize : MIN_PACKET_SIZE ≤ f.length) {k : ℕ}
    (hk : k ≤ VLAN_MAX_DEPTH) (htags : ∀ i < k, IsVlanType (etherType f i))
    (hlast : IsVlanType (etherType f k) → k = VLAN_MAX_DEPTH)
    (host4 : List.Vector UInt8 4) (host6 : List.Vector UInt8 16) :
    Takes host4 host6 f ↔
      etherType f k = [0x08, 0x00] ∧ TakesIpv4 host4 f (14 + 4 * k) ∨
        etherType f k = [0x86, 0xDD] ∧ TakesIpv6 host6 f (14 + 4 * k) := by
  constructor
  · rintro ⟨-, k', hk', htags', hip⟩
    have hno : ¬ IsVlanType (etherType f k') :=
      not_isVlanType_ip (hip.imp And.left And.left)
    rcases lt_trichotomy k k' with hlt | rfl | hgt
    · have := hlast (htags' k hlt)
      omega
    · exact hip
    · exact absurd (htags k' hgt) hno
  · intro hip
    exact ⟨hsize, k, hk, htags, hip⟩

end parsers

/-- The upper layer of a packet for the host. Kind: L -/
theorem parseIpv6_wanted_iff {f : Frame} {data : ℕ} (hlen : data + 40 ≤ f.length) :
    (∃ ip n d, parseIpv6 f data = some (ip, n, d) ∧ ip = data ∧ IsWanted n) ↔
      ∃ j < IPV6_MAX_ESTENSIONS, ∃ n d, Ends (shortMove f) j (firstHeader f data) (n, d) ∧
        d + 2 ≤ f.length ∧ IsWanted n := by
  constructor
  · rintro ⟨ip, n, d, hparse, -, hn⟩
    obtain ⟨-, -, j, hj, hends⟩ := (parseIpv6_eq_some_iff f data ip n d).mp hparse
    obtain ⟨hroom, hshort⟩ := (loop_ends_iff j _ n d).mp hends
    exact ⟨j, hj, n, d, hshort, hroom, hn⟩
  · rintro ⟨j, hj, n, d, hshort, hroom, hn⟩
    have hends := (loop_ends_iff j _ n d).mpr ⟨hroom, hshort⟩
    exact ⟨data, n, d, (parseIpv6_eq_some_iff f data data n d).mpr ⟨hlen, rfl, j, hj, hends⟩,
      rfl, hn⟩

/-! ## The decision -/

section decision

variable (e : Endian) (host4 : List.Vector UInt8 4) (host6 : List.Vector UInt8 16)
  (rxQueueIndex : UInt32)

/-- The filter leaves the frame alone, and either leaves it to the kernel or redirects it.
Kind: L -/
theorem scionFilter_cases (filter : Option Bytes) (f : Frame) :
    scionFilter e filter rxQueueIndex f = ⟨.XDP_PASS, f⟩ ∨
      scionFilter e filter rxQueueIndex f = ⟨.bpfRedirectMap rxQueueIndex, f⟩ := by
  unfold scionFilter
  split
  · exact .inl rfl
  cases filter with
  | none => exact .inl rfl
  | some filter =>
      simp only
      split
      · cases parseIpv4 f (parseEthernet e f).2 with
        | none => exact .inl rfl
        | some ip =>
            simp only
            split_ifs
            · exact .inl rfl
            · exact .inl rfl
            · exact .inr rfl
      split
      · cases parseIpv6 f (parseEthernet e f).2 with
        | none => exact .inl rfl
        | some ip =>
            simp only
            split_ifs
            · exact .inl rfl
            · exact .inr rfl
            · exact .inl rfl
      · exact .inl rfl

/-- An IPv4 header that is not. Kind: L -/
theorem parseIpv4_eq_none {f : Frame} {data : ℕ} (hlen : data + 20 ≤ f.length)
    (hihl : ¬ data + 4 * (byteAt f data &&& 0xF).toNat ≤ f.length) : parseIpv4 f data = none := by
  simp only [parseIpv4]
  rw [if_neg (not_lt.mpr hlen), if_pos (not_le.mp hihl)]

/-- The frames that pass the last two tests. Kind: L -/
theorem tests_verdict_iff (f : Frame) (n : UInt8) {P : Prop} [Decidable P] :
    (if ¬ P then ⟨.XDP_PASS, f⟩
      else if n ≠ IPPROTO_ICMP ∧ n ≠ IPPROTO_UDP then ⟨.XDP_PASS, f⟩
      else ⟨.bpfRedirectMap rxQueueIndex, f⟩ : FilterResult).verdict
      = .bpfRedirectMap rxQueueIndex ↔ P ∧ IsWanted n := by
  rw [tests_eq, IsWanted]
  split_ifs with h
  · exact iff_of_true rfl h
  · exact iff_of_false (fun hpass => by cases hpass) h

/-- **The frames that are redirected.** Kind: L -/
theorem scionFilter_verdict_iff (f : Frame) :
    (scionFilter e (some (scionIpValue host4 host6)) rxQueueIndex f).verdict
      = .bpfRedirectMap rxQueueIndex ↔ Takes host4 host6 f := by
  by_cases hsize : MIN_PACKET_SIZE ≤ f.length
  swap
  · rw [scionFilter, if_pos (not_le.mp hsize)]
    exact iff_of_false (fun h => by cases h) fun h => hsize h.1
  obtain ⟨k, hk, htags, hlast, hparse⟩ := exists_parseEthernet e hsize
  have hlen := hsize
  unfold MIN_PACKET_SIZE MIN_SCION_HDR_SIZE at hlen
  unfold VLAN_MAX_DEPTH at hk
  have htype : (etherType f k).length = 2 := length_peek (by omega)
  have hip4 : loadU16 e (etherType f k) = bpfNtohs e ETH_P_IP ↔ etherType f k = [0x08, 0x00] :=
    loadU16_eq_bpfHtons htype ETH_P_IP
  have hip6 : loadU16 e (etherType f k) = bpfNtohs e ETH_P_IPV6 ↔ etherType f k = [0x86, 0xDD] :=
    loadU16_eq_bpfHtons htype ETH_P_IPV6
  rw [takes_iff hsize hk htags hlast, scionFilter, if_neg (not_lt.mpr hsize)]
  simp only [hparse, hip4, hip6]
  by_cases h4 : etherType f k = [0x08, 0x00]
  · -- IPv4
    have h6 : ¬ etherType f k = [0x86, 0xDD] := by
      rw [h4]
      decide
    have hdaddr : (peek f (14 + 4 * k + 16) 4).length = 4 := length_peek (by omega)
    have hdst := loadU32_scionIpValue_iff e host4 host6 hdaddr
    rw [if_pos h4, and_iff_right h4, or_iff_left (fun h => h6 h.1), TakesIpv4, IsWanted]
    by_cases hihl : 14 + 4 * k + 4 * (byteAt f (14 + 4 * k) &&& 0xF).toNat ≤ f.length
    · rw [parseIpv4_eq_some (by omega) hihl]
      simp only [ne_eq, hdst]
      exact (tests_verdict_iff rxQueueIndex f _).trans (and_iff_right hihl).symm
    · rw [parseIpv4_eq_none (by omega) hihl]
      exact iff_of_false (fun h => by cases h) fun h => hihl h.1
  · rw [if_neg h4]
    by_cases h6 : etherType f k = [0x86, 0xDD]
    · -- IPv6
      have hdaddr : (peek f (14 + 4 * k + 24) 16).length = 16 := length_peek (by omega)
      have hdst := compIpv6_scionIpValue_iff e host4 host6 hdaddr
      rw [if_pos h6, and_iff_right h6, or_iff_right (fun h => h4 h.1), TakesIpv6,
        ← parseIpv6_wanted_iff (by omega)]
      cases hupper : parseIpv6 f (14 + 4 * k) with
      | none =>
          refine iff_of_false (fun h => by cases h) ?_
          rintro ⟨-, ip, n, d, hsome, -⟩
          cases hsome
      | some upper =>
          obtain ⟨ip, n, d⟩ := upper
          obtain ⟨-, rfl, -⟩ := (parseIpv6_eq_some_iff f _ ip n d).mp hupper
          have hwanted : (∃ ip' n' d', some (14 + 4 * k, n, d) = some (ip', n', d') ∧
              ip' = 14 + 4 * k ∧ IsWanted n') ↔ IsWanted n := by
            constructor
            · rintro ⟨ip', n', d', hsome, -, hn⟩
              cases hsome
              exact hn
            · exact fun hn => ⟨_, n, d, rfl, rfl, hn⟩
          simp only [ne_eq, hdst]
          exact (tests_verdict_iff rxQueueIndex f n).trans (and_congr_right' hwanted.symm)
    · rw [if_neg h6]
      refine iff_of_false (fun h => by cases h) ?_
      rintro (⟨h, -⟩ | ⟨h, -⟩)
      · exact h4 h
      · exact h6 h

/-- A frame that is taken is redirected, any other one is left to the kernel. Kind: L -/
theorem scionFilter_eq (f : Frame) :
    scionFilter e (some (scionIpValue host4 host6)) rxQueueIndex f
        = ⟨.bpfRedirectMap rxQueueIndex, f⟩ ∧ Takes host4 host6 f ∨
      scionFilter e (some (scionIpValue host4 host6)) rxQueueIndex f = ⟨.XDP_PASS, f⟩ ∧
        ¬ Takes host4 host6 f := by
  have hiff := scionFilter_verdict_iff e host4 host6 rxQueueIndex f
  rcases scionFilter_cases e rxQueueIndex (some (scionIpValue host4 host6)) f with heq | heq
  · rw [heq] at hiff ⊢
    exact .inr ⟨rfl, fun h => by cases hiff.mpr h⟩
  · rw [heq] at hiff ⊢
    exact .inl ⟨rfl, hiff.mp rfl⟩

/-- **What the filter does with every frame**, on hosts of either byte order: it redirects those
for the configured host, leaves all others to the kernel, and changes none. Kind: P -/
theorem scionFilter_decides (f : Frame) :
    (scionFilter e (some (scionIpValue host4 host6)) rxQueueIndex f).frame = f ∧
      ((scionFilter e (some (scionIpValue host4 host6)) rxQueueIndex f).verdict
        = .bpfRedirectMap rxQueueIndex ↔ Takes host4 host6 f) ∧
      ((scionFilter e (some (scionIpValue host4 host6)) rxQueueIndex f).verdict = .XDP_PASS ↔
        ¬ Takes host4 host6 f) := by
  rcases scionFilter_eq e host4 host6 rxQueueIndex f with ⟨heq, htakes⟩ | ⟨heq, hno⟩
  · rw [heq]
    exact ⟨rfl, iff_of_true rfl htakes, iff_of_false (fun h => by cases h) (not_not.mpr htakes)⟩
  · rw [heq]
    exact ⟨rfl, iff_of_false (fun h => by cases h) hno, iff_of_true rfl hno⟩

end decision

/-! ## Packets behind other bytes -/

section shift

variable (front : Bytes)

/-- A byte of the packet. Kind: L -/
theorem byteAt_append_right (packet : Bytes) (i : ℕ) :
    byteAt (front ++ packet) (front.length + i) = byteAt packet i := by
  rw [byteAt, List.getD_append_right _ _ _ _ (Nat.le_add_right _ _), Nat.add_sub_cancel_left]
  rfl

/-- Bytes of the packet. Kind: L -/
theorem peek_append_shift (packet : Bytes) (i n : ℕ) :
    peek (front ++ packet) (front.length + i) n = peek packet i n := by
  rw [peek_append_right _ _ (Nat.le_add_right _ _), Nat.add_sub_cancel_left]

/-- The state of a walk over the packet, in the whole frame. Kind: D -/
def shiftState (s : UInt8 × ℕ) : UInt8 × ℕ := (s.1, front.length + s.2)

/-- **The walk over a packet does not depend on what stands in front of it.** Kind: L -/
theorem shortMove_shift (packet : Bytes) (s : UInt8 × ℕ) :
    shortMove (front ++ packet) (shiftState front s)
      = (shortMove packet s).map (shiftState front) := by
  obtain ⟨nh, pos⟩ := s
  have hbyte : byteAt (front ++ packet) (front.length + pos + 1) = byteAt packet (pos + 1) :=
    byteAt_append_right front packet (pos + 1)
  have hroom : front.length + pos + 2 ≤ (front ++ packet).length ↔ pos + 2 ≤ packet.length := by
    rw [List.length_append]
    omega
  simp only [shiftState, shortMove, chainMove, byteAt_append_right, hbyte, hroom]
  split_ifs
  · rw [Move.map, shiftState, Nat.add_assoc]
  · rfl
  · rfl

/-- An IPv4 packet behind other bytes. Kind: L -/
theorem takesIpv4_append (host4 : List.Vector UInt8 4) (packet : Bytes) :
    TakesIpv4 host4 (front ++ packet) front.length ↔ TakesIpv4 host4 packet 0 := by
  have hfirst := byteAt_append_right front packet 0
  rw [Nat.add_zero] at hfirst
  rw [TakesIpv4, TakesIpv4, hfirst, peek_append_shift, byteAt_append_right, List.length_append,
    Nat.zero_add, Nat.zero_add, Nat.zero_add, Nat.add_le_add_iff_left]

/-- An IPv6 packet behind other bytes. Kind: L -/
theorem takesIpv6_append (host6 : List.Vector UInt8 16) (packet : Bytes) :
    TakesIpv6 host6 (front ++ packet) front.length ↔ TakesIpv6 host6 packet 0 := by
  have hfirst : firstHeader (front ++ packet) front.length
      = shiftState front (firstHeader packet 0) := by
    rw [firstHeader, byteAt_append_right]
    rfl
  have hroom : ∀ d, front.length + d + 2 ≤ (front ++ packet).length ↔ d + 2 ≤ packet.length := by
    intro d
    rw [List.length_append]
    omega
  rw [TakesIpv6, TakesIpv6, peek_append_shift, Nat.zero_add]
  refine and_congr_right fun _ => exists_congr fun j => and_congr_right fun _ => ?_
  constructor
  · rintro ⟨n, d, hends, hfits, hn⟩
    rw [hfirst, ends_map_iff (shortMove_shift front packet)] at hends
    obtain ⟨⟨n', d'⟩, hend, hends⟩ := hends
    cases hend
    exact ⟨n', d', hends, (hroom d').mp hfits, hn⟩
  · rintro ⟨n, d, hends, hfits, hn⟩
    refine ⟨n, front.length + d, ?_, (hroom d).mpr hfits, hn⟩
    rw [hfirst, ends_map_iff (shortMove_shift front packet)]
    exact ⟨(n, d), rfl, hends⟩

end shift

/-! ## Tags and extension headers -/

/-- A VLAN tag. Kind: D -/
structure VlanTag where
  type : Bytes
  tci : Bytes
  vlan : IsVlanType type
  size : tci.length = 2

/-- Some tags one behind the other. Kind: D -/
def layTags : List VlanTag → Bytes
  | [] => []
  | t :: ts => t.type ++ (t.tci ++ layTags ts)

/-- A frame with some tags: MAC addresses, tags, type, packet. Kind: D -/
def ethernetFrame (macs : List.Vector UInt8 12) (tags : List VlanTag) (type packet : Bytes) :
    Frame := macs.toList ++ (layTags tags ++ (type ++ packet))

/-- The type of a tag has two bytes. Kind: L -/
theorem VlanTag.length_type (t : VlanTag) : t.type.length = 2 := by
  rcases t.vlan with h | h
  · rw [h]
    rfl
  · rw [h]
    rfl

/-- A tag has four bytes. Kind: L -/
@[simp] theorem length_layTags (tags : List VlanTag) : (layTags tags).length = 4 * tags.length := by
  induction tags with
  | nil => rfl
  | cons t ts ih =>
      rw [layTags, List.length_append, List.length_append, t.length_type, t.size, ih,
        List.length_cons]
      ring

/-- The types in a frame with some tags. The induction is on the tags, the bytes in front of them
growing. Kind: L -/
theorem etherType_layTags (tags : List VlanTag) {front type : Bytes} (packet : Bytes) {i : ℕ}
    (hfront : front.length = 12 + 4 * i) (htype : type.length = 2) :
    (∀ m, i ≤ m → m < i + tags.length →
      IsVlanType (etherType (front ++ (layTags tags ++ (type ++ packet))) m)) ∧
      etherType (front ++ (layTags tags ++ (type ++ packet))) (i + tags.length) = type := by
  induction tags generalizing front i with
  | nil =>
      refine ⟨fun m hm hlt => absurd hlt (not_lt.mpr hm), ?_⟩
      have hat := peek_append_shift front (type ++ packet) 0 2
      rw [Nat.add_zero, hfront] at hat
      rw [layTags, List.nil_append, List.length_nil, Nat.add_zero, etherType, hat,
        peek_append_left (by omega), peek_zero (by omega)]
  | cons t ts ih =>
      have hcut : front ++ (layTags (t :: ts) ++ (type ++ packet))
          = (front ++ (t.type ++ t.tci)) ++ (layTags ts ++ (type ++ packet)) := by
        simp [layTags]
      have hlength : (front ++ (t.type ++ t.tci)).length = 12 + 4 * (i + 1) := by
        rw [List.length_append, List.length_append, t.length_type, t.size, hfront]
        ring
      obtain ⟨htags, hlast⟩ := ih hlength
      have hfirst : etherType (front ++ (layTags (t :: ts) ++ (type ++ packet))) i = t.type := by
        have hat := peek_append_shift front (layTags (t :: ts) ++ (type ++ packet)) 0 2
        rw [Nat.add_zero, hfront] at hat
        rw [etherType, hat, layTags, List.append_assoc, peek_append_left (by rw [t.length_type]),
          peek_zero (by rw [t.length_type])]
      rw [List.length_cons, show i + (ts.length + 1) = i + 1 + ts.length by ring]
      refine ⟨?_, by rw [hcut]; exact hlast⟩
      intro m hm hlt
      rcases Nat.eq_or_lt_of_le hm with rfl | hgt
      · rw [hfirst]
        exact t.vlan
      · rw [hcut]
        exact htags m hgt hlt

/-- **Tags do not matter**: the frame is for the host if the packet is. Kind: L -/
theorem takes_ethernetFrame (host4 : List.Vector UInt8 4) (host6 : List.Vector UInt8 16)
    (macs : List.Vector UInt8 12) {tags : List VlanTag} (htags : tags.length ≤ VLAN_MAX_DEPTH)
    {type packet : Bytes} (htype : type.length = 2) (hplain : ¬ IsVlanType type)
    (hsize : MIN_PACKET_SIZE ≤ 14 + packet.length) :
    Takes host4 host6 (ethernetFrame macs tags type packet) ↔
      type = [0x08, 0x00] ∧ TakesIpv4 host4 packet 0 ∨
        type = [0x86, 0xDD] ∧ TakesIpv6 host6 packet 0 := by
  obtain ⟨hbefore, hlast⟩ := @etherType_layTags tags macs.toList type packet 0 (by simp) htype
  rw [Nat.zero_add] at hbefore hlast
  have hcut : ethernetFrame macs tags type packet
      = (macs.toList ++ (layTags tags ++ type)) ++ packet := by
    simp [ethernetFrame]
  have hdata : 14 + 4 * tags.length = (macs.toList ++ (layTags tags ++ type)).length := by
    simp [htype]
    omega
  have hlength : MIN_PACKET_SIZE ≤ (ethernetFrame macs tags type packet).length := by
    rw [hcut, List.length_append, ← hdata]
    omega
  have hno : ¬ IsVlanType (etherType (ethernetFrame macs tags type packet) tags.length) := by
    rw [ethernetFrame, hlast]
    exact hplain
  rw [takes_iff hlength htags (fun i hi => hbefore i (Nat.zero_le i) hi)
    (fun h => absurd h hno), hdata]
  rw [ethernetFrame, hlast, ← ethernetFrame, hcut, takesIpv4_append, takesIpv6_append]

/-- An IPv6 packet, but for its extension headers. Kind: D -/
structure Ipv6Packet where
  first : List.Vector UInt8 4
  hopLimit : UInt8
  saddr : List.Vector UInt8 16
  daddr : List.Vector UInt8 16
  upper : UInt8
  isUpper : ¬ IsExtension upper
  payload : Bytes

/-- The IPv6 header in front of some extension headers. Kind: D -/
def Ipv6Packet.header (p : Ipv6Packet) (hs : List PlainHeader) : Bytes :=
  p.first.toList ++ toBE 2 ((layHeaders p.upper hs).length + p.payload.length) ++
    (numberOf p.upper hs :: p.hopLimit :: (p.saddr.toList ++ p.daddr.toList))

/-- **The packet with some extension headers.** Kind: D -/
def Ipv6Packet.lay (p : Ipv6Packet) (hs : List PlainHeader) : Bytes :=
  p.header hs ++ (layHeaders p.upper hs ++ p.payload)

/-- The header has 40 bytes. Kind: L -/
@[simp] theorem Ipv6Packet.length_header (p : Ipv6Packet) (hs : List PlainHeader) :
    (p.header hs).length = 40 := by
  simp [header]

/-- The destination address. Kind: L -/
theorem Ipv6Packet.daddr_lay (p : Ipv6Packet) (hs : List PlainHeader) :
    peek (p.lay hs) (0 + 24) 16 = p.daddr.toList := by
  set front := p.first.toList ++ toBE 2 ((layHeaders p.upper hs).length + p.payload.length) ++
    (numberOf p.upper hs :: p.hopLimit :: p.saddr.toList) with hfront
  have hcut : p.lay hs = front ++ (p.daddr.toList ++ (layHeaders p.upper hs ++ p.payload)) := by
    simp [lay, header, hfront]
  have hlength : front.length = 0 + 24 := by
    simp [hfront]
  rw [hcut, ← hlength, peek_append_right _ _ (le_refl _), Nat.sub_self,
    peek_append_left (by simp), peek_zero (by simp)]

/-- **Plain extension headers do not matter**, up to five. Kind: L -/
theorem takesIpv6_lay (host6 : List.Vector UInt8 16) (p : Ipv6Packet) {hs : List PlainHeader}
    (hhs : hs.length < IPV6_MAX_ESTENSIONS) (hpayload : 2 ≤ p.payload.length) :
    TakesIpv6 host6 (p.lay hs) 0 ↔ p.daddr = host6 ∧ IsWanted p.upper := by
  have hchain : PlainChain (p.lay hs) 0 hs.length p.upper
      (0 + 40 + (layHeaders p.upper hs).length) :=
    plainChain_layHeaders p.upper hs (by simp) (by simp [Ipv6Packet.header, byteAt]) p.isUpper
      hpayload
  obtain ⟨hfits, hends⟩ := (loop_ends_iff hs.length _ p.upper _).mp hchain.ends
  rw [TakesIpv6, p.daddr_lay, List.Vector.toList_injective.eq_iff]
  refine and_congr_right fun _ => ?_
  constructor
  · rintro ⟨j, -, n, d, hends', -, hn⟩
    obtain ⟨-, heq⟩ := hends.unique hends'
    cases heq
    exact hn
  · intro hn
    exact ⟨hs.length, hhs, p.upper, _, hends, hfits, hn⟩

/-- Extension headers make a packet longer. Kind: L -/
theorem Ipv6Packet.le_length_lay (p : Ipv6Packet) (hs : List PlainHeader) :
    40 + p.payload.length ≤ (p.lay hs).length := by
  rw [lay, List.length_append, List.length_append, length_header]
  omega

section blind

variable (e : Endian) (host4 : List.Vector UInt8 4) (host6 : List.Vector UInt8 16)
  (rxQueueIndex : UInt32)

/-- Frames of one kind have one verdict. Kind: L -/
theorem verdict_congr {f g : Frame} (h : Takes host4 host6 f ↔ Takes host4 host6 g) :
    (scionFilter e (some (scionIpValue host4 host6)) rxQueueIndex f).verdict
      = (scionFilter e (some (scionIpValue host4 host6)) rxQueueIndex g).verdict := by
  have hf := scionFilter_verdict_iff e host4 host6 rxQueueIndex f
  have hg := scionFilter_verdict_iff e host4 host6 rxQueueIndex g
  rcases scionFilter_cases e rxQueueIndex (some (scionIpValue host4 host6)) f with hcf | hcf
  · rcases scionFilter_cases e rxQueueIndex (some (scionIpValue host4 host6)) g with hcg | hcg
    · rw [hcf, hcg]
    · rw [hcf] at hf
      cases hf.mpr (h.mpr (hg.mp (by rw [hcg])))
  · exact (hf.mpr (hf.mp (by rw [hcf]))).trans (hg.mpr (h.mp (hf.mp (by rw [hcf])))).symm

/-- **Headers that do not matter.** A packet of the minimal size gets the verdict it gets in a frame
without VLAN tags, whatever tags stand before it, up to four; and an IPv6 packet gets the verdict it
gets without extension headers, whatever plain ones it has, up to five, in any order. Kind: P -/
theorem headers_do_not_matter (macs : List.Vector UInt8 12) {tags : List VlanTag}
    (htags : tags.length ≤ VLAN_MAX_DEPTH) :
    (∀ type packet, type.length = 2 → ¬ IsVlanType type → MIN_PACKET_SIZE ≤ 14 + packet.length →
      (scionFilter e (some (scionIpValue host4 host6)) rxQueueIndex
        (ethernetFrame macs tags type packet)).verdict
        = (scionFilter e (some (scionIpValue host4 host6)) rxQueueIndex
          (ethernetFrame macs [] type packet)).verdict) ∧
      ∀ (p : Ipv6Packet) (hs : List PlainHeader), hs.length < IPV6_MAX_ESTENSIONS →
        MIN_PACKET_SIZE ≤ 14 + (40 + p.payload.length) →
        (scionFilter e (some (scionIpValue host4 host6)) rxQueueIndex
          (ethernetFrame macs tags [0x86, 0xDD] (p.lay hs))).verdict
          = (scionFilter e (some (scionIpValue host4 host6)) rxQueueIndex
            (ethernetFrame macs tags [0x86, 0xDD] (p.lay []))).verdict := by
  constructor
  · intro type packet htype hplain hsize
    refine verdict_congr e host4 host6 rxQueueIndex ?_
    rw [takes_ethernetFrame host4 host6 macs htags htype hplain hsize,
      takes_ethernetFrame host4 host6 macs (Nat.zero_le _) htype hplain hsize]
  · intro p hs hhs hsize
    have hpayload : 2 ≤ p.payload.length := by
      unfold MIN_PACKET_SIZE MIN_SCION_HDR_SIZE at hsize
      omega
    have hlong := p.le_length_lay hs
    have hshort := p.le_length_lay []
    refine verdict_congr e host4 host6 rxQueueIndex ?_
    rw [takes_ethernetFrame host4 host6 macs htags rfl (by decide) (by omega),
      takes_ethernetFrame host4 host6 macs htags rfl (by decide) (by omega),
      takesIpv6_lay host6 p hhs hpayload, takesIpv6_lay host6 p (by decide) hpayload]
    simp

/-- A datagram to the sample host. Kind: D -/
def samplePacket : Ipv6Packet :=
  ⟨⟨[0x60, 0, 0, 0], rfl⟩, 64, ⟨zeros 16, rfl⟩, sampleHost6, IPPROTO_UDP, by decide, zeros 60⟩

/-- Five extension headers behind a tag. Kind: C -/
theorem headers_do_not_matter_sample :
    (scionFilter .little (some (scionIpValue sampleHost4 sampleHost6)) 0
      (ethernetFrame ⟨zeros 12, rfl⟩ [⟨[0x81, 0x00], [0, 1], .inl rfl, rfl⟩] [0x86, 0xDD]
        (samplePacket.lay (sampleHeaders.take 5)))).verdict = .bpfRedirectMap 0 := by
  rw [(headers_do_not_matter .little sampleHost4 sampleHost6 0 ⟨zeros 12, rfl⟩ (by decide)).2
    samplePacket (sampleHeaders.take 5) (by decide) (by decide)]
  decide +kernel

end blind

end ScionIp.Vpp
