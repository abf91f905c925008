import ScionIp.Ebpf.RoundTrip

/-!
# What `scion_ingress` checks of a SCION packet

`Decapsulates` is the decision of the program: type, next header, destination, length of the frame
and length of the SCION header. The program relies on more than that when it copies addresses and
lengths out of the SCION header.

* `Decapsulates.poke` — no other byte of the headers takes part in the decision.
* `ingressSound_iff` — what a frame must bring along to be decapsulated rightly.
-/

namespace ScionIp.Ebpf

open ScionIp.Lib

/-! ## The fields of the SCION header -/

/-- Source: `scion_types.h`, `SC_GET_DT`, of the octet `haddr`. Kind: D -/
def SC_GET_DT (haddr : UInt8) : UInt8 := (haddr >>> 6) &&& 0x03

/-- Source: `scion_types.h`, `SC_GET_DL`, of the octet `haddr`. Kind: D -/
def SC_GET_DL (haddr : UInt8) : UInt8 := (haddr >>> 4) &&& 0x03

/-- Source: `scion_types.h`, `SC_GET_ST`, of the octet `haddr`. Kind: D -/
def SC_GET_ST (haddr : UInt8) : UInt8 := (haddr >>> 2) &&& 0x03

/-- Source: `scion_types.h`, `SC_GET_SL`, of the octet `haddr`. Kind: D -/
def SC_GET_SL (haddr : UInt8) : UInt8 := haddr &&& 0x03

/-- `sci_hdr->haddr`. Kind: D -/
def sciHaddr (f : Frame) : UInt8 := byteAt f 71

/-- The version of the SCION header, the upper half of its first octet. Kind: D -/
def sciVersion (f : Frame) : UInt8 := byteAt f 62 >>> 4

/-- Both hosts are announced as IP addresses of sixteen bytes. Kind: D -/
structure Ipv6Hosts (haddr : UInt8) : Prop where
  dstType : SC_GET_DT haddr = SC_ADDR_TYPE_IP
  dstLen : SC_GET_DL haddr = 3
  srcType : SC_GET_ST haddr = SC_ADDR_TYPE_IP
  srcLen : SC_GET_SL haddr = 3

/-- There is one such octet. Kind: L -/
theorem ipv6Hosts_iff (haddr : UInt8) : Ipv6Hosts haddr ↔ haddr = 0x33 := by
  have hall : ∀ b : UInt8, (SC_GET_DT b = SC_ADDR_TYPE_IP ∧ SC_GET_DL b = 3 ∧
      SC_GET_ST b = SC_ADDR_TYPE_IP ∧ SC_GET_SL b = 3) ↔ b = 0x33 := by decide +kernel
  rw [← hall haddr]
  constructor
  · intro h
    exact ⟨h.dstType, h.dstLen, h.srcType, h.srcLen⟩
  · rintro ⟨hdt, hdl, hst, hsl⟩
    exact ⟨hdt, hdl, hst, hsl⟩

/-! ## The decision -/

/-- The frames that are decapsulated: no early exit is taken, the announced header ends inside the
frame, and the head adjustment succeeds. Kind: D -/
structure Decapsulates (x : XdpHelpers) (f : Frame) : Prop where
  notSkipped : ¬ IngressSkips f
  headerInside : 62 + 4 * (sciLen f).toNat ≤ f.length
  adjusted : 0 ≤ x.bpfXdpAdjustHead f.length (8 + 4 * (sciLen f).toNat : ℕ)

/-- **Inversion of `scion_ingress`**: a frame is passed as it is, dropped, or decapsulated.
Kind: P -/
theorem scionIngress_cases (e : Endian) (x : XdpHelpers) (f : Frame) :
    (¬ Decapsulates x f ∧ scionIngress e x f = ⟨.XDP_PASS, f⟩) ∨
      (¬ Decapsulates x f ∧ (scionIngress e x f).verdict = .XDP_DROP) ∨
      (Decapsulates x f ∧ (scionIngress e x f).verdict = .XDP_PASS ∧
        (scionIngress e x f).frame ≠ f ∧ IngressLayout e f (scionIngress e x f).frame) := by
  by_cases hs : IngressSkips f
  · left
    refine ⟨fun hd => hd.notSkipped hs, ?_⟩
    rw [scionIngress_eq, if_pos hs]
  · right
    have hf := length_of_not_skips hs
    rcases scionIngress_of_not_skips e x hs with ⟨hsz, hadj, hv, hlay⟩ | ⟨hbad, hv⟩
    · right
      refine ⟨⟨hs, hsz, hadj⟩, hv, ?_, hlay⟩
      intro hsame
      have hlen := hlay.length
      rw [hsame] at hlen
      omega
    · left
      refine ⟨?_, hv⟩
      intro hd
      have hinside := hd.headerInside
      have hadjusted := hd.adjusted
      omega

/-- A frame that is decapsulated. Kind: L -/
theorem Decapsulates.run {x : XdpHelpers} {f : Frame} (hd : Decapsulates x f) (e : Endian) :
    (scionIngress e x f).verdict = .XDP_PASS ∧ (scionIngress e x f).frame ≠ f ∧
      IngressLayout e f (scionIngress e x f).frame := by
  rcases scionIngress_cases e x f with ⟨hno, -⟩ | ⟨hno, -⟩ | ⟨-, hrun⟩
  · exact absurd hd hno
  · exact absurd hd hno
  · exact hrun

/-- A frame that is not decapsulated. Kind: L -/
theorem run_of_not_decapsulates {x : XdpHelpers} {f : Frame} (hno : ¬ Decapsulates x f)
    (e : Endian) :
    scionIngress e x f = ⟨.XDP_PASS, f⟩ ∨ (scionIngress e x f).verdict = .XDP_DROP := by
  rcases scionIngress_cases e x f with ⟨-, hpass⟩ | ⟨-, hdrop⟩ | ⟨hd, -⟩
  · exact Or.inl hpass
  · exact Or.inr hdrop
  · exact absurd hd hno

/-- **No other byte takes part in the decision**: what is written beside the Ethernet and IPv6
header and the header length changes nothing about it. Kind: P -/
theorem Decapsulates.poke {x : XdpHelpers} {f : Frame} (hd : Decapsulates x f) {off : ℕ}
    {bs : Bytes} (hoff : 54 ≤ off ∧ off + bs.length ≤ 67 ∨ 68 ≤ off) :
    Decapsulates x (poke f off bs) := by
  have hlen : sciLen (Lib.poke f off bs) = sciLen f := byteAt_poke_of_disjoint f (by omega)
  have hnext : ipNexthdr (Lib.poke f off bs) = ipNexthdr f :=
    byteAt_poke_of_disjoint f (by omega)
  have hdst : ipDaddr (Lib.poke f off bs) = ipDaddr f := peek_poke_of_disjoint f (by omega)
  have htype : peek (Lib.poke f off bs) 12 2 = peek f 12 2 :=
    peek_poke_of_disjoint f (by omega)
  constructor
  · unfold IngressSkips
    rw [length_poke, htype, hnext, hdst]
    exact hd.notSkipped
  · rw [length_poke, hlen]
    exact hd.headerInside
  · rw [length_poke, hlen]
    exact hd.adjusted

/-! ## Well-formed packets -/

/-- **The frame `f` was a well-formed SCION packet and `out` is what it announced**. Kind: D -/
structure WellFormed (f out : Frame) : Prop where
  nexthdr : ipNexthdr f = NEXTHDR_UDP
  version : sciVersion f = 0
  hosts : Ipv6Hosts (sciHaddr f)
  hdrLen : 60 ≤ 4 * (sciLen f).toNat
  payload : ofBE (peek out 18 2) ≤ out.length - 54

/-- A run of ingress lets a well-formed packet go decapsulated, lets its frame go untouched, or
drops it. Kind: D -/
def IngressSound (e : Endian) (x : XdpHelpers) (f : Frame) : Prop :=
  (scionIngress e x f).verdict = .XDP_PASS ∧
      ((scionIngress e x f).frame = f ∨ WellFormed f (scionIngress e x f).frame) ∨
    (scionIngress e x f).verdict = .XDP_DROP

/-- What the frame itself must bring along: the octets of a UDP datagram with a SCION header of
version 0 for two IPv6 hosts, at least as long as the fixed headers, and no more payload announced
than follows the header. Kind: D -/
structure AnnouncesScion (f : Frame) : Prop where
  nexthdr : ipNexthdr f = NEXTHDR_UDP
  version : sciVersion f = 0
  haddr : sciHaddr f = 0x33
  hdrLen : 15 ≤ (sciLen f).toNat
  payload : 62 + 4 * (sciLen f).toNat + ofBE (peek f 68 2) ≤ f.length

/-- A decapsulated frame was well-formed exactly when it says so itself. Kind: L -/
theorem Decapsulates.wellFormed_iff {x : XdpHelpers} {f out : Frame} {e : Endian}
    (hd : Decapsulates x f) (hlay : IngressLayout e f out) :
    WellFormed f out ↔ AnnouncesScion f := by
  have hf := length_of_not_skips hd.notSkipped
  have hinside := hd.headerInside
  have hleft : ofBE (peek out 18 2) ≤ out.length - 54 ↔
      62 + 4 * (sciLen f).toNat + ofBE (peek f 68 2) ≤ f.length := by
    rw [hlay.payloadLen, hlay.length]
    omega
  constructor
  · intro hw
    exact ⟨hw.nexthdr, hw.version, (ipv6Hosts_iff _).mp hw.hosts, by have := hw.hdrLen; omega,
      hleft.mp hw.payload⟩
  · intro ha
    exact ⟨ha.nexthdr, ha.version, (ipv6Hosts_iff _).mpr ha.haddr, by have := ha.hdrLen; omega,
      hleft.mpr ha.payload⟩

/-- A run that decapsulates is sound exactly when the frame says so. Kind: L -/
theorem Decapsulates.sound_iff {x : XdpHelpers} {f : Frame} (hd : Decapsulates x f) (e : Endian) :
    IngressSound e x f ↔ AnnouncesScion f := by
  unfold IngressSound
  obtain ⟨hv, hne, hlay⟩ := hd.run e
  have hwell := hd.wellFormed_iff hlay
  simp [hv, hne, hwell]

/-- **When ingress is sound**: it does not decapsulate the frame, or the frame says of itself that
it is a well-formed SCION packet. Kind: P -/
theorem ingressSound_iff (e : Endian) (x : XdpHelpers) (f : Frame) :
    IngressSound e x f ↔ ¬ Decapsulates x f ∨ AnnouncesScion f := by
  by_cases hd : Decapsulates x f
  · rw [hd.sound_iff e]
    exact ⟨Or.inr, fun h => h.resolve_left (not_not.mpr hd)⟩
  · refine iff_of_true ?_ (Or.inl hd)
    unfold IngressSound
    rcases run_of_not_decapsulates hd e with heq | hv
    · rw [heq]
      exact Or.inl ⟨rfl, Or.inl rfl⟩
    · exact Or.inr hv

/-- The received sample frame with other bytes at one place. Kind: D -/
def faultyFrame (off : ℕ) (bs : Bytes) : Frame := poke sampleReceived off bs

/-- **Ingress is not sound**: it decapsulates a frame with next header 0, one of SCION version 4,
one for hosts of four bytes, one whose header has no length, and one that announces more payload
than there is. Kind: C -/
theorem not_ingressSound :
    ¬ IngressSound .little ⟨fun _ _ => 0⟩ (faultyFrame 20 [0]) ∧
      ¬ IngressSound .little ⟨fun _ _ => 0⟩ (faultyFrame 62 [0x40]) ∧
      ¬ IngressSound .little ⟨fun _ _ => 0⟩ (faultyFrame 71 [0]) ∧
      ¬ IngressSound .little ⟨fun _ _ => 0⟩ (faultyFrame 67 [0]) ∧
      ¬ IngressSound .little ⟨fun _ _ => 0⟩ (faultyFrame 68 [0xFF, 0xFF]) := by
  have hsample : Decapsulates ⟨fun _ _ => 0⟩ sampleReceived :=
    ⟨by decide +kernel, by decide +kernel, le_refl _⟩
  refine ⟨?_, ?_, ?_, ?_, ?_⟩
  · have hd : Decapsulates ⟨fun _ _ => 0⟩ (faultyFrame 20 [0]) :=
      ⟨by decide +kernel, by decide +kernel, le_refl _⟩
    rw [hd.sound_iff]
    intro ha
    exact absurd ha.nexthdr (by decide +kernel)
  · have hd : Decapsulates ⟨fun _ _ => 0⟩ (faultyFrame 62 [0x40]) :=
      hsample.poke (Or.inl (by decide))
    rw [hd.sound_iff]
    intro ha
    exact absurd ha.version (by decide +kernel)
  · have hd : Decapsulates ⟨fun _ _ => 0⟩ (faultyFrame 71 [0]) :=
      hsample.poke (Or.inr (by decide))
    rw [hd.sound_iff]
    intro ha
    exact absurd ha.haddr (by decide +kernel)
  · have hd : Decapsulates ⟨fun _ _ => 0⟩ (faultyFrame 67 [0]) :=
      ⟨by decide +kernel, by decide +kernel, le_refl _⟩
    rw [hd.sound_iff]
    intro ha
    exact absurd ha.hdrLen (by decide +kernel)
  · have hd : Decapsulates ⟨fun _ _ => 0⟩ (faultyFrame 68 [0xFF, 0xFF]) :=
      hsample.poke (Or.inr (by decide))
    rw [hd.sound_iff]
    intro ha
    exact absurd ha.payload (by decide +kernel)

end ScionIp.Ebpf
