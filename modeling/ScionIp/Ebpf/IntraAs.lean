import ScionIp.Ebpf.RoundTrip

/-!
# Intra-AS traffic at both ends

`scion_egress` leaves frames between two hosts of one AS alone. `scion_ingress` has the same check
in its source, commented out; what remains of its decision is next header and length. So a frame
between two hosts of one AS passes ingress unchanged exactly when it is ICMPv6, TCP, or shorter
than a UDP datagram carrying the fixed SCION headers (`intraAs_survives_iff`); everything else is
taken for a SCION packet.
-/

namespace ScionIp.Ebpf

open ScionIp.Lib

/-- An IPv6 frame between two SCION-mapped addresses of one ISD-AS. Kind: D -/
structure IntraAs (e : Endian) (f : Frame) : Prop where
  length : 54 ≤ f.length
  ipv6 : peek f 12 2 = [0x86, 0xDD]
  saddr : scionPrefixMatch (ipSaddr f) = true
  daddr : scionPrefixMatch (ipDaddr f) = true
  sameAs : getScionAddr e (ipDaddr f) = getScionAddr e (ipSaddr f)

/-- The frame may carry a SCION packet: its UDP payload starts with version 0. Kind: D -/
def MayCarryScion (f : Frame) : Prop := ipNexthdr f = NEXTHDR_UDP ∧ byteAt f 62 >>> 4 = 0

/-- Egress leaves intra-AS frames alone. Kind: L -/
theorem IntraAs.forwarded {e : Endian} {f : Frame} (hi : IntraAs e f) (h : TcHelpers)
    (pathMap : PathMap) : scionEgress e h pathMap f = ⟨.TC_ACT_OK, f, none⟩ := by
  refine scionEgress_of_forwards ?_ h pathMap
  right; right; right; right
  exact hi.sameAs

/-- A frame that takes no early exit of ingress is never passed unchanged: even an announced
header length of zero removes eight bytes. Kind: L -/
theorem scionIngress_passes_unchanged_iff (e : Endian) (x : XdpHelpers) (f : Frame) :
    scionIngress e x f = ⟨.XDP_PASS, f⟩ ↔ IngressSkips f := by
  constructor
  · intro hpass
    by_contra hskip
    have hf := length_of_not_skips hskip
    rcases scionIngress_of_not_skips e x hskip with ⟨hsz, -, -, hlay⟩ | ⟨-, hdrop⟩
    · have hlen := hlay.length
      rw [hpass] at hlen
      simp only at hlen
      omega
    · rw [hpass] at hdrop
      cases hdrop
  · intro hskip
    rw [scionIngress_eq, if_pos hskip]

/-- **When intra-AS traffic survives.** A frame between two hosts of one AS leaves the sender
unchanged, and the receiver passes it unchanged if and only if it is shorter than 122 bytes, ICMPv6
or TCP. Kind: P -/
theorem intraAs_survives_iff {e e' : Endian} (h : TcHelpers) (x : XdpHelpers) (pathMap : PathMap)
    {f : Frame} (hi : IntraAs e f) :
    (scionEgress e h pathMap f = ⟨.TC_ACT_OK, f, none⟩ ∧ scionIngress e' x f = ⟨.XDP_PASS, f⟩) ↔
      f.length < 122 ∨ ipNexthdr f = NEXTHDR_ICMPV6 ∨ ipNexthdr f = NEXTHDR_TCP := by
  have hskip : IngressSkips f ↔
      f.length < 122 ∨ ipNexthdr f = NEXTHDR_ICMPV6 ∨ ipNexthdr f = NEXTHDR_TCP := by
    simp [IngressSkips, hi.ipv6, hi.daddr]
  rw [scionIngress_passes_unchanged_iff, hskip]
  exact and_iff_right (hi.forwarded h pathMap)

/-! ## A datagram that survives and one that is lost -/

/-- A UDP datagram between two hosts in `1-64512`. Kind: D -/
def intraAsDatagram (payload : Bytes) : Frame :=
  udpDatagram [0xFC, 0, 0x10, 0xFC, 0, 0, 0, 0, 0, 0, 0, 0, 0, 0, 0, 2] payload

/-- Such a datagram is intra-AS traffic. Kind: L -/
theorem intraAsDatagram_intraAs (e : Endian) (payload : Bytes) :
    IntraAs e (intraAsDatagram payload) where
  length := by
    simp only [intraAsDatagram, udpDatagram, toBE, List.length_append, List.length_cons,
      List.length_nil]
    omega
  ipv6 := rfl
  saddr := rfl
  daddr := rfl
  sameAs := by cases e <;> rfl

/-- A datagram of four bytes survives. Kind: C -/
theorem intraAs_survives_sample :
    scionIngress .little ⟨fun _ _ => 0⟩ (intraAsDatagram [1, 2, 3, 4])
      = ⟨.XDP_PASS, intraAsDatagram [1, 2, 3, 4]⟩ :=
  ((intraAs_survives_iff (mtuHelpers 1500) ⟨fun _ _ => 0⟩ (samplePathMap .little)
    (intraAsDatagram_intraAs .little [1, 2, 3, 4])).mpr (Or.inl (by decide))).2

/-- **Intra-AS traffic that is not SCION does not always survive.** A datagram of 60 letters `A`,
whose first nibble is 4, is dropped. Kind: C -/
theorem intraAs_not_survives :
    ¬ ∀ (e e' : Endian) (h : TcHelpers) (x : XdpHelpers) (pathMap : PathMap) (f : Frame),
      IntraAs e f → ¬ MayCarryScion f →
        scionEgress e h pathMap f = ⟨.TC_ACT_OK, f, none⟩ ∧
          scionIngress e' x f = ⟨.XDP_PASS, f⟩ := by
  intro hall
  have hscion : ¬ MayCarryScion (intraAsDatagram (List.replicate 60 0x41)) := by
    unfold MayCarryScion
    decide +kernel
  obtain ⟨-, hpass⟩ := hall .little .little (mtuHelpers 1500) ⟨fun _ _ => 0⟩
    (samplePathMap .little) _ (intraAsDatagram_intraAs .little (List.replicate 60 0x41)) hscion
  exact absurd hpass (by decide +kernel)

end ScionIp.Ebpf
