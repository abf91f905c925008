import ScionIp.Lib.Bits
import ScionIp.Vpp.XdpFilter

/-!
# SCION frames and the minimal size of the filter

`scion_filter` leaves every frame below `MIN_PACKET_SIZE` to the kernel. The constant counts the
UDP header twice and assumes two IPv6 host addresses, so it is no lower bound for the frames the
filter is made for.

* `IsScionFrame` — a SCION packet in a UDP datagram to the configured address, with the sizes of
  its variable parts.
* `IsScionFrame.redirects_iff` — such a frame goes to the socket exactly if it has 110 bytes.
* `IsScionFrame.le_length` — what would be a lower bound.
-/

namespace ScionIp.Vpp

open ScionIp.Lib ScionIp.Ebpf

/-- The two underlays. Kind: D -/
inductive Underlay where
  | ipv4
  | ipv6
  deriving DecidableEq, Repr

/-- The size of the header, without options and extension headers. Kind: D -/
def Underlay.hdrLen : Underlay → ℕ
  | .ipv4 => 20
  | .ipv6 => 40

/-- The underlay and the variable parts of a SCION packet: both host addresses, path and payload.
Kind: D -/
structure PacketSizes where
  underlay : Underlay
  dstLen : ℕ
  srcLen : ℕ
  pathLen : ℕ
  payloadLen : ℕ

namespace PacketSizes

variable (s : PacketSizes)

/-- The offset of the UDP header. Kind: D -/
def udp : ℕ := 14 + s.underlay.hdrLen

/-- The offset of the SCION header. Kind: D -/
def scion : ℕ := s.udp + 8

/-- Common header, address header and path. Kind: D -/
def scionLen : ℕ := 12 + (16 + s.dstLen + s.srcLen) + s.pathLen

/-- The size of the frame. Kind: D -/
def total : ℕ := s.scion + s.scionLen + s.payloadLen

/-- An IP header for UDP to the configured address. Kind: D -/
def IpHeader (host4 : List.Vector UInt8 4) (host6 : List.Vector UInt8 16) (f : Frame) : Prop :=
  match s.underlay with
  | .ipv4 => peek f 12 2 = [0x08, 0x00] ∧ byteAt f 14 = 0x45 ∧
      ofBE (peek f 16 2) = s.total - 14 ∧ byteAt f 23 = IPPROTO_UDP ∧ peek f 30 4 = host4.toList
  | .ipv6 => peek f 12 2 = [0x86, 0xDD] ∧ bitField (byteAt f 14).toNat 4 4 = 6 ∧
      ofBE (peek f 18 2) = s.total - 54 ∧ byteAt f 20 = IPPROTO_UDP ∧ peek f 38 16 = host6.toList

end PacketSizes

/-- **A well-formed SCION packet over UDP** to the configured underlay address. Kind: D -/
structure IsScionFrame (host4 : List.Vector UInt8 4) (host6 : List.Vector UInt8 16)
    (s : PacketSizes) (f : Frame) : Prop where
  length : f.length = s.total
  ip : s.IpHeader host4 host6 f
  udpLen : ofBE (peek f (s.udp + 4) 2) = 8 + s.scionLen + s.payloadLen
  version : bitField (byteAt f s.scion).toNat 4 4 = 0
  hdrLen : 4 * (byteAt f (s.scion + 5)).toNat = s.scionLen
  payloadLen : ofBE (peek f (s.scion + 6) 2) = s.payloadLen
  /-- Path type zero is the empty path. -/
  emptyPath : byteAt f (s.scion + 8) = 0 → s.pathLen = 0
  dstLen : 4 * (bitField (byteAt f (s.scion + 9)).toNat 4 2 + 1) = s.dstLen
  srcLen : 4 * (bitField (byteAt f (s.scion + 9)).toNat 0 2 + 1) = s.srcLen
  dstHost : s.dstLen = 4 ∨ s.dstLen = 16
  srcHost : s.srcLen = 4 ∨ s.srcLen = 16

section frames

variable {host4 : List.Vector UInt8 4} {host6 : List.Vector UInt8 16} {s : PacketSizes} {f : Frame}

/-- **The smallest SCION frame has 78 bytes**: an IPv4 underlay, two IPv4 hosts, no path and no
payload. Kind: P -/
theorem IsScionFrame.le_length (h : IsScionFrame host4 host6 s f) : 78 ≤ f.length := by
  have hdst := h.dstHost
  have hsrc := h.srcHost
  have hip : 20 ≤ s.underlay.hdrLen := by
    cases s.underlay
    · exact le_refl 20
    · exact Nat.le_add_left 20 20
  rw [h.length, PacketSizes.total, PacketSizes.scion, PacketSizes.udp, PacketSizes.scionLen]
  omega

/-- A SCION frame of the minimal size is in the domain of the filter. Kind: L -/
theorem IsScionFrame.ipFrame (h : IsScionFrame host4 host6 s f)
    (hsize : MIN_PACKET_SIZE ≤ f.length) : IpFrame f 0 ∧ IpMatch IPPROTO_ICMP host4 host6 f 0 := by
  have hip := h.ip
  unfold PacketSizes.IpHeader at hip
  cases hu : s.underlay with
  | ipv4 =>
      rw [hu] at hip
      obtain ⟨htype, hihl, -, hproto, hdst⟩ := hip
      have htype' : etherType f 0 = [0x08, 0x00] := htype
      refine ⟨⟨hsize, Nat.zero_le _, fun i hi => absurd hi (Nat.not_lt_zero i), ?_, ?_, ?_⟩,
        Or.inl ⟨htype', hdst, Or.inr hproto⟩⟩
      · rw [htype']
        decide
      · intro _
        have hwords : 4 * ((0x45 : UInt8) &&& 0xF).toNat = 20 := by decide
        have hlen := h.le_length
        rw [show 14 + 4 * 0 = 14 from rfl, hihl, hwords]
        omega
      · intro h6
        rw [htype'] at h6
        cases h6
  | ipv6 =>
      rw [hu] at hip
      obtain ⟨htype, -, -, hproto, hdst⟩ := hip
      have htype' : etherType f 0 = [0x86, 0xDD] := htype
      refine ⟨⟨hsize, Nat.zero_le _, fun i hi => absurd hi (Nat.not_lt_zero i), ?_, ?_, ?_⟩,
        Or.inr ⟨htype', hdst, Or.inr hproto⟩⟩
      · rw [htype']
        decide
      · intro h4
        rw [htype'] at h4
        cases h4
      · intro _
        rw [show 14 + 4 * 0 + 6 = 20 from rfl, hproto]
        decide

/-- **When a SCION frame goes to the socket**: exactly if its parts add up to 110 bytes. Kind: P -/
theorem IsScionFrame.redirects_iff (h : IsScionFrame host4 host6 s f) (e : Endian)
    (rxQueueIndex : UInt32) :
    (scionFilter e (some (scionIpValue host4 host6)) rxQueueIndex f).verdict
        = .bpfRedirectMap rxQueueIndex ↔ 110 ≤ s.total := by
  have hlen := h.length
  by_cases hsize : MIN_PACKET_SIZE ≤ f.length
  · obtain ⟨hframe, hmatch⟩ := h.ipFrame hsize
    rw [scionFilter_of_ipFrame e host4 host6 rxQueueIndex hframe, if_pos hmatch]
    unfold MIN_PACKET_SIZE MIN_SCION_HDR_SIZE at hsize
    exact iff_of_true rfl (by omega)
  · rw [scionFilter, if_pos (not_le.mp hsize)]
    unfold MIN_PACKET_SIZE MIN_SCION_HDR_SIZE at hsize
    refine iff_of_false ?_ (by omega)
    intro hc
    cases hc

end frames

/-! ## A frame that is too small -/

/-- An empty UDP datagram between two IPv4 hosts of one AS, over IPv4, to the sample host.
Kind: D -/
def smallFrame : Frame :=
  zeros 12 ++ [0x08, 0x00] ++
    ([0x45, 0, 0, 72, 0, 0, 0, 0, 64, 17, 0, 0, 192, 0, 2, 2] ++ sampleHost4.toList) ++
    ([0x75, 0x5A, 0x75, 0x5A] ++ toBE 2 52 ++ [0, 0]) ++
    ([0, 0, 0, 1, 17, 9] ++ toBE 2 8 ++ [0, 0, 0, 0]) ++
    ([0, 1, 0, 0, 0, 0, 0xFC, 0, 0, 1, 0, 0, 0, 0, 0xFC, 0] ++ [10, 0, 0, 1] ++ [10, 0, 0, 2]) ++
    ([0x03, 0xE8, 0x07, 0xD0] ++ toBE 2 8 ++ [0, 0])

/-- The sizes of the small frame. Kind: D -/
def smallSizes : PacketSizes := ⟨.ipv4, 4, 4, 0, 8⟩

/-- The small frame is well-formed. Kind: L -/
theorem isScionFrame_smallFrame : IsScionFrame sampleHost4 sampleHost6 smallSizes smallFrame where
  length := by decide +kernel
  ip := ⟨by decide +kernel, by decide +kernel, by decide +kernel, by decide +kernel,
    by decide +kernel⟩
  udpLen := by decide +kernel
  version := by decide +kernel
  hdrLen := by decide +kernel
  payloadLen := by decide +kernel
  emptyPath := fun _ => rfl
  dstLen := by decide +kernel
  srcLen := by decide +kernel
  dstHost := Or.inl rfl
  srcHost := Or.inl rfl

/-- What decides about the small frame is its size. Kind: C -/
theorem redirects_iff_smallFrame :
    (scionFilter .little (some (scionIpValue sampleHost4 sampleHost6)) 0 smallFrame).verdict
      = .bpfRedirectMap 0 ↔ 110 ≤ smallSizes.total :=
  IsScionFrame.redirects_iff isScionFrame_smallFrame .little 0

/-- A well-formed SCION frame of 86 bytes is left to the kernel. Kind: C -/
theorem smallFrame_passes :
    IsScionFrame sampleHost4 sampleHost6 smallSizes smallFrame ∧
      (scionFilter .little (some (scionIpValue sampleHost4 sampleHost6)) 0 smallFrame).verdict
        = .XDP_PASS := by
  refine ⟨isScionFrame_smallFrame, ?_⟩
  decide +kernel

end ScionIp.Vpp
