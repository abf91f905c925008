import ScionIp.Ebpf.ScionTypes

/-!
# Frames and the kernel helpers

A frame is the linear byte buffer between `data` and `data_end`. Both programs overlay the same
header structs on it, so every field is a read at a fixed offset:

| offset | bytes | field                         |
|-------:|------:|-------------------------------|
|      0 |    12 | `eth_hdr->h_dest`, `h_source` |
|     12 |     2 | `eth_hdr->h_proto`            |
|     14 |     1 | IPv6 version and `priority`   |
|     15 |     3 | `flow_lbl`                    |
|     18 |     2 | `payload_len`                 |
|     20 |     1 | `nexthdr`                     |
|     21 |     1 | `hop_limit`                   |
|     22 |    16 | `saddr`                       |
|     38 |    16 | `daddr`                       |
|     54 |     8 | UDP header                    |
|     62 |    28 | `struct scionhdr`             |
|     90 |    32 | SCION host addresses          |
|    122 |       | SCION path                    |

A check `(void *)(hdr + 1) > data_end` of the source is the comparison of the frame's length with
the offset behind `hdr`.

The kernel helpers are not part of the sources. Their return values are free (`TcHelpers`,
`XdpHelpers`); what they do to the frame when they succeed is their documented effect: room is
inserted behind the IPv6 header with arbitrary contents, and a positive head adjustment removes
bytes at the front.
-/

namespace ScionIp.Ebpf

open ScionIp.Lib

/-- The linear part of a packet buffer, `data` to `data_end`. Kind: D -/
abbrev Frame := Bytes

/-- Source: `if_ether.h`, `ETH_P_IPV6`. Kind: D -/
def ETH_P_IPV6 : UInt16 := 0x86DD

/-- Source: `common.h`, `NEXTHDR_TCP`. Kind: D -/
def NEXTHDR_TCP : UInt8 := 6

/-- Source: `common.h`, `NEXTHDR_UDP`. Kind: D -/
def NEXTHDR_UDP : UInt8 := 17

/-- Source: `common.h`, `NEXTHDR_ICMPV6`. Kind: D -/
def NEXTHDR_ICMPV6 : UInt8 := 58

/-! ## Header fields -/

/-- `eth_hdr->h_proto`, as the host loads it. Kind: D -/
def hProto (e : Endian) (f : Frame) : UInt16 := loadU16 e (peek f 12 2)

/-- `ip6_hdr->priority`, the low four bits of the first octet. Kind: D -/
def ipPriority (f : Frame) : UInt8 := byteAt f 14 &&& 0xF

/-- `ip6_hdr->flow_lbl[i]`. Kind: D -/
def ipFlowLbl (f : Frame) (i : ℕ) : UInt8 := byteAt f (15 + i)

/-- `ip6_hdr->payload_len`, as the host loads it. Kind: D -/
def ipPayloadLen (e : Endian) (f : Frame) : UInt16 := loadU16 e (peek f 18 2)

/-- `ip6_hdr->nexthdr`. Kind: D -/
def ipNexthdr (f : Frame) : UInt8 := byteAt f 20

/-- `ip6_hdr->saddr`. Kind: D -/
def ipSaddr (f : Frame) : Bytes := peek f 22 16

/-- `ip6_hdr->daddr`. Kind: D -/
def ipDaddr (f : Frame) : Bytes := peek f 38 16

/-- `udp_hdr->source`, as the host loads it. Kind: D -/
def udpSource (e : Endian) (f : Frame) : UInt16 := loadU16 e (peek f 54 2)

/-- `sci_hdr->len`. Kind: D -/
def sciLen (f : Frame) : UInt8 := byteAt f 67

/-- `sci_hdr->payload`, as the host loads it. Kind: D -/
def sciPayload (e : Endian) (f : Frame) : UInt16 := loadU16 e (peek f 68 2)

/-- The type field says IPv6 exactly when its two bytes are `86 dd`. Kind: L -/
theorem hProto_eq_iff (e : Endian) {f : Frame} (h : 14 ≤ f.length) :
    hProto e f = bpfHtons e ETH_P_IPV6 ↔ peek f 12 2 = [0x86, 0xDD] := by
  rw [hProto, loadU16_eq_bpfHtons (length_peek (by omega))]
  rfl

/-- The address range of a frame that holds an IPv6 header. Kind: L -/
theorem length_ipSaddr {f : Frame} (h : 54 ≤ f.length) : (ipSaddr f).length = 16 :=
  length_peek (by omega)

/-- The address range of a frame that holds an IPv6 header. Kind: L -/
theorem length_ipDaddr {f : Frame} (h : 54 ≤ f.length) : (ipDaddr f).length = 16 :=
  length_peek (by omega)

/-! ## Verdicts and helpers -/

/-- The verdicts `scion_egress` returns. Source: `pkt_cls.h`. Kind: D -/
inductive TcAct where
  | TC_ACT_OK
  | TC_ACT_SHOT
  deriving DecidableEq, Repr

/-- The verdicts `scion_ingress` returns. Source: `bpf.h`. Kind: D -/
inductive XdpAction where
  | XDP_PASS
  | XDP_DROP
  deriving DecidableEq, Repr

/-- What a run of `scion_egress` leaves behind: the verdict, the frame, and the key it appended
to `path_req`, if any. Kind: D -/
structure TcResult where
  verdict : TcAct
  frame : Frame
  request : Option ScionAddr
  deriving DecidableEq

/-- What a run of `scion_ingress` leaves behind. Kind: D -/
structure XdpResult where
  verdict : XdpAction
  frame : Frame
  deriving DecidableEq

/-- The helpers of a TC program: the return values of `bpf_check_mtu` and `bpf_skb_adjust_room`
as functions of the frame's length and the length difference passed, and the bytes the kernel
leaves in the room it inserts. Kind: D -/
structure TcHelpers where
  bpfCheckMtu : ℕ → ℤ → ℤ
  bpfSkbAdjustRoom : ℕ → ℤ → ℤ
  room : ℕ → UInt8

/-- The helper of an XDP program: the return value of `bpf_xdp_adjust_head`. Kind: D -/
structure XdpHelpers where
  bpfXdpAdjustHead : ℕ → ℤ → ℤ

/-- The frame with `n` bytes of room opened behind the IPv6 header (`BPF_ADJ_ROOM_NET`); the room
is not cleared. Kind: D -/
def insertRoom (room : ℕ → UInt8) (f : Frame) (n : ℕ) : Frame :=
  f.take 54 ++ (List.range n).map room ++ f.drop 54

/-- Opening room grows the frame by its size. Kind: L -/
@[simp] theorem length_insertRoom (room : ℕ → UInt8) (f : Frame) (n : ℕ) :
    (insertRoom room f n).length = f.length + n := by
  simp [insertRoom]
  omega

/-- The headers stay where they were. Kind: L -/
theorem peek_insertRoom (room : ℕ → UInt8) {f : Frame} (n : ℕ) {off k : ℕ} (hf : 54 ≤ f.length)
    (h : off + k ≤ 54) : peek (insertRoom room f n) off k = peek f off k := by
  rw [insertRoom, List.append_assoc, peek_append_left (by simp; omega), peek_take h]

/-- What followed the IPv6 header follows the room. Kind: L -/
theorem drop_insertRoom (room : ℕ → UInt8) {f : Frame} (n : ℕ) (hf : 54 ≤ f.length) :
    (insertRoom room f n).drop (54 + n) = f.drop 54 := by
  rw [insertRoom, List.drop_left']
  simp
  omega

end ScionIp.Ebpf
