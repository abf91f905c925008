import ScionIp.Ebpf.WireFormat

/-!
# SCION packets between hosts with addresses of sixteen bytes

`ScionDatagram` is such a packet, field by field, `ScionDatagram.bytes` its bytes. `InFrame` says
that a frame carries it in a UDP datagram over IPv6. Whoever built the packet, this is what a frame
underway is.

* `EgressLayout.inFrame` — what `scion_egress` emits carries the packet of the frame it was handed.
* `InFrame.inTransit` — on the way only the path changes.
* `InFrame.ingress` — what `scion_ingress` makes of a frame that carries a packet.
-/

namespace ScionIp.Ebpf

open ScionIp.Lib

/-- A SCION packet between two hosts with addresses of sixteen bytes. Kind: D -/
structure ScionDatagram where
  verQosFlow : List.Vector UInt8 4
  next : UInt8
  payloadLen : List.Vector UInt8 2
  type : UInt8
  dst : UInt64
  src : UInt64
  dstHost : List.Vector UInt8 16
  srcHost : List.Vector UInt8 16
  path : Bytes
  payload : Bytes
  words : path.length % 4 = 0
  size : path.length ≤ 960

namespace ScionDatagram

variable (d : ScionDatagram)

/-- The length of the headers and the path, in words. Kind: D -/
def hdrLen : UInt8 := UInt8.ofNat ((60 + d.path.length) / 4)

/-- The common header and the address header. Kind: D -/
def header : Bytes :=
  d.verQosFlow.toList ++ ([d.next, d.hdrLen] ++ d.payloadLen.toList ++ [d.type, 0x33, 0, 0] ++
    toBE 8 d.dst.toNat ++ toBE 8 d.src.toNat) ++ d.dstHost.toList ++ d.srcHost.toList

/-- The packet in bytes. Kind: D -/
def bytes : Bytes := d.header ++ (d.path ++ d.payload)

/-- The payload has the length that is announced. Kind: D -/
def Exact : Prop := ofBE d.payloadLen.toList = d.payload.length

/-- The packet on another path of the same length. Kind: D -/
def withPath (path : Bytes) (h : path.length = d.path.length) : ScionDatagram :=
  { d with
    path
    words := by rw [h]; exact d.words
    size := by rw [h]; exact d.size }

@[simp] theorem header_withPath {path : Bytes} (h : path.length = d.path.length) :
    (d.withPath path h).header = d.header := by
  simp [withPath, header, hdrLen, h]

@[simp] theorem length_header : d.header.length = 60 := by
  simp [header]

@[simp] theorem length_bytes : d.bytes.length = 60 + (d.path.length + d.payload.length) := by
  simp [bytes]

/-- The announced length is that of the headers and the path. Kind: L -/
theorem toNat_hdrLen : 4 * d.hdrLen.toNat = 60 + d.path.length := by
  have hwords := d.words
  have hsize := d.size
  rw [hdrLen, UInt8.toNat_ofNat']
  omega

end ScionDatagram

/-- **The frame `q` carries the packet `d`** in a UDP datagram. Kind: D -/
structure InFrame (d : ScionDatagram) (q : Frame) : Prop where
  ipv6 : peek q 12 2 = [0x86, 0xDD]
  nexthdr : ipNexthdr q = NEXTHDR_UDP
  scion : q.drop 62 = d.bytes

namespace InFrame

variable {d : ScionDatagram} {q r : Frame}

/-- The size of such a frame. Kind: L -/
theorem length (h : InFrame d q) : q.length = 122 + d.path.length + d.payload.length := by
  have hlen := congrArg List.length h.scion
  rw [List.length_drop, d.length_bytes] at hlen
  omega

/-- A read behind the UDP header. Kind: L -/
theorem peek_eq (h : InFrame d q) (off k : ℕ) : peek q (62 + off) k = peek d.bytes off k := by
  rw [← h.scion, peek_drop]

/-- A read in the headers of the packet. Kind: L -/
theorem peek_header (h : InFrame d q) {off k : ℕ} (hk : off + k ≤ 60) :
    peek q (62 + off) k = peek d.header off k := by
  rw [h.peek_eq, ScionDatagram.bytes, peek_append_left (by simpa using hk)]

/-- The fields that `scion_ingress` reads. Kind: L -/
theorem fields (h : InFrame d q) :
    byteAt q 66 = d.next ∧ sciLen q = d.hdrLen ∧ peek q 68 2 = d.payloadLen.toList ∧
      byteAt q 71 = 0x33 ∧ peek q 90 16 = d.dstHost.toList ∧ peek q 106 16 = d.srcHost.toList := by
  have hbyte : ∀ i, i < 60 → byteAt q (62 + i) = byteAt d.header i := fun i hi =>
    byteAt_of_peek_eq (h.peek_header (show i + 1 ≤ 60 by omega)) Nat.zero_lt_one
  refine ⟨?_, ?_, ?_, ?_, ?_, ?_⟩
  · rw [hbyte 4 (by omega)]
    simp [ScionDatagram.header, byteAt]
  · rw [sciLen, hbyte 5 (by omega)]
    simp [ScionDatagram.header, byteAt]
  · rw [@peek_header d q h 6 2 (by omega)]
    simp [ScionDatagram.header, peek, List.drop_append, List.take_append]
  · rw [hbyte 9 (by omega)]
    simp [ScionDatagram.header, byteAt]
  · rw [@peek_header d q h 28 16 (by omega), ScionDatagram.header, peek_append_left (by simp),
      peek_append_right _ _ (by simp)]
    simp [peek_zero]
  · rw [@peek_header d q h 44 16 (by omega), ScionDatagram.header, peek_append_right _ _ (by simp)]
    simp [peek_zero]

/-- The path, and what follows it. Kind: L -/
theorem tail (h : InFrame d q) :
    peek q 122 d.path.length = d.path ∧ q.drop (122 + d.path.length) = d.payload := by
  have hbehind : q.drop 122 = d.path ++ d.payload := by
    rw [show 122 = 62 + 60 from rfl, ← List.drop_drop, h.scion, ScionDatagram.bytes,
      List.drop_append_of_le_length (by simp), List.drop_eq_nil_of_le (by simp), List.nil_append]
  constructor
  · rw [peek, hbehind, List.take_left]
  · rw [← List.drop_drop, hbehind, List.drop_left]

/-- **On the way only the path changes.** Kind: P -/
theorem inTransit (h : InFrame d q) (hr : InTransit d.path.length q r) :
    ∃ path hlen, InFrame (d.withPath path hlen) r := by
  have hlen := hr.length
  rw [h.length] at hlen
  have hpath : (peek r 122 d.path.length).length = d.path.length := length_peek (by omega)
  refine ⟨peek r 122 d.path.length, hpath, ?_, ?_, ?_⟩
  · rw [hr.peek_eq (fun i hi hi' => by unfold MayChange; omega), h.ipv6]
  · rw [ipNexthdr, hr.byteAt_eq (by unfold MayChange; omega), ← h.nexthdr, ipNexthdr]
  · have hheader : peek r 62 60 = d.header := by
      rw [hr.peek_eq (fun i hi hi' => by unfold MayChange; omega),
        @peek_header d q h 0 60 (by omega), peek_zero (by simp)]
    rw [drop_eq_peek_append r 62 60, hheader, drop_eq_peek_append r 122 d.path.length, hr.drop_eq,
      h.tail.2, ScionDatagram.bytes, d.header_withPath]
    rfl

/-- **What `scion_ingress` makes of it**: it passes an IPv6 frame with the hosts, the next header
and the payload of the packet, or drops it for want of room. Kind: P -/
theorem ingress (h : InFrame d q) (hmatch : scionPrefixMatch (ipDaddr q) = true) (e : Endian)
    (x : XdpHelpers) (hpass : (scionIngress e x q).verdict = .XDP_PASS) :
    IngressLayout e q (scionIngress e x q).frame ∧
      ipSaddr (scionIngress e x q).frame = d.srcHost.toList ∧
      ipDaddr (scionIngress e x q).frame = d.dstHost.toList ∧
      ipNexthdr (scionIngress e x q).frame = d.next ∧
      peek (scionIngress e x q).frame 18 2 = d.payloadLen.toList ∧
      (scionIngress e x q).frame.drop 54 = d.payload := by
  obtain ⟨hnext, hsci, hpayload, -, hdst, hsrc⟩ := h.fields
  have hlen := h.length
  have hskip : ¬ IngressSkips q := by
    rintro (hshort | htype | hicmp | htcp | hrange)
    · omega
    · exact htype h.ipv6
    · rw [h.nexthdr] at hicmp
      cases hicmp
    · rw [h.nexthdr] at htcp
      cases htcp
    · rw [hmatch] at hrange
      cases hrange
  rcases scionIngress_of_not_skips e x hskip with ⟨-, -, -, hlay⟩ | ⟨-, hdrop⟩
  · refine ⟨hlay, hlay.saddr.trans hsrc, hlay.daddr.trans hdst, hlay.nexthdr.trans hnext,
      hlay.payloadLen.trans hpayload, ?_⟩
    rw [hlay.tail, hsci, d.toNat_hdrLen, ← Nat.add_assoc]
    exact h.tail.2
  · rw [hpass] at hdrop
    cases hdrop

end InFrame

/-- **What `scion_egress` emits carries the packet of the frame it was handed**: its hosts, next
header and upper-layer bytes. Kind: P -/
theorem EgressLayout.inFrame {e : Endian} {path : Path} {p out : Frame} (hfit : path.Fits)
    (hfwd : ¬ EgressForwards e p) (hlay : EgressLayout e (pathToMapEntry e path) p out) :
    ∃ d, InFrame d out ∧ d.next = ipNexthdr p ∧ d.payloadLen.toList = peek p 18 2 ∧
      d.dstHost.toList = ipDaddr p ∧ d.srcHost.toList = ipSaddr p ∧ d.payload = p.drop 54 := by
  have hp := length_of_not_forwards hfwd
  have hrec := (InTransit.refl path.dp.length out).received hfit hfwd hlay
  have hlen := hrec.length
  have hdst : (ipDaddr p).length = 16 := length_ipDaddr (by omega)
  have hsrc : (ipSaddr p).length = 16 := length_peek (by omega)
  let d : ScionDatagram :=
    { verQosFlow := ⟨peek out 62 4, length_peek (by omega)⟩
      next := ipNexthdr p
      payloadLen := ⟨peek p 18 2, length_peek (by omega)⟩
      type := pathType path.dp
      dst := path.dst
      src := path.src
      dstHost := ⟨ipDaddr p, hdst⟩
      srcHost := ⟨ipSaddr p, hsrc⟩
      path := peek out 122 path.dp.length
      payload := p.drop 54
      words := by rw [length_peek (by omega)]; exact hfit.words
      size := by rw [length_peek (by omega)]; exact hfit.size }
  refine ⟨d, ⟨hrec.ipv6, hrec.nexthdr, ?_⟩, rfl, rfl, rfl, rfl, rfl⟩
  have hscionhdr : peek out 66 24 = scionHeader path p :=
    calc peek out 66 24 = peek (peek out 62 28) 4 24 := (@peek_peek out 62 28 4 24 (by omega)).symm
      _ = ((writeScionhdr e (pathToMapEntry e path).header p).bytes e).drop 4 := by
        rw [hlay.scionhdr, peek, List.take_of_length_le (by simp)]
      _ = scionHeader path p := writeScionhdr_pathToMapEntry e path (by omega)
  have hpath : (peek out 122 path.dp.length).length = path.dp.length := length_peek (by omega)
  rw [drop_eq_peek_append out 62 4, drop_eq_peek_append out 66 24, hscionhdr,
    drop_eq_peek_append out 90 16, hlay.dstHost, drop_eq_peek_append out 106 16, hlay.srcHost,
    drop_eq_peek_append out 122 path.dp.length, hrec.tail]
  simp [d, ScionDatagram.bytes, ScionDatagram.header, ScionDatagram.hdrLen, scionHeader, hpath]

end ScionIp.Ebpf
