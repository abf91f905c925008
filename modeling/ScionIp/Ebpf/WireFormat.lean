import ScionIp.Ebpf.RoundTrip

/-!
# The packet on the wire

The entry builder of the path service and the rewriting program each write a part of the SCION
header. `scionPacket` is the packet the two owe the border router, from the second word of the
common header on; `WireFormat` adds the underlay in front of it.

* `EgressLayout.wireFormat` — a translated frame carries that packet when the entry was built by
  `pathToMapEntry` and the payload length fits its 16 bits.
* `scionEgress_wireFormat` — the same for every run that rewrites its frame.

The first word (version, traffic class, flow label) is the subject of `Ebpf/FlowLabel.lean`.
-/

namespace ScionIp.Ebpf

open ScionIp.Lib

/-- The path type of a dataplane path. Kind: D -/
def pathType (dp : Bytes) : UInt8 := if dp.isEmpty then SC_PATH_TYPE_EMPTY else SC_PATH_TYPE_SCION

/-- The common header from its second word on, and the two ISD-AS numbers. Kind: D -/
def scionHeader (path : Path) (f : Frame) : Bytes :=
  [ipNexthdr f, UInt8.ofNat ((60 + path.dp.length) / 4)] ++ peek f 18 2 ++
    [pathType path.dp, 0x33, 0, 0] ++ toBE 8 path.dst.toNat ++ toBE 8 path.src.toNat

/-- **The SCION packet for the frame `f`** from the second word of the common header on: the
headers, the path and the original upper layer. Kind: D -/
def scionPacket (path : Path) (f : Frame) : Bytes :=
  scionHeader path f ++ ipDaddr f ++ ipSaddr f ++ path.dp ++ f.drop 54

/-- **`out` carries the SCION packet for `f`** in a UDP datagram to the border router.
Kind: D -/
structure WireFormat (path : Path) (f out : Frame) : Prop where
  nexthdr : ipNexthdr out = NEXTHDR_UDP
  daddr : ipDaddr out = path.nextHop.getIPv6.toList
  payloadLen : ofBE (peek out 18 2) = 8 + 60 + path.dp.length + ofBE (peek f 18 2)
  udpLen : peek out 58 2 = peek out 18 2
  scion : out.drop 66 = scionPacket path f
  /-- The header length in words is not cut to its eight bits. -/
  hdrLen : (byteAt out 67).toNat = (60 + path.dp.length) / 4

/-- The memory image of a header behind its first word. Kind: L -/
theorem ScionHdr.drop_bytes (e : Endian) (h : ScionHdr) :
    (h.bytes e).drop 4 = [h.next, h.len] ++ storeU16 e h.payload ++ [h.type, h.haddr] ++
      storeU16 e h.rsv ++ storeU64 e h.dst ++ storeU64 e h.src := by
  simp [ScionHdr.bytes]

/-- The header the two programs produce together, behind its first word. Kind: L -/
theorem writeScionhdr_pathToMapEntry (e : Endian) (path : Path) {f : Frame} (hf : 54 ≤ f.length) :
    ((writeScionhdr e (pathToMapEntry e path).header f).bytes e).drop 4 = scionHeader path f := by
  have hpay : storeU16 e (ipPayloadLen e f) = peek f 18 2 :=
    storeU16_loadU16 (length_peek (by omega))
  have hrsv : storeU16 e 0 = [0, 0] := by
    cases e <;> rfl
  rw [ScionHdr.drop_bytes]
  simp only [writeScionhdr_next, writeScionhdr_len, writeScionhdr_payload, writeScionhdr_type,
    writeScionhdr_haddr, writeScionhdr_rsv, writeScionhdr_dst, writeScionhdr_src,
    pathToMapEntry_header, storeU64_htobe64, hpay, hrsv, pathType, scionHeader, List.append_assoc,
    List.cons_append, List.nil_append]

/-- **A frame translated with an entry of the path service has the wire format.** Kind: P -/
theorem EgressLayout.wireFormat {e : Endian} {path : Path} {f out : Frame} (hfit : path.Fits)
    (hf : 54 ≤ f.length) (hlay : EgressLayout e (pathToMapEntry e path) f out)
    (hpl : ofBE (peek f 18 2) + 8 + 4 * (pathToMapEntry e path).header.len.toNat < 65536) :
    WireFormat path f out := by
  have hlen := pathToMapEntry_len e hfit
  have hplen := pathToMapEntry_pathLen e hfit
  have hpath := hlay.path.trans (pathToMapEntry_path e hfit)
  have htail := hlay.tail
  rw [hplen] at hpath htail
  -- the four parts of the wire behind the first word, in order
  have hhdr : peek out 66 24 = scionHeader path f :=
    calc peek out 66 24 = peek (peek out 62 28) 4 24 := (@peek_peek out 62 28 4 24 (by omega)).symm
      _ = ((writeScionhdr e (pathToMapEntry e path).header f).bytes e).drop 4 := by
        rw [hlay.scionhdr, peek, List.take_of_length_le (by simp)]
      _ = scionHeader path f := writeScionhdr_pathToMapEntry e path hf
  have hwire : out.drop 66 = peek out 66 24 ++ (peek out 90 16 ++ (peek out 106 16 ++
      (peek out 122 path.dp.length ++ out.drop (122 + path.dp.length)))) := by
    rw [← drop_eq_peek_append, ← drop_eq_peek_append, ← drop_eq_peek_append,
      ← drop_eq_peek_append]
  have hscion : out.drop 66 = scionPacket path f := by
    rw [hwire, hhdr, hlay.dstHost, hlay.srcHost, hpath, htail, scionPacket]
    simp only [List.append_assoc]
  have hlenByte : byteAt out 67 = (pathToMapEntry e path).header.len := by
    have hread : byteAt out (62 + 5) = byteAt (peek out 62 28) 5 :=
      (byteAt_peek (by omega)).symm
    rw [hread, hlay.scionhdr, ScionHdr.bytes_len, writeScionhdr_len]
  constructor
  case nexthdr => exact hlay.nexthdr
  case daddr => exact hlay.daddr
  case payloadLen =>
    rw [hlay.payloadLen, ofBE_toBE, egressPayloadLen, Nat.mod_eq_of_lt (by omega)]
    omega
  case udpLen => rw [hlay.udpLen, hlay.payloadLen]
  case scion => exact hscion
  case hdrLen =>
    rw [hlenByte]
    omega

/-- **The SCION packet that egress emits has exactly the SCION wire format.** Kind: P -/
theorem scionEgress_wireFormat {e : Endian} {h : TcHelpers} {pathMap : PathMap} {path : Path}
    {f : Frame} (hwords : path.dp.length % 4 = 0) (hsize : path.dp.length ≤ 960)
    (hentry : pathMap (getMapKey e (ipDaddr f)) = some (pathToMapEntry e path))
    (hrw : Rewrites f (scionEgress e h pathMap f))
    (hpl : ofBE (peek f 18 2) + 8 + 4 * (pathToMapEntry e path).header.len.toNat < 65536) :
    WireFormat path f (scionEgress e h pathMap f).frame := by
  have hfit : path.Fits := ⟨hwords, hsize⟩
  obtain ⟨entry, ht, heq⟩ := scionEgress_rewrites hrw
  obtain rfl : pathToMapEntry e path = entry := Option.some.inj (hentry.symm.trans ht.hit)
  have hf := length_of_not_forwards ht.notForwarded
  rw [heq]
  exact (egressOutput_layout ht (pathToMapEntry_consistent e hfit)).wireFormat hfit (by omega) hpl

/-- The wire format on the sample frame. Kind: C -/
theorem scionEgress_wireFormat_sample :
    WireFormat samplePath sampleFrame (scionEgress .little (mtuHelpers 1500)
      (samplePathMap .little) sampleFrame).frame :=
  @scionEgress_wireFormat .little (mtuHelpers 1500) (samplePathMap .little) samplePath sampleFrame
    (by decide) (by decide) (by decide +kernel) ⟨by decide +kernel, by decide +kernel⟩
    (by decide +kernel)

end ScionIp.Ebpf
