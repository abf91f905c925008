import ScionIp.Ebpf.RoundTrip

/-!
# The underlay packet of a translated frame

Everything here holds for every entry, consistent or not: the copy loop does not reach the headers
(`egressOutput_headers`).

* `underlayPorts_iff` — the ports of the underlay UDP header on a little-endian host. Both are
  passed through `bpf_htons`; the source port comes from the packet and is in network order already.
* `forwards_translated_iff` — what `scion_egress` makes of a frame it has translated itself.
-/

namespace ScionIp.Ebpf

open ScionIp.Lib

/-! ## Ports -/

/-- **The underlay UDP header of `out` has the right ports**: the source port is the one of the
upper layer of `f`, byte for byte, and the destination port is the router's. Kind: D -/
structure PortsRight (entry : PathMapEntry) (f out : Frame) : Prop where
  source : peek out 54 2 = peek f 54 2
  dest : peek out 56 2 = toBE 2 entry.routerPort.toNat

/-- The source port of the upper layer, byte by byte. Kind: L -/
theorem peek_sourcePort {f : Frame} (hf : 62 ≤ f.length) :
    peek f 54 2 = [byteAt f 54, byteAt f 55] := by
  rw [show 2 = 1 + 1 from rfl, peek_add, peek_one (by omega), peek_one (by omega)]
  rfl

/-- A word loaded without a conversion and stored with one has its bytes swapped. Kind: L -/
theorem toBE_loadU16_little (a b : UInt8) : toBE 2 (loadU16 .little [a, b]).toNat = [b, a] := by
  have hlt : load .little [a, b] < 2 ^ 16 := by simpa using load_lt .little [a, b]
  rw [loadU16, UInt16.toNat_ofNat', Nat.mod_eq_of_lt hlt]
  exact toBE_ofBE [b, a]

/-- **When the underlay ports are right** on a little-endian host: for source ports whose two bytes
are the same. The destination port always is. Kind: P -/
theorem underlayPorts_iff {h : TcHelpers} {pathMap : PathMap} {f : Frame} {entry : PathMapEntry}
    (hentry : pathMap (getMapKey .little (ipDaddr f)) = some entry)
    (hrw : Rewrites f (scionEgress .little h pathMap f)) :
    PortsRight entry f (scionEgress .little h pathMap f).frame ↔ byteAt f 54 = byteAt f 55 := by
  obtain ⟨entry', ht, heq⟩ := scionEgress_rewrites hrw
  obtain rfl : entry = entry' := Option.some.inj (hentry.symm.trans ht.hit)
  have hports := peek_sourcePort (length_of_not_forwards ht.notForwarded)
  have hh := egressOutput_headers ht
  have hsource : peek (egressOutput .little h entry f) 54 2 = [byteAt f 55, byteAt f 54] := by
    rw [hh.udpSource, udpSource, hports, toBE_loadU16_little]
  rw [heq]
  constructor
  · intro hok
    have hbytes := hok.source
    rw [hsource, hports, List.cons.injEq] at hbytes
    exact hbytes.1.symm
  · intro hsame
    refine ⟨?_, hh.udpDest⟩
    rw [hsource, hports, hsame]

/-- The sample frame from the given source port. Kind: D -/
def portFrame (port : Bytes) : Frame := poke sampleFrame 54 port

/-- Source port `0x7575` is kept. Kind: C -/
theorem underlayPorts_sample :
    PortsRight (pathToMapEntry .little samplePath) (portFrame [0x75, 0x75])
      (scionEgress .little (mtuHelpers 1500) (samplePathMap .little)
        (portFrame [0x75, 0x75])).frame :=
  (underlayPorts_iff (by decide +kernel) ⟨by decide +kernel, by decide +kernel⟩).mpr
    (by decide +kernel)

/-- **The source port is swapped**: a datagram from port 1000 leaves from port 59395. Kind: C -/
theorem not_underlayPorts :
    ipNexthdr sampleFrame = NEXTHDR_UDP ∧
      Rewrites sampleFrame (scionEgress .little (mtuHelpers 1500) (samplePathMap .little)
        sampleFrame) ∧
      ¬ PortsRight (pathToMapEntry .little samplePath) sampleFrame
        (scionEgress .little (mtuHelpers 1500) (samplePathMap .little) sampleFrame).frame := by
  refine ⟨by decide +kernel, ⟨by decide +kernel, by decide +kernel⟩, ?_⟩
  intro hok
  exact absurd hok.source (by decide +kernel)

/-! ## Translating twice -/

/-- The router of the entry is no destination to translate to: outside `fc00::/8`, or in the AS the
frame comes from. Kind: D -/
def RouterIsLocal (e : Endian) (entry : PathMapEntry) (f : Frame) : Prop :=
  scionPrefixMatch entry.routerAddr.toList = false ∨
    getScionAddr e entry.routerAddr.toList = getScionAddr e (ipSaddr f)

/-- **What egress makes of its own translation**: it is forwarded exactly when the router is local,
whatever the payload and the path are. Kind: P -/
theorem forwards_translated_iff {e : Endian} {h : TcHelpers} {pathMap : PathMap} {f : Frame}
    {entry : PathMapEntry} (ht : EgressTranslates e h pathMap f entry) :
    EgressForwards e (egressOutput e h entry f) ↔ RouterIsLocal e entry f := by
  have hh := egressOutput_headers ht
  have hf := length_of_not_forwards ht.notForwarded
  have hlong : ¬ f.length + (8 + 4 * entry.header.len.toNat) < 62 := by omega
  have htype : peek (egressOutput e h entry f) 12 2 = [0x86, 0xDD] := by
    have hkept : ¬ peek f 12 2 ≠ [0x86, 0xDD] := fun hc => ht.notForwarded (Or.inr (Or.inl hc))
    rw [← @peek_peek _ 0 18 12 2 (by omega), hh.head, peek_peek _ (by omega)]
    exact not_not.mp hkept
  have hudp : ¬ NEXTHDR_UDP = NEXTHDR_ICMPV6 := by decide
  unfold EgressForwards RouterIsLocal
  rw [hh.nexthdr, hh.daddr, hh.saddr]
  simp [hlong, htype, hudp]

/-- **No double encapsulation.** A frame rewritten with an entry whose router is local passes a
second run of `scion_egress` untouched and without a request, whatever the cache holds by then.
Kind: P -/
theorem no_double_encapsulation {e : Endian} {h : TcHelpers} {pathMap : PathMap} {p : Frame}
    {entry : PathMapEntry} (hrw : Rewrites p (scionEgress e h pathMap p))
    (hentry : pathMap (getMapKey e (ipDaddr p)) = some entry)
    (hrouter : scionPrefixMatch entry.routerAddr.toList = false ∨
      getScionAddr e entry.routerAddr.toList = getScionAddr e (ipSaddr p))
    (h' : TcHelpers) (pathMap' : PathMap) :
    scionEgress e h' pathMap' (scionEgress e h pathMap p).frame
      = ⟨.TC_ACT_OK, (scionEgress e h pathMap p).frame, none⟩ := by
  obtain ⟨entry', ht, heq⟩ := scionEgress_rewrites hrw
  obtain rfl : entry = entry' := Option.some.inj (hentry.symm.trans ht.hit)
  rw [heq]
  exact scionEgress_of_forwards ((forwards_translated_iff ht).mpr hrouter) h' pathMap'

/-- The translated sample frame is left alone with an empty cache. Kind: C -/
theorem no_double_encapsulation_sample :
    scionEgress .little (mtuHelpers 1500) (fun _ => none)
        (scionEgress .little (mtuHelpers 1500) (samplePathMap .little) sampleFrame).frame
      = ⟨.TC_ACT_OK,
        (scionEgress .little (mtuHelpers 1500) (samplePathMap .little) sampleFrame).frame, none⟩ :=
  @no_double_encapsulation .little (mtuHelpers 1500) (samplePathMap .little) sampleFrame
    (pathToMapEntry .little samplePath) ⟨by decide +kernel, by decide +kernel⟩ (by decide +kernel)
    (Or.inr (by decide +kernel)) (mtuHelpers 1500) (fun _ => none)

/-- **With a router in another AS egress does translate twice**: a second run with the router's AS
in no cache asks for it and drops the frame. Kind: P -/
theorem translated_requests_router {e : Endian} {h : TcHelpers} {pathMap : PathMap} {f : Frame}
    {entry : PathMapEntry} (ht : EgressTranslates e h pathMap f entry)
    (hrouter : ¬ RouterIsLocal e entry f) (h' : TcHelpers) {pathMap' : PathMap}
    (hmiss : pathMap' (getMapKey e entry.routerAddr.toList) = none) :
    scionEgress e h' pathMap' (egressOutput e h entry f)
      = ⟨.TC_ACT_SHOT, egressOutput e h entry f, some (getMapKey e entry.routerAddr.toList)⟩ := by
  have hfwd : ¬ EgressForwards e (egressOutput e h entry f) :=
    fun hc => hrouter ((forwards_translated_iff ht).mp hc)
  rw [scionEgress_of_not_forwards hfwd, (egressOutput_headers ht).daddr, hmiss]

end ScionIp.Ebpf
