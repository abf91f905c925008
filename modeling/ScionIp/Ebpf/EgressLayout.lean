import ScionIp.Ebpf.Egress

/-!
# The bytes of a translated frame

`egressOutput` is a nest of overwrites. `EgressHeaders` and `EgressLayout` say, field by field in
the order of the wire, what those overwrites amount to; they are the only description of a
translated frame that later modules use.

* `egressOutput_headers` — the bytes before the path, for every entry.
* `egressOutput_layout` — every run that translates its frame with a *consistent* entry
  (`60 + 4 * path_len = 4 * header.len`, `PathMapEntry.Consistent`) emits such a frame. The
  consistency is what makes the path fill the announced header and leaves the copy loop, whose
  bound is strict, at least the eight bytes of the original upper layer.
-/

namespace ScionIp.Ebpf

open ScionIp.Lib

/-- The entry's header length covers the fixed headers and exactly its path. Kind: D -/
def PathMapEntry.Consistent (path : PathMapEntry) : Prop :=
  60 + 4 * path.pathLen.toNat = 4 * path.header.len.toNat

/-- **A frame `out` that is the translation of `f` with the cached `entry`**, field by field. The
two bytes of the underlay UDP checksum are whatever the room held. Kind: D -/
structure EgressLayout (e : Endian) (entry : PathMapEntry) (f out : Frame) : Prop where
  length : out.length = f.length + (8 + 4 * entry.header.len.toNat)
  /-- The Ethernet header and the first four octets of the IPv6 header are kept. -/
  head : peek out 0 18 = peek f 0 18
  payloadLen : peek out 18 2 = toBE 2 (egressPayloadLen entry f)
  nexthdr : ipNexthdr out = NEXTHDR_UDP
  hopLimit : byteAt out 21 = byteAt f 21
  saddr : ipSaddr out = ipSaddr f
  daddr : ipDaddr out = entry.routerAddr.toList
  udpSource : peek out 54 2 = toBE 2 (udpSource e f).toNat
  udpDest : peek out 56 2 = toBE 2 entry.routerPort.toNat
  udpLen : peek out 58 2 = toBE 2 (egressPayloadLen entry f)
  scionhdr : peek out 62 28 = (writeScionhdr e entry.header f).bytes e
  dstHost : peek out 90 16 = ipDaddr f
  srcHost : peek out 106 16 = ipSaddr f
  path : peek out 122 (4 * entry.pathLen.toNat) = peek entry.path.toList 0 (4 * entry.pathLen.toNat)
  /-- What followed the IPv6 header follows the path. -/
  tail : out.drop (122 + 4 * entry.pathLen.toNat) = f.drop 54

/-- **The headers of a frame `out` that is the translation of `f` with the cached `entry`**: the
bytes before the path. Kind: D -/
structure EgressHeaders (e : Endian) (entry : PathMapEntry) (f out : Frame) : Prop where
  length : out.length = f.length + (8 + 4 * entry.header.len.toNat)
  head : peek out 0 18 = peek f 0 18
  payloadLen : peek out 18 2 = toBE 2 (egressPayloadLen entry f)
  nexthdr : ipNexthdr out = NEXTHDR_UDP
  hopLimit : byteAt out 21 = byteAt f 21
  saddr : ipSaddr out = ipSaddr f
  daddr : ipDaddr out = entry.routerAddr.toList
  udpSource : peek out 54 2 = toBE 2 (udpSource e f).toNat
  udpDest : peek out 56 2 = toBE 2 entry.routerPort.toNat
  udpLen : peek out 58 2 = toBE 2 (egressPayloadLen entry f)
  scionhdr : peek out 62 28 = (writeScionhdr e entry.header f).bytes e
  dstHost : peek out 90 16 = ipDaddr f
  srcHost : peek out 106 16 = ipSaddr f

/-- **The headers of a translated frame**, whatever lengths the entry announces: the copy loop
writes behind them. Kind: P -/
theorem egressOutput_headers {e : Endian} {h : TcHelpers} {pathMap : PathMap} {f : Frame}
    {path : PathMapEntry} (ht : EgressTranslates e h pathMap f path) :
    EgressHeaders e path f (egressOutput e h path f) := by
  have hf := length_of_not_forwards ht.notForwarded
  have hsz := ht.size
  set n := 8 + 4 * path.header.len.toNat with hn
  set g := insertRoom h.room f n with hg
  have hlen : g.length = f.length + n := by simp [hg]
  have hlow : ∀ off k, off + k ≤ 54 → peek g off k = peek f off k := fun off k hk =>
    peek_insertRoom h.room n (by omega) hk
  have hd : ipDaddr g = ipDaddr f := hlow 38 16 (by omega)
  have hs : ipSaddr g = ipSaddr f := hlow 22 16 (by omega)
  have hpl : egressPayloadLen path g = egressPayloadLen path f := by
    rw [egressPayloadLen, egressPayloadLen, hlow 18 2 (by omega)]
  have hw : writeScionhdr e path.header g = writeScionhdr e path.header f :=
    writeScionhdr_congr e path.header (hlow 14 7 (by omega))
  have hds : (ipDaddr f).length = 16 := length_ipDaddr (by omega)
  have hss : (ipSaddr f).length = 16 := length_ipSaddr (by omega)
  -- everything up to the path is written before the copy loop or beside its target
  have hout : egressOutput e h path f =
      poke (poke (poke (poke (copyPath path.path.toList 122 path.pathLen.toNat 0 (poke (poke (poke
        (poke g 56 (toBE 2 path.routerPort.toNat)) 54 (toBE 2 (udpSource e f).toNat)) 62
        ((writeScionhdr e path.header g).bytes e)) 90 (ipDaddr g ++ ipSaddr g))) 38
        path.routerAddr.toList) 20 [NEXTHDR_UDP]) 18 (toBE 2 (egressPayloadLen path g))) 58
        (toBE 2 (egressPayloadLen path g)) := rfl
  rw [hd, hs, hpl, hw] at hout
  generalize hpre : poke (poke (poke (poke g 56 (toBE 2 path.routerPort.toNat)) 54
    (toBE 2 (udpSource e f).toNat)) 62 ((writeScionhdr e path.header f).bytes e)) 90
    (ipDaddr f ++ ipSaddr f) = pre at hout
  have hprelen : pre.length = g.length := by simp [← hpre]
  have hloop : ∀ off k, off + k ≤ 122 →
      peek (copyPath path.path.toList 122 path.pathLen.toNat 0 pre) off k = peek pre off k :=
    fun off k hk => peek_copyPath_of_le _ pre hk
  have hclen := length_copyPath path.path.toList 122 path.pathLen.toNat 0 pre
  generalize copyPath path.path.toList 122 path.pathLen.toNat 0 pre = c at hout hloop hclen
  rw [hout]
  constructor
  case length => simp [hclen, hprelen, hlen, hn]
  case head =>
    iterate 4 rw [peek_poke_of_disjoint _ (by simp)]
    rw [hloop 0 18 (by omega), ← hpre]
    iterate 4 rw [peek_poke_of_disjoint _ (by simp)]
    exact hlow 0 18 (by omega)
  case payloadLen =>
    rw [peek_poke_of_disjoint _ (by simp), peek_poke_same (by simp) (by simp; omega)]
  case nexthdr =>
    rw [ipNexthdr, byteAt_poke_of_disjoint _ (by simp), byteAt_poke_of_disjoint _ (by simp),
      byteAt_poke_inside (by omega) (by simp) (by simp; omega)]
    rfl
  case hopLimit =>
    have hread : peek c 21 1 = peek f 21 1 := by
      rw [hloop 21 1 (by omega), ← hpre]
      iterate 4 rw [peek_poke_of_disjoint _ (by simp)]
      exact hlow 21 1 (by omega)
    iterate 4 rw [byteAt_poke_of_disjoint _ (by simp)]
    exact byteAt_of_peek_eq hread Nat.zero_lt_one
  case saddr =>
    rw [ipSaddr]
    iterate 4 rw [peek_poke_of_disjoint _ (by simp)]
    rw [hloop 22 16 (by omega), ← hpre]
    iterate 4 rw [peek_poke_of_disjoint _ (by simp)]
    exact hs
  case daddr =>
    rw [ipDaddr]
    iterate 3 rw [peek_poke_of_disjoint _ (by simp)]
    rw [peek_poke_same (by simp) (by simp; omega)]
  case udpSource =>
    iterate 4 rw [peek_poke_of_disjoint _ (by simp)]
    rw [hloop 54 2 (by omega), ← hpre]
    iterate 2 rw [peek_poke_of_disjoint _ (by simp)]
    rw [peek_poke_same (by simp) (by simp; omega)]
  case udpDest =>
    iterate 4 rw [peek_poke_of_disjoint _ (by simp)]
    rw [hloop 56 2 (by omega), ← hpre]
    iterate 3 rw [peek_poke_of_disjoint _ (by simp)]
    rw [peek_poke_same (by simp) (by omega)]
  case udpLen => rw [peek_poke_same (by simp) (by simp; omega)]
  case scionhdr =>
    iterate 4 rw [peek_poke_of_disjoint _ (by simp)]
    rw [hloop 62 28 (by omega), ← hpre, peek_poke_of_disjoint _ (by simp),
      peek_poke_same (by simp) (by simp; omega)]
  case dstHost =>
    iterate 4 rw [peek_poke_of_disjoint _ (by simp)]
    rw [hloop 90 16 (by omega), ← hpre,
      peek_poke_inside (by omega) (by simp; omega) (by simp; omega), peek_append_left (by omega),
      peek_zero (by omega)]
  case srcHost =>
    iterate 4 rw [peek_poke_of_disjoint _ (by simp)]
    rw [hloop 106 16 (by omega), ← hpre,
      peek_poke_inside (by omega) (by simp; omega) (by simp; omega),
      peek_append_right _ _ (by omega), hds, peek_zero (by omega)]

/-- The path and everything behind it, as one write. Kind: L -/
theorem drop_egressFrame (e : Endian) {path : PathMapEntry} (srcPort : UInt16) {g : Frame}
    (hg : 122 + 4 * path.pathLen.toNat < g.length) :
    (egressFrame e path srcPort g).drop 122 =
      poke (g.drop 122) 0 (peek path.path.toList 0 (4 * path.pathLen.toNat)) := by
  have hp : path.pathLen.toNat < 256 := path.pathLen.toNat_lt
  have hd : (ipDaddr g).length = 16 := length_ipDaddr (by omega)
  have hs : (ipSaddr g).length = 16 := length_ipSaddr (by omega)
  have hloop : ∀ f : Frame, f.length = g.length →
      copyPath path.path.toList 122 path.pathLen.toNat 0 f
        = poke f 122 (peek path.path.toList 0 (4 * path.pathLen.toNat)) := fun f hf =>
    copyPath_eq_poke _ 122 path.pathLen.toNat 0 f (by omega)
      (by rw [List.Vector.toList_length]; omega)
  rw [egressFrame, hloop _ (by simp)]
  -- every other write ends before the path
  iterate 4 rw [drop_poke_of_le _ (by simp)]
  rw [drop_poke _ _ (le_refl 122), Nat.sub_self, List.drop_zero]
  iterate 4 rw [drop_poke_of_le _ (by simp [hd, hs])]

/-- **The layout of a translated frame.** Kind: P -/
theorem egressOutput_layout {e : Endian} {h : TcHelpers} {pathMap : PathMap} {f : Frame}
    {path : PathMapEntry} (ht : EgressTranslates e h pathMap f path) (hc : path.Consistent) :
    EgressLayout e path f (egressOutput e h path f) := by
  have hf := length_of_not_forwards ht.notForwarded
  have hh := egressOutput_headers ht
  have hp : path.pathLen.toNat < 256 := path.pathLen.toNat_lt
  unfold PathMapEntry.Consistent at hc
  have hpath : (peek path.path.toList 0 (4 * path.pathLen.toNat)).length
      = 4 * path.pathLen.toNat := length_peek (by rw [List.Vector.toList_length]; omega)
  have hroom := length_insertRoom h.room f (8 + 4 * path.header.len.toNat)
  have hdrop := @drop_egressFrame e path (udpSource e f)
    (insertRoom h.room f (8 + 4 * path.header.len.toNat)) (by omega)
  rw [← egressOutput] at hdrop
  refine ⟨hh.length, hh.head, hh.payloadLen, hh.nexthdr, hh.hopLimit, hh.saddr, hh.daddr,
    hh.udpSource, hh.udpDest, hh.udpLen, hh.scionhdr, hh.dstHost, hh.srcHost, ?_, ?_⟩
  · have hread := congrArg (fun m => peek m 0 (4 * path.pathLen.toNat)) hdrop
    simp only [peek_drop, Nat.add_zero] at hread
    rw [hread, peek_poke_same hpath (by rw [List.length_drop]; omega)]
  · have htail := congrArg (fun m => m.drop (4 * path.pathLen.toNat)) hdrop
    simp only [List.drop_drop] at htail
    rw [htail, drop_poke_of_le _ (by omega), List.drop_drop,
      show 122 + 4 * path.pathLen.toNat = 54 + (8 + 4 * path.header.len.toNat) by omega,
      drop_insertRoom h.room _ (by omega)]

end ScionIp.Ebpf
