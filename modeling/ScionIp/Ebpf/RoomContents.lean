import ScionIp.Ebpf.RoundTrip

/-!
# What the opened room leaks

`bpf_skb_adjust_room` does not clear the room it opens, so every byte of the new headers has to be
written before the frame is released. Two runs that differ only in the contents of the room are
compared.

* `EgressTranslates.withRoom` — no decision depends on the contents of the room.
* `EgressLayout.agree` — the layout fixes every byte of a translated frame but the two of the
  underlay UDP checksum, which the source leaves to the device.
* `scionEgress_withRoom` — verdict and frame of the two runs, from these.
-/

namespace ScionIp.Ebpf

open ScionIp.Lib

/-- The helpers with other contents of the room. Kind: D -/
def TcHelpers.withRoom (h : TcHelpers) (room : ℕ → UInt8) : TcHelpers := { h with room := room }

/-- Frames that agree on every byte but the two of the underlay UDP checksum. Kind: D -/
def AgreeButChecksum (a b : Frame) : Prop := ∀ i, i ≠ 60 ∧ i ≠ 61 → a[i]? = b[i]?

/-- Equal reads give equal bytes. Kind: L -/
theorem getElem?_of_peek_eq {m m' : Bytes} {off n i : ℕ} (h : peek m off n = peek m' off n)
    (hi : off ≤ i ∧ i < off + n) : m[i]? = m'[i]? := by
  have hread : (peek m off n)[i - off]? = (peek m' off n)[i - off]? := by rw [h]
  rw [getElem?_peek, getElem?_peek, if_pos (by omega), if_pos (by omega)] at hread
  rwa [Nat.add_sub_of_le hi.1] at hread

/-- Equal bytes inside both buffers. Kind: L -/
theorem getElem?_of_byteAt_eq {m m' : Bytes} {i : ℕ} (h : byteAt m i = byteAt m' i)
    (hm : i < m.length) (hm' : i < m'.length) : m[i]? = m'[i]? := by
  rw [byteAt, byteAt, List.getD_eq_getElem _ _ hm, List.getD_eq_getElem _ _ hm'] at h
  rw [List.getElem?_eq_getElem hm, List.getElem?_eq_getElem hm', h]

/-- **A translated frame is determined by its input and its entry**, the checksum apart.
Kind: P -/
theorem EgressLayout.agree {e : Endian} {entry : PathMapEntry} {f a b : Frame}
    (hc : entry.Consistent) (ha : EgressLayout e entry f a) (hb : EgressLayout e entry f b) :
    AgreeButChecksum a b := by
  have hla := ha.length
  have hlb := hb.length
  unfold PathMapEntry.Consistent at hc
  rintro i ⟨h60, h61⟩
  -- one case for each field of the layout, in the order of the wire
  obtain h | h | h | h | h | h | h | h | h | h | h | h | h | h : i < 18 ∨ 18 ≤ i ∧ i < 20 ∨ i = 20 ∨
      i = 21 ∨ 22 ≤ i ∧ i < 38 ∨ 38 ≤ i ∧ i < 54 ∨ 54 ≤ i ∧ i < 56 ∨ 56 ≤ i ∧ i < 58 ∨
      58 ≤ i ∧ i < 60 ∨ 62 ≤ i ∧ i < 90 ∨ 90 ≤ i ∧ i < 106 ∨ 106 ≤ i ∧ i < 122 ∨
      122 ≤ i ∧ i < 122 + 4 * entry.pathLen.toNat ∨ 122 + 4 * entry.pathLen.toNat ≤ i := by
    omega
  · exact getElem?_of_peek_eq (ha.head.trans hb.head.symm) ⟨by omega, by omega⟩
  · exact getElem?_of_peek_eq (ha.payloadLen.trans hb.payloadLen.symm) h
  · subst h
    exact getElem?_of_byteAt_eq (ha.nexthdr.trans hb.nexthdr.symm) (by omega) (by omega)
  · subst h
    exact getElem?_of_byteAt_eq (ha.hopLimit.trans hb.hopLimit.symm) (by omega) (by omega)
  · exact getElem?_of_peek_eq (ha.saddr.trans hb.saddr.symm) h
  · exact getElem?_of_peek_eq (ha.daddr.trans hb.daddr.symm) h
  · exact getElem?_of_peek_eq (ha.udpSource.trans hb.udpSource.symm) h
  · exact getElem?_of_peek_eq (ha.udpDest.trans hb.udpDest.symm) h
  · exact getElem?_of_peek_eq (ha.udpLen.trans hb.udpLen.symm) h
  · exact getElem?_of_peek_eq (ha.scionhdr.trans hb.scionhdr.symm) h
  · exact getElem?_of_peek_eq (ha.dstHost.trans hb.dstHost.symm) h
  · exact getElem?_of_peek_eq (ha.srcHost.trans hb.srcHost.symm) h
  · exact getElem?_of_peek_eq (ha.path.trans hb.path.symm) h
  · have htail : a.drop (122 + 4 * entry.pathLen.toNat) = b.drop (122 + 4 * entry.pathLen.toNat) :=
      ha.tail.trans hb.tail.symm
    have hi : i = 122 + 4 * entry.pathLen.toNat + (i - (122 + 4 * entry.pathLen.toNat)) := by omega
    rw [hi, ← List.getElem?_drop, ← List.getElem?_drop, htail]

/-- Whether a run translates its frame does not depend on the contents of the room. Kind: L -/
theorem EgressTranslates.withRoom {e : Endian} {h : TcHelpers} {room room' : ℕ → UInt8}
    {pathMap : PathMap} {f : Frame} {path : PathMapEntry}
    (ht : EgressTranslates e (h.withRoom room) pathMap f path) :
    EgressTranslates e (h.withRoom room') pathMap f path :=
  ⟨ht.notForwarded, ht.hit, ht.mtu, ht.room, ht.size⟩

/-- **Two runs that differ only in the contents of the room** end with the same verdict; a frame
they leave alone is the same, and the frames they translate agree on every byte but the two of
the underlay UDP checksum. Kind: P -/
theorem scionEgress_withRoom {e : Endian} {h : TcHelpers} {pathMap : PathMap} {path : Path}
    {f : Frame} (hwords : path.dp.length % 4 = 0) (hsize : path.dp.length ≤ 960)
    (hentry : pathMap (getMapKey e (ipDaddr f)) = some (pathToMapEntry e path))
    (room room' : ℕ → UInt8) :
    (scionEgress e (h.withRoom room) pathMap f).verdict
        = (scionEgress e (h.withRoom room') pathMap f).verdict ∧
      ((scionEgress e (h.withRoom room) pathMap f).verdict = .TC_ACT_OK →
        AgreeButChecksum (scionEgress e (h.withRoom room) pathMap f).frame
            (scionEgress e (h.withRoom room') pathMap f).frame ∧
          (¬ Rewrites f (scionEgress e (h.withRoom room) pathMap f) →
            (scionEgress e (h.withRoom room) pathMap f).frame
              = (scionEgress e (h.withRoom room') pathMap f).frame)) := by
  have hfit : path.Fits := ⟨hwords, hsize⟩
  rcases scionEgress_cases e (h.withRoom room) pathMap f with ⟨hfwd, heq⟩ | ⟨-, hmiss, -⟩ |
    ⟨entry, hfwd, hit, hnot, hv, -⟩ | ⟨entry, ht, heq⟩
  · -- forwarded: neither run opens any room
    rw [heq, scionEgress_of_forwards hfwd]
    exact ⟨rfl, fun _ => ⟨fun _ _ => rfl, fun _ => rfl⟩⟩
  · rw [hentry] at hmiss
    cases hmiss
  · -- dropped behind the lookup: the other run is as well
    have hv' : (scionEgress e (h.withRoom room') pathMap f).verdict = .TC_ACT_SHOT := by
      rcases scionEgress_cases e (h.withRoom room') pathMap f with ⟨hf, -⟩ | ⟨-, -, heq⟩ |
        ⟨-, -, -, -, hv', -⟩ | ⟨entry', ht', -⟩
      · exact absurd hf hfwd
      · rw [heq]
      · exact hv'
      · have hsame : some entry = some entry' := hit.symm.trans ht'.hit
        cases hsame
        exact absurd ht'.withRoom hnot
    refine ⟨hv.trans hv'.symm, ?_⟩
    intro hok
    rw [hv] at hok
    cases hok
  · -- translated: both frames have the layout of the same input and entry
    obtain rfl : pathToMapEntry e path = entry := Option.some.inj (hentry.symm.trans ht.hit)
    have hc : (pathToMapEntry e path).Consistent := pathToMapEntry_consistent e hfit
    have hne : egressOutput e (h.withRoom room) (pathToMapEntry e path) f ≠ f := by
      intro hsame
      have hlen := length_egressOutput e (h.withRoom room) (pathToMapEntry e path) f
      rw [hsame] at hlen
      omega
    rw [heq, ht.withRoom.rewrites]
    refine ⟨rfl, ?_⟩
    intro _
    refine ⟨EgressLayout.agree hc (egressOutput_layout ht hc)
      (@egressOutput_layout e (h.withRoom room') pathMap f _ ht.withRoom hc), ?_⟩
    intro hnot
    exact absurd ⟨rfl, hne⟩ hnot

/-- A cleared room and a used one on the sample frame. Kind: C -/
theorem scionEgress_withRoom_sample :
    AgreeButChecksum
      (scionEgress .little ((mtuHelpers 1500).withRoom fun _ => 0) (samplePathMap .little)
        sampleFrame).frame
      (scionEgress .little ((mtuHelpers 1500).withRoom fun _ => 0xAA) (samplePathMap .little)
        sampleFrame).frame :=
  ((@scionEgress_withRoom .little (mtuHelpers 1500) (samplePathMap .little) samplePath sampleFrame
    (by decide) (by decide) (by decide +kernel) (fun _ => 0) (fun _ => 0xAA)).2
    (by decide +kernel)).1

/-- The two bytes of the underlay UDP checksum are what the room held. Kind: C -/
theorem scionEgress_checksum_is_room :
    samplePath.dp.length % 4 = 0 ∧ samplePath.dp.length ≤ 960 ∧
      samplePathMap .little (getMapKey .little (ipDaddr sampleFrame))
        = some (pathToMapEntry .little samplePath) ∧
      (scionEgress .little ((mtuHelpers 1500).withRoom fun _ => 0) (samplePathMap .little)
        sampleFrame).verdict = .TC_ACT_OK ∧
      (scionEgress .little ((mtuHelpers 1500).withRoom fun _ => 0) (samplePathMap .little)
          sampleFrame).frame
        ≠ (scionEgress .little ((mtuHelpers 1500).withRoom fun _ => 0xAA) (samplePathMap .little)
          sampleFrame).frame := by
  decide +kernel

end ScionIp.Ebpf
