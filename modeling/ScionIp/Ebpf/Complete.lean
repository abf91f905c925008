import ScionIp.Ebpf.RoundTrip

/-!
# No half-translated frame

Both programs edit the frame in place and may give up on the way. `EgressWhole` and `IngressWhole`
say that a run that lets its frame go has either not touched it or finished the translation.

* `egressWhole_of_consistent` — egress keeps this for every entry that is consistent.
  `EgressTranslates.path_fits` is the reason why the check without a `return` does no harm.
* `ingressWhole_iff` — ingress keeps it exactly when the header length it removes covers the fixed
  SCION headers: the length is taken from the SCION header and never compared with 60.
* `whole_iff` — both programs together.
-/

namespace ScionIp.Ebpf

open ScionIp.Lib

/-! ## Egress -/

/-- A run of egress lets its frame go untouched, lets it go translated, or drops it. Kind: D -/
def EgressWhole (e : Endian) (h : TcHelpers) (pathMap : PathMap) (f : Frame) : Prop :=
  (scionEgress e h pathMap f).verdict = .TC_ACT_OK ∧
      ((scionEgress e h pathMap f).frame = f ∨
        ∃ entry, pathMap (getMapKey e (ipDaddr f)) = some entry ∧
          EgressLayout e entry f (scionEgress e h pathMap f).frame) ∨
    (scionEgress e h pathMap f).verdict = .TC_ACT_SHOT

/-- The path of a consistent entry ends inside the grown frame: the check in front of the copy
loop never fires. Kind: L -/
theorem EgressTranslates.path_fits {e : Endian} {h : TcHelpers} {pathMap : PathMap} {f : Frame}
    {path : PathMapEntry} (ht : EgressTranslates e h pathMap f path) (hc : path.Consistent) :
    122 + 4 * path.pathLen.toNat ≤ (egressOutput e h path f).length := by
  have hf := length_of_not_forwards ht.notForwarded
  unfold PathMapEntry.Consistent at hc
  rw [length_egressOutput]
  omega

/-- **Egress never emits a half-translated frame.** Kind: P -/
theorem egressWhole_of_consistent (e : Endian) (h : TcHelpers) {pathMap : PathMap} {f : Frame}
    (hc : ∀ entry, pathMap (getMapKey e (ipDaddr f)) = some entry → entry.Consistent) :
    EgressWhole e h pathMap f := by
  unfold EgressWhole
  rcases scionEgress_cases e h pathMap f with ⟨-, heq⟩ | ⟨-, -, heq⟩ | ⟨-, -, -, -, hv, -⟩ |
    ⟨entry, ht, heq⟩
  · rw [heq]
    exact Or.inl ⟨rfl, Or.inl rfl⟩
  · rw [heq]
    exact Or.inr rfl
  · exact Or.inr hv
  · rw [heq]
    exact Or.inl ⟨rfl, Or.inr ⟨entry, ht.hit, egressOutput_layout ht (hc entry ht.hit)⟩⟩

/-! ## Ingress -/

/-- The length of the path: what the SCION header announces behind the common header and both host
addresses. Kind: D -/
def sciPathLen (f : Frame) : ℕ := 4 * (sciLen f).toNat - (28 + 2 * 16)

/-- **`out` is `f` without its SCION encapsulation**: UDP header, SCION header with both host
addresses, and the path are removed and nothing else, and the inner IPv6 header is restored.
Kind: D -/
structure IngressComplete (f out : Frame) : Prop where
  removed : f.length = out.length + (8 + 28 + 2 * 16 + sciPathLen f)
  rest : out.drop 54 = f.drop (54 + (8 + 28 + 2 * 16 + sciPathLen f))
  saddr : ipSaddr out = peek f 106 16
  daddr : ipDaddr out = peek f 90 16
  nexthdr : ipNexthdr out = byteAt f 66
  payloadLen : peek out 18 2 = peek f 68 2

/-- A run of ingress lets its frame go untouched, lets it go decapsulated, or drops it.
Kind: D -/
def IngressWhole (e : Endian) (x : XdpHelpers) (f : Frame) : Prop :=
  (scionIngress e x f).verdict = .XDP_PASS ∧
      ((scionIngress e x f).frame = f ∨ IngressComplete f (scionIngress e x f).frame) ∨
    (scionIngress e x f).verdict = .XDP_DROP

/-- A decapsulated frame is complete exactly when the announced header covers the fixed ones.
Kind: L -/
theorem IngressLayout.complete_iff {e : Endian} {f out : Frame} (hlay : IngressLayout e f out)
    (hsz : 62 + 4 * (sciLen f).toNat ≤ f.length) :
    IngressComplete f out ↔ 60 ≤ 4 * (sciLen f).toNat := by
  have hlen := hlay.length
  constructor
  · intro hc
    have hremoved := hc.removed
    omega
  · intro hhdr
    have hpath : 8 + 28 + 2 * 16 + sciPathLen f = 8 + 4 * (sciLen f).toNat := by
      rw [sciPathLen]
      omega
    have hstart : 54 + (8 + 4 * (sciLen f).toNat) = 62 + 4 * (sciLen f).toNat := by omega
    refine ⟨?_, ?_, hlay.saddr, hlay.daddr, hlay.nexthdr, hlay.payloadLen⟩
    · rw [hpath]
      omega
    · rw [hpath, hstart, hlay.tail]

/-- **When ingress lets no half-translated frame go**: the frame is none of its business, or its
SCION header announces at least the fixed headers, or the head adjustment fails. Kind: P -/
theorem ingressWhole_iff (e : Endian) (x : XdpHelpers) (f : Frame) :
    IngressWhole e x f ↔ IngressSkips f ∨ 60 ≤ 4 * (sciLen f).toNat ∨
      x.bpfXdpAdjustHead f.length (8 + 4 * (sciLen f).toNat : ℕ) < 0 := by
  unfold IngressWhole
  by_cases hs : IngressSkips f
  · rw [scionIngress_eq, if_pos hs]
    exact ⟨fun _ => Or.inl hs, fun _ => Or.inl ⟨rfl, Or.inl rfl⟩⟩
  · have hf := length_of_not_skips hs
    rcases scionIngress_of_not_skips e x hs with ⟨hsz, hadj, hv, hlay⟩ | ⟨hbad, hv⟩
    · -- passed: the frame shrank, so it is complete or half-translated
      have hne : (scionIngress e x f).frame ≠ f := by
        intro hsame
        have hlen := hlay.length
        rw [hsame] at hlen
        omega
      constructor
      · rintro (⟨-, hsame | hc⟩ | hdrop)
        · exact absurd hsame hne
        · exact Or.inr (Or.inl ((hlay.complete_iff hsz).mp hc))
        · rw [hv] at hdrop
          cases hdrop
      · rintro (hskip | hhdr | hneg)
        · exact absurd hskip hs
        · exact Or.inl ⟨hv, Or.inr ((hlay.complete_iff hsz).mpr hhdr)⟩
        · omega
    · -- dropped: for want of room, or because the adjustment failed
      constructor
      · intro _
        rcases hbad with hshort | hneg
        · exact Or.inr (Or.inl (by omega))
        · exact Or.inr (Or.inr hneg)
      · intro _
        exact Or.inr hv

/-! ## Both programs -/

/-- **No half-translated frame leaves either program**: always on egress, and on ingress exactly
under the condition of `ingressWhole_iff`. Kind: P -/
theorem whole_iff (e : Endian) (h : TcHelpers) (x : XdpHelpers) {pathMap : PathMap} {f : Frame}
    (hc : ∀ entry, pathMap (getMapKey e (ipDaddr f)) = some entry → entry.Consistent) (g : Frame) :
    EgressWhole e h pathMap f ∧
      (IngressWhole e x g ↔ IngressSkips g ∨ 60 ≤ 4 * (sciLen g).toNat ∨
        x.bpfXdpAdjustHead g.length (8 + 4 * (sciLen g).toNat : ℕ) < 0) :=
  ⟨egressWhole_of_consistent e h hc, ingressWhole_iff e x g⟩

/-- The entries of the sample cache are consistent. Kind: L -/
theorem samplePathMap_consistent (e : Endian) {key : ScionAddr} {entry : PathMapEntry}
    (h : samplePathMap e key = some entry) : entry.Consistent := by
  unfold samplePathMap at h
  split_ifs at h
  obtain rfl : pathToMapEntry e samplePath = entry := Option.some.inj h
  exact pathToMapEntry_consistent e ⟨rfl, by decide⟩

/-- Both programs on the sample frame and what arrives for it. Kind: C -/
theorem whole_sample :
    EgressWhole .little (mtuHelpers 1500) (samplePathMap .little) sampleFrame ∧
      IngressWhole .little ⟨fun _ _ => 0⟩ sampleReceived := by
  obtain ⟨hegress, hingress⟩ :=
    @whole_iff .little (mtuHelpers 1500) ⟨fun _ _ => 0⟩ (samplePathMap .little) sampleFrame
      (fun _ h => samplePathMap_consistent .little h) sampleReceived
  refine ⟨hegress, hingress.mpr (Or.inr (Or.inl ?_))⟩
  decide +kernel

/-- The received sample frame with a header length of zero words. Kind: D -/
def zeroLenFrame : Frame := poke sampleReceived 67 [0]

/-- A frame whose SCION header announces no length is passed with the SCION header left in it.
Kind: C -/
theorem not_ingressWhole_zeroLen :
    ¬ IngressWhole .little ⟨fun _ _ => 0⟩ zeroLenFrame := by
  rw [ingressWhole_iff]
  decide +kernel

end ScionIp.Ebpf
