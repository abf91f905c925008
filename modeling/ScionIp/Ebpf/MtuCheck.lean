import ScionIp.Ebpf.RoundTrip

/-!
# The MTU check of `scion_egress`

`bpf_check_mtu` is called with the *negated* size of the new headers as length difference
(`neg_newHdrsSize_toInt`), so it asks whether the frame would fit the device after shrinking by
that much. For a frame that fits as it is the check can therefore never fail
(`checkMtu_passes`), and the emitted packet fits exactly when the grown frame does
(`egress_fits_mtu_iff`).
-/

namespace ScionIp.Ebpf

open ScionIp.Lib

/-- The documented behaviour of `bpf_check_mtu` on a device with the given MTU: zero exactly when
the frame, changed by the signed length difference, fits. Kind: D -/
def ChecksMtu (h : TcHelpers) (mtu : ℕ) : Prop :=
  ∀ (n : ℕ) (lenDiff : ℤ), h.bpfCheckMtu n lenDiff = 0 ↔ (n : ℤ) + lenDiff ≤ mtu + 14

/-- For a frame that fits the device as it is, the check passes whatever the entry is. Kind: L -/
theorem checkMtu_passes {h : TcHelpers} {mtu : ℕ} (hchk : ChecksMtu h mtu) {f : Frame}
    (hf : f.length ≤ mtu + 14) (path : PathMapEntry) :
    h.bpfCheckMtu f.length (-(8 + 4 * (path.header.len.toNat : ℤ))) = 0 := by
  rw [hchk]
  omega

/-- **When a translated packet fits the device.** For a frame of at most `mtu + 14` bytes: whatever
`scion_egress` emits after rewriting is an IPv6 packet of at most `mtu` bytes if and only if the
frame *together with the new headers* fits, for the entry the frame is translated with. Kind: P -/
theorem egress_fits_mtu_iff {e : Endian} {h : TcHelpers} {mtu : ℕ} (hchk : ChecksMtu h mtu)
    (pathMap : PathMap) {f : Frame} (hf : f.length ≤ mtu + 14) :
    (Rewrites f (scionEgress e h pathMap f) →
        (scionEgress e h pathMap f).frame.length - 14 ≤ mtu) ↔
      ∀ path, ¬ EgressForwards e f → pathMap (getMapKey e (ipDaddr f)) = some path →
        0 ≤ h.bpfSkbAdjustRoom f.length (8 + 4 * (path.header.len.toNat : ℤ)) →
        122 ≤ f.length + (8 + 4 * path.header.len.toNat) →
        f.length + (8 + 4 * path.header.len.toNat) ≤ mtu + 14 := by
  constructor
  · intro hfits path hfwd hit hroom hsize
    have ht : EgressTranslates e h pathMap f path :=
      ⟨hfwd, hit, checkMtu_passes hchk hf path, hroom, hsize⟩
    have hlen : (scionEgress e h pathMap f).frame.length
        = f.length + (8 + 4 * path.header.len.toNat) := by
      rw [ht.rewrites, length_egressOutput]
    have hne : (scionEgress e h pathMap f).frame ≠ f := by
      intro heq
      rw [heq] at hlen
      omega
    have := hfits ⟨by rw [ht.rewrites], hne⟩
    omega
  · intro hbound hrw
    obtain ⟨path, ht, heq⟩ := scionEgress_rewrites hrw
    have := hbound path ht.notForwarded ht.hit ht.room ht.size
    rw [heq, length_egressOutput]
    omega

/-! ## A datagram that still fits and one that no longer does -/

/-- The helpers of the sample device check its MTU. Kind: L -/
theorem mtuHelpers_checksMtu (mtu : ℕ) : ChecksMtu (mtuHelpers mtu) mtu := by
  intro n lenDiff
  simp [mtuHelpers]

/-- The sample datagram fits an MTU of 1500 after translation. Kind: C -/
theorem egress_fits_mtu_sample :
    (scionEgress .little (mtuHelpers 1500) (samplePathMap .little) sampleFrame).frame.length - 14
      ≤ 1500 := by
  refine (egress_fits_mtu_iff (mtuHelpers_checksMtu 1500) (samplePathMap .little)
    (by decide)).mpr ?_ ⟨by decide +kernel, by decide +kernel⟩
  intro path _ hit _ _
  have hpath : pathToMapEntry .little samplePath = path := by
    simpa [samplePathMap, show getMapKey .little (ipDaddr sampleFrame) = 0x0010FC01 by
      decide +kernel] using hit
  subst hpath
  decide +kernel

/-- **A translated frame need not fit the device.** A datagram that fills an MTU of 1500 leaves
`scion_egress` 76 bytes larger, with `TC_ACT_OK`. Kind: C -/
theorem egress_not_fits_mtu :
    ¬ ∀ (e : Endian) (h : TcHelpers) (mtu : ℕ), ChecksMtu h mtu →
      ∀ (pathMap : PathMap) (f : Frame), f.length ≤ mtu + 14 →
        Rewrites f (scionEgress e h pathMap f) →
          (scionEgress e h pathMap f).frame.length - 14 ≤ mtu := by
  intro hall
  have hlen : (udpDatagram sampleDaddr (List.replicate 1452 0)).length = 1514 := by decide +kernel
  have ht : EgressTranslates .little (mtuHelpers 1500) (samplePathMap .little)
      (udpDatagram sampleDaddr (List.replicate 1452 0)) (pathToMapEntry .little samplePath) :=
    { notForwarded := by decide +kernel
      hit := by decide +kernel
      mtu := checkMtu_passes (mtuHelpers_checksMtu 1500) (by rw [hlen]) _
      room := le_refl _
      size := by rw [hlen]; omega }
  have hout : (scionEgress .little (mtuHelpers 1500) (samplePathMap .little)
      (udpDatagram sampleDaddr (List.replicate 1452 0))).frame.length = 1590 := by
    rw [ht.rewrites, length_egressOutput, hlen]
    decide +kernel
  have hfits := hall .little (mtuHelpers 1500) 1500 (mtuHelpers_checksMtu 1500)
    (samplePathMap .little) (udpDatagram sampleDaddr (List.replicate 1452 0)) (by rw [hlen])
    ⟨by rw [ht.rewrites], fun heq => by rw [heq, hlen] at hout; cases hout⟩
  rw [hout] at hfits
  omega

end ScionIp.Ebpf
