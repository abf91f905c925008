import ScionIp.Ebpf.IngressChecks
import ScionIp.Prototype.Mapping

/-!
# Whose packets does `scion_ingress` deliver?

The source of a delivered packet is the source host address of the SCION header. Whether it belongs
to the AS that the header names as source is not looked at: the prefix test of the program is
applied to the *destination* of the underlay.

* `addressIsd`, `addressAsn` — what an address says, by the documented mapping.
* `addressOf_iff` — the same, from the side of the ISD-ASN: the first five bytes an address of that
  AS must have.
* `sourceBound_iff` — for which frames the delivered source is the one of the header.
-/

namespace ScionIp.Ebpf

open ScionIp.Lib ScionIp.Prototype

/-! ## The documented mapping -/

/-- The ISD in bits 108 to 119 of an address. Kind: D -/
def addressIsd (addr : Bytes) : ℕ := bitField (ofBE addr) 108 12

/-- The ASN encoded in bits 88 to 107 of an address. Kind: D -/
def addressAsn (addr : Bytes) : ℕ := asnOfCode (bitField (ofBE addr) 88 20)

/-- The first five bytes of the addresses of an AS: the prefix, the ISD and the code of the ASN.
Kind: D -/
def asPrefix (isd asn : ℕ) : Bytes := toBE 5 (0xfc * 2 ^ 32 + isd * 2 ^ 20 + asnCode asn)

/-- The prefix test looks at the topmost octet. Kind: L -/
theorem scionPrefixMatch_iff {addr : Bytes} (h : addr.length = 16) :
    scionPrefixMatch addr = true ↔ ofBE (peek addr 0 5) / 2 ^ 32 = 0xfc := by
  have h0 : peek addr 0 1 = [byteAt addr 0] := peek_one (by omega)
  have h4 : (peek addr 1 4).length = 4 := length_peek (by omega)
  have hlow : ofBE (peek addr 1 4) < 256 ^ 4 := by simpa [h4] using ofBE_lt (peek addr 1 4)
  have hsplit : ofBE (peek addr 0 5) = (byteAt addr 0).toNat * 256 ^ 4 + ofBE (peek addr 1 4) := by
    have hone : ofBE [byteAt addr 0] = (byteAt addr 0).toNat := by
      simpa using ofBE_concat [] (byteAt addr 0)
    rw [show 5 = 1 + 4 from rfl, peek_add, ofBE_append, h0, h4, hone]
  rw [scionPrefixMatch, beq_iff_eq, ← UInt8.toNat_inj, hsplit]
  simp only [UInt8.reduceToNat]
  omega

/-- **The addresses of an AS**: those whose first five bytes are its prefix, if the mapping has room
for the AS at all. Kind: P -/
theorem addressOf_iff {addr : Bytes} (h : addr.length = 16) (isd asn : ℕ) :
    (scionPrefixMatch addr = true ∧ addressIsd addr = isd ∧ addressAsn addr = asn) ↔
      Encodable isd asn ∧ peek addr 0 5 = asPrefix isd asn := by
  have hfield : ofBE (peek addr 0 5) = ofBE addr / 2 ^ 88 % 2 ^ 40 := ofBE_peek addr 0 5 11 h
  have hlt : ofBE addr < 2 ^ 128 := by simpa [h] using ofBE_lt addr
  have hlen : (peek addr 0 5).length = 5 := length_peek (by omega)
  have hbytes : peek addr 0 5 = asPrefix isd asn ↔
      ofBE (peek addr 0 5) = (0xfc * 2 ^ 32 + isd * 2 ^ 20 + asnCode asn) % 2 ^ 40 :=
    eq_toBE_iff hlen _
  have hcode := asnCode_lt asn
  have hcode' := bitField_lt (ofBE addr) 88 20
  have hisd' := bitField_lt (ofBE addr) 108 12
  rw [scionPrefixMatch_iff h, hbytes, hfield, addressIsd, addressAsn]
  constructor
  · rintro ⟨hmatch, rfl, rfl⟩
    obtain ⟨henc, hback⟩ := asnCode_asnOfCode hisd' hcode'
    refine ⟨henc, ?_⟩
    rw [hback]
    unfold bitField
    omega
  · rintro ⟨henc, heq⟩
    have hisd := henc.1
    have hcodes : bitField (ofBE addr) 88 20 = asnCode asn := by
      unfold bitField
      omega
    rw [hcodes, asnOfCode_asnCode henc]
    refine ⟨by omega, ?_, rfl⟩
    unfold bitField
    omega

/-! ## The delivered source -/

/-- `SrcISD` of the SCION header. Kind: D -/
def sciSrcIsd (f : Frame) : ℕ := ofBE (peek f 82 2)

/-- `SrcAS` of the SCION header. Kind: D -/
def sciSrcAs (f : Frame) : ℕ := ofBE (peek f 84 6)

/-- **A packet that is delivered comes from the AS the SCION header names.** Kind: D -/
def SourceBound (e : Endian) (x : XdpHelpers) (f : Frame) : Prop :=
  (scionIngress e x f).verdict = .XDP_PASS → (scionIngress e x f).frame ≠ f →
    scionPrefixMatch (ipSaddr (scionIngress e x f).frame) = true ∧
      addressIsd (ipSaddr (scionIngress e x f).frame) = sciSrcIsd f ∧
      addressAsn (ipSaddr (scionIngress e x f).frame) = sciSrcAs f

/-- The source host address of the SCION header starts like the addresses of the source AS.
Kind: D -/
def ClaimsOwnAs (f : Frame) : Prop :=
  Encodable (sciSrcIsd f) (sciSrcAs f) ∧ peek f 106 5 = asPrefix (sciSrcIsd f) (sciSrcAs f)

/-- What a decapsulated frame must bring along. Kind: L -/
theorem Decapsulates.sourceBound_iff_claims {x : XdpHelpers} {f : Frame} (hd : Decapsulates x f)
    (e : Endian) : SourceBound e x f ↔ ClaimsOwnAs f := by
  have hf := length_of_not_skips hd.notSkipped
  obtain ⟨hv, hne, hlay⟩ := hd.run e
  have hlen : (ipSaddr (scionIngress e x f).frame).length = 16 := by
    rw [hlay.saddr, length_peek (by omega)]
  have hbound : SourceBound e x f ↔ _ := ⟨fun h => h hv hne, fun h _ _ => h⟩
  rw [hbound, addressOf_iff hlen, hlay.saddr, peek_peek _ (by omega)]
  exact Iff.rfl

/-- **When the delivered source is the one of the header**: the frame is not decapsulated, or its
source host address starts with the prefix, ISD and code of its source AS. Kind: P -/
theorem sourceBound_iff (e : Endian) (x : XdpHelpers) (f : Frame) :
    SourceBound e x f ↔ ¬ Decapsulates x f ∨ ClaimsOwnAs f := by
  by_cases hd : Decapsulates x f
  · rw [hd.sourceBound_iff_claims e]
    exact ⟨Or.inr, fun h => h.resolve_left (not_not.mpr hd)⟩
  · refine iff_of_true ?_ (Or.inl hd)
    intro hv hne
    rcases run_of_not_decapsulates hd e with heq | hdrop
    · rw [heq] at hne
      exact absurd rfl hne
    · rw [hdrop] at hv
      cases hv

/-- **A delivered source need not be the one of the header**: from `fd00:10fc::1`, which is no SCION
address, and from `1-64512` under the address of a host there when the header names `1-64514`.
Kind: C -/
theorem not_sourceBound :
    ¬ SourceBound .little ⟨fun _ _ => 0⟩ (faultyFrame 106 [0xFD]) ∧
      ¬ SourceBound .little ⟨fun _ _ => 0⟩ (faultyFrame 84 [0, 0, 0, 0, 0xFC, 2]) := by
  have hsample : Decapsulates ⟨fun _ _ => 0⟩ sampleReceived :=
    ⟨by decide +kernel, by decide +kernel, le_refl _⟩
  constructor
  · have hd : Decapsulates ⟨fun _ _ => 0⟩ (faultyFrame 106 [0xFD]) :=
      hsample.poke (Or.inr (by decide))
    rw [hd.sourceBound_iff_claims]
    intro hown
    exact absurd hown.2 (by decide +kernel)
  · have hd : Decapsulates ⟨fun _ _ => 0⟩ (faultyFrame 84 [0, 0, 0, 0, 0xFC, 2]) :=
      hsample.poke (Or.inr (by decide))
    rw [hd.sourceBound_iff_claims]
    intro hown
    exact absurd hown.2 (by decide +kernel)

end ScionIp.Ebpf
