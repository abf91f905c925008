import ScionIp.Lib.Bits
import ScionIp.Ebpf.RoundTrip

/-!
# Traffic class and flow label on a little-endian host

The first word of the SCION header is version, traffic class and flow label. Egress sets it through
macros that convert a value *before* they shift it; ingress takes it apart without converting it.

* `bytes_writeScionhdr_little` — the four bytes egress writes for an entry whose word is zero: the
  traffic class has been shifted out of the word, the flow label is right.
* `flowLabel_of_ingress` — the flow label ingress delivers: the last two octets come out in the
  wrong order, the first one is mixed with the label of the underlay.
* `flow_kept_iff` — when each direction keeps what it should.
-/

namespace ScionIp.Ebpf

open ScionIp.Lib

/-! ## The fields of the IPv6 header -/

/-- The traffic class of the IPv6 header of a frame, from `priority` and `flow_lbl[0]`.
Kind: D -/
def trafficClass (f : Frame) : ℕ := (ipPriority f).toNat * 16 + (ipFlowLbl f 0).toNat / 16

/-- The flow label of the IPv6 header of a frame, from `flow_lbl`. Kind: D -/
def flowLabel (f : Frame) : ℕ :=
  (ipFlowLbl f 0).toNat % 16 * 2 ^ 16 + ((ipFlowLbl f 1).toNat * 2 ^ 8 + (ipFlowLbl f 2).toNat)

/-- A version, a traffic class and a flow label in one word, in network order. Kind: D -/
def verQosFlowBytes (ver qos flow : ℕ) : Bytes := toBE 4 (ver * 2 ^ 28 + qos * 2 ^ 20 + flow)

/-- The flow label of the SCION header of a frame. Kind: D -/
def sciFlowLabel (f : Frame) : ℕ := bitField (ofBE (peek f 62 4)) 0 20

/-- The upper half of the traffic class is four bits. Kind: L -/
theorem ipPriority_lt (f : Frame) : (ipPriority f).toNat < 16 := by
  rw [ipPriority, UInt8.toNat_and]
  exact Nat.lt_succ_of_le Nat.and_le_right

/-- A traffic class is an octet. Kind: L -/
theorem trafficClass_lt (f : Frame) : trafficClass f < 2 ^ 8 := by
  have h0 : (ipFlowLbl f 0).toNat < 256 := (ipFlowLbl f 0).toNat_lt
  have hp := ipPriority_lt f
  unfold trafficClass
  omega

/-! ## Egress -/

/-- The argument of `SC_SET_FLOW` is the flow label. Kind: L -/
theorem scSetFlow_arg (f : Frame) :
    (((ipFlowLbl f 0).toUInt32 &&& 0xF) <<< 16 ||| (ipFlowLbl f 1).toUInt32 <<< 8 |||
      (ipFlowLbl f 2).toUInt32 : UInt32).toNat = flowLabel f := by
  have h0 : (ipFlowLbl f 0).toNat < 256 := (ipFlowLbl f 0).toNat_lt
  have h1 : (ipFlowLbl f 1).toNat < 256 := (ipFlowLbl f 1).toNat_lt
  have h2 : (ipFlowLbl f 2).toNat < 256 := (ipFlowLbl f 2).toNat_lt
  have hnib : (ipFlowLbl f 0).toNat &&& 15 = (ipFlowLbl f 0).toNat % 16 :=
    Nat.and_two_pow_sub_one_eq_mod _ 4
  have hlow : ((ipFlowLbl f 1).toNat <<< 8) % 2 ^ 32 = (ipFlowLbl f 1).toNat <<< 8 := by
    rw [Nat.shiftLeft_eq]
    omega
  have htop : (((ipFlowLbl f 0).toNat % 16) <<< 16) % 2 ^ 32
      = ((ipFlowLbl f 0).toNat % 16) <<< 16 := by
    rw [Nat.shiftLeft_eq]
    omega
  simp only [UInt32.toNat_or, UInt32.toNat_shiftLeft, UInt32.toNat_and, UInt8.toNat_toUInt32,
    UInt32.reduceToNat, Nat.reduceMod, hnib, hlow, htop]
  rw [Nat.lor_assoc, or_shiftLeft (show (ipFlowLbl f 2).toNat < 2 ^ 8 by omega),
    or_shiftLeft (by omega), flowLabel]

/-- The argument of `SC_SET_QOS` is an octet. Kind: L -/
theorem scSetQos_arg_lt (f : Frame) :
    ((ipPriority f).toUInt32 <<< 4 ||| (ipFlowLbl f 0).toUInt32 >>> 4 : UInt32).toNat < 256 := by
  have h0 : (ipFlowLbl f 0).toNat < 256 := (ipFlowLbl f 0).toNat_lt
  have hp := ipPriority_lt f
  simp only [UInt32.toNat_or, UInt32.toNat_shiftLeft, UInt32.toNat_shiftRight, UInt8.toNat_toUInt32,
    UInt32.reduceToNat, Nat.reduceMod]
  apply Nat.or_lt_two_pow (n := 8)
  · rw [Nat.shiftLeft_eq]
    omega
  · rw [Nat.shiftRight_eq_div_pow]
    omega

/-- A converted octet sits in the top bits of the word, and the shift of `SC_SET_QOS` moves it out.
Kind: L -/
theorem bpfHtonl_octet_shiftLeft {v : UInt32} (hv : v.toNat < 256) :
    bpfHtonl .little v <<< 20 = 0 := by
  have hall : ∀ q : UInt8, bpfHtonl .little q.toUInt32 <<< 20 = 0 := by decide +kernel
  have hq : v.toUInt8.toUInt32 = v := by
    apply UInt32.toNat_inj.mp
    rw [UInt8.toNat_toUInt32, UInt32.toNat_toUInt8]
    exact Nat.mod_eq_of_lt hv
  rw [← hq]
  exact hall v.toUInt8

/-- **What egress writes into the first word**: the flow label, and no traffic class. Kind: P -/
theorem bytes_writeScionhdr_little {hdr : ScionHdr} (hdr0 : hdr.verQosFlow = 0) (f : Frame) :
    peek ((writeScionhdr .little hdr f).bytes .little) 0 4 = verQosFlowBytes 0 0 (flowLabel f) := by
  have hver : bpfHtonl .little 0 <<< 28 = 0 := by decide
  rw [ScionHdr.bytes_verQosFlow]
  simp only [writeScionhdr, SC_SET_VER, SC_SET_QOS, SC_SET_FLOW, hdr0, hver,
    bpfHtonl_octet_shiftLeft (scSetQos_arg_lt f), UInt32.zero_and, UInt32.zero_or,
    storeU32_bpfHtonl, scSetFlow_arg, verQosFlowBytes, Nat.zero_mul, Nat.zero_add]

/-- Words with the same flow label are the same four bytes exactly when their traffic classes agree.
Kind: L -/
theorem verQosFlowBytes_inj_qos {q q' : ℕ} (hq : q < 2 ^ 8) (hq' : q' < 2 ^ 8) (flow : ℕ) :
    verQosFlowBytes 0 q flow = verQosFlowBytes 0 q' flow ↔ q = q' := by
  constructor
  · intro heq
    have hnum := congrArg ofBE heq
    unfold verQosFlowBytes at hnum
    rw [ofBE_toBE, ofBE_toBE] at hnum
    omega
  · intro heq
    rw [heq]

/-! ## Ingress -/

/-- The first word of the SCION header, byte by byte. Kind: L -/
theorem peek_first_word {f : Frame} (hf : 122 ≤ f.length) :
    peek f 62 4 = [byteAt f 62, byteAt f 63, byteAt f 64, byteAt f 65] := by
  rw [show 4 = 1 + (1 + (1 + 1)) from rfl, peek_add, peek_add, peek_add, peek_one (by omega),
    peek_one (by omega), peek_one (by omega), peek_one (by omega)]
  rfl

/-- The bytes of the first word. Kind: L -/
theorem first_word_lt (f : Frame) : (byteAt f 62).toNat < 256 ∧ (byteAt f 63).toNat < 256 ∧
    (byteAt f 64).toNat < 256 ∧ (byteAt f 65).toNat < 256 :=
  ⟨(byteAt f 62).toNat_lt, (byteAt f 63).toNat_lt, (byteAt f 64).toNat_lt, (byteAt f 65).toNat_lt⟩

/-- The host's reading of the first word. Kind: L -/
theorem toNat_loadU32_little {f : Frame} (hf : 122 ≤ f.length) :
    (loadU32 .little (peek f 62 4)).toNat = (byteAt f 65).toNat * 2 ^ 24 +
      (byteAt f 64).toNat * 2 ^ 16 + (byteAt f 63).toNat * 2 ^ 8 + (byteAt f 62).toNat := by
  obtain ⟨h2, h3, h4, h5⟩ := first_word_lt f
  rw [loadU32, peek_first_word hf, load, UInt32.toNat_ofNat']
  simp only [ofBE, List.reverse_cons, List.reverse_nil, List.nil_append, List.cons_append,
    List.foldl_cons, List.foldl_nil]
  omega

/-- The flow label in the first word, byte by byte. Kind: L -/
theorem sciFlowLabel_eq {f : Frame} (hf : 122 ≤ f.length) :
    sciFlowLabel f = (byteAt f 63).toNat % 16 * 2 ^ 16 +
      ((byteAt f 64).toNat * 2 ^ 8 + (byteAt f 65).toNat) := by
  obtain ⟨-, -, h4, h5⟩ := first_word_lt f
  rw [sciFlowLabel, peek_first_word hf, bitField]
  simp only [ofBE, List.foldl_cons, List.foldl_nil]
  omega

/-- The flow label octets ingress writes: the second octet of the word ends up last, and the third
one is read where the second belongs. Kind: L -/
theorem ingressFlowLbl_little {f : Frame} (hf : 122 ≤ f.length) :
    ingressFlowLbl .little f =
      [ipFlowLbl f 0 ||| (byteAt f 64 &&& 0xF), byteAt f 63, byteAt f 62] := by
  have hw := toNat_loadU32_little hf
  obtain ⟨h2, h3, h4, -⟩ := first_word_lt f
  unfold ingressFlowLbl
  generalize loadU32 .little (peek f 62 4) = w at hw
  have hnib : ((w >>> 16) &&& 0xF).toUInt8 = byteAt f 64 &&& 0xF := by
    apply UInt8.toNat_inj.mp
    have hand : ∀ x : ℕ, x &&& 15 = x % 16 := fun x => Nat.and_two_pow_sub_one_eq_mod x 4
    simp only [UInt32.toNat_toUInt8, UInt32.toNat_and, UInt32.toNat_shiftRight, UInt8.toNat_and,
      UInt32.reduceToNat, UInt8.reduceToNat, Nat.reduceMod, Nat.shiftRight_eq_div_pow, hand]
    omega
  have hmid : (w >>> 8).toUInt8 = byteAt f 63 := by
    apply UInt8.toNat_inj.mp
    simp only [UInt32.toNat_toUInt8, UInt32.toNat_shiftRight, UInt32.reduceToNat, Nat.reduceMod,
      Nat.shiftRight_eq_div_pow]
    omega
  have hlast : w.toUInt8 = byteAt f 62 := by
    apply UInt8.toNat_inj.mp
    rw [UInt32.toNat_toUInt8]
    omega
  rw [hnib, hmid, hlast]

/-- **The flow label ingress delivers.** Kind: P -/
theorem flowLabel_of_ingress {f out : Frame} (hf : 122 ≤ f.length)
    (hlay : IngressLayout .little f out) :
    flowLabel out = (ipFlowLbl f 0 ||| (byteAt f 64 &&& 0xF)).toNat % 16 * 2 ^ 16 +
      ((byteAt f 63).toNat * 2 ^ 8 + (byteAt f 62).toNat) := by
  have hoct : ∀ i, i < 3 → ipFlowLbl out i = byteAt (ingressFlowLbl .little f) i := by
    intro i hi
    rw [ipFlowLbl, ← hlay.flowLbl, byteAt_peek hi]
  unfold flowLabel
  rw [hoct 0 (by omega), hoct 1 (by omega), hoct 2 (by omega), ingressFlowLbl_little hf]
  rfl

/-- The first word of the SCION header reads the same in both directions, and the label of the
underlay adds no bit to it. Kind: D -/
def FlowWordKept (f : Frame) : Prop :=
  byteAt f 62 = byteAt f 65 ∧ byteAt f 63 = byteAt f 64 ∧
    (ipFlowLbl f 0 ||| byteAt f 63) &&& 0xF = byteAt f 63 &&& 0xF

instance (f : Frame) : Decidable (FlowWordKept f) := inferInstanceAs (Decidable (_ ∧ _ ∧ _))

/-- When the delivered flow label is the one of the SCION header. Kind: L -/
theorem flowLabel_eq_sciFlowLabel_iff {f out : Frame} (hf : 122 ≤ f.length)
    (hlay : IngressLayout .little f out) :
    flowLabel out = sciFlowLabel f ↔ FlowWordKept f := by
  obtain ⟨h2, h3, h4, h5⟩ := first_word_lt f
  have hnib : ∀ a b : UInt8, a &&& 0xF = b &&& 0xF ↔ a.toNat % 16 = b.toNat % 16 := by
    intro a b
    rw [← UInt8.toNat_inj, UInt8.toNat_and, UInt8.toNat_and]
    exact iff_of_eq (congrArg₂ Eq (Nat.and_two_pow_sub_one_eq_mod a.toNat 4)
      (Nat.and_two_pow_sub_one_eq_mod b.toNat 4))
  have hor : ∀ a b : UInt8, (a ||| (b &&& 0xF)).toNat % 16 = (a ||| b).toNat % 16 := by
    intro a b
    have hb : (b &&& 0xF).toNat = b.toNat % 2 ^ 4 := by
      rw [UInt8.toNat_and]
      exact Nat.and_two_pow_sub_one_eq_mod b.toNat 4
    rw [UInt8.toNat_or, UInt8.toNat_or, show 16 = 2 ^ 4 from rfl, Nat.or_mod_two_pow,
      Nat.or_mod_two_pow, hb, Nat.mod_mod]
  rw [flowLabel_of_ingress hf hlay, sciFlowLabel_eq hf, FlowWordKept, ← UInt8.toNat_inj,
    ← UInt8.toNat_inj, hnib, hor]
  constructor
  · intro heq
    have h23 : (byteAt f 63).toNat = (byteAt f 64).toNat := by omega
    rw [UInt8.toNat_inj] at h23
    rw [h23] at heq ⊢
    exact ⟨by omega, rfl, by omega⟩
  · rintro ⟨h25, h34, hbits⟩
    rw [UInt8.toNat_inj] at h34
    rw [h34] at hbits ⊢
    omega

/-! ## Both directions -/

/-- **When traffic class and flow label survive the translation** on a little-endian host. Egress
writes the word of the original header exactly when its traffic class is zero; ingress delivers
the flow label of the SCION header exactly for the words of `FlowWordKept`. Kind: P -/
theorem flow_kept_iff {hdr : ScionHdr} (hdr0 : hdr.verQosFlow = 0) (f : Frame) {x : XdpHelpers}
    {g : Frame} (hs : ¬ IngressSkips g) (hpass : (scionIngress .little x g).verdict = .XDP_PASS) :
    (peek ((writeScionhdr .little hdr f).bytes .little) 0 4
        = verQosFlowBytes 0 (trafficClass f) (flowLabel f) ↔ trafficClass f = 0) ∧
      (flowLabel (scionIngress .little x g).frame = sciFlowLabel g ↔ FlowWordKept g) := by
  constructor
  · rw [bytes_writeScionhdr_little hdr0, verQosFlowBytes_inj_qos (by omega) (trafficClass_lt f)]
    exact eq_comm
  · rcases scionIngress_of_not_skips .little x hs with ⟨-, -, -, hlay⟩ | ⟨-, hdrop⟩
    · exact flowLabel_eq_sciFlowLabel_iff (length_of_not_skips hs) hlay
    · rw [hdrop] at hpass
      cases hpass

/-- The received sample frame with the given first word. Kind: D -/
def wordFrame (word : Bytes) : Frame := poke sampleReceived 62 word

/-- A word that reads the same in both directions, and the header of the sample frame. Kind: C -/
theorem flow_kept_sample :
    (peek ((writeScionhdr .little (pathToMapEntry .little samplePath).header sampleFrame).bytes
        .little) 0 4 = verQosFlowBytes 0 (trafficClass sampleFrame) (flowLabel sampleFrame) ↔
      trafficClass sampleFrame = 0) ∧
    (flowLabel (scionIngress .little ⟨fun _ _ => 0⟩ (wordFrame [1, 2, 2, 1])).frame
        = sciFlowLabel (wordFrame [1, 2, 2, 1]) ↔ FlowWordKept (wordFrame [1, 2, 2, 1])) :=
  @flow_kept_iff (pathToMapEntry .little samplePath).header rfl sampleFrame ⟨fun _ _ => 0⟩
    (wordFrame [1, 2, 2, 1]) (by decide +kernel) (by decide +kernel)

/-- The sample frame with a traffic class. Kind: D -/
def classFrame : Frame := poke sampleFrame 14 [0x6B, 0x80]

/-- Traffic class `0xB8` is lost on egress, and ingress delivers flow label `0x20100` for
`0x10203`. Kind: C -/
theorem not_flow_kept :
    trafficClass classFrame = 0xB8 ∧
      peek ((writeScionhdr .little (pathToMapEntry .little samplePath).header classFrame).bytes
        .little) 0 4 ≠ verQosFlowBytes 0 (trafficClass classFrame) (flowLabel classFrame) ∧
      ¬ IngressSkips (wordFrame [0, 1, 2, 3]) ∧
      (scionIngress .little ⟨fun _ _ => 0⟩ (wordFrame [0, 1, 2, 3])).verdict = .XDP_PASS ∧
      sciFlowLabel (wordFrame [0, 1, 2, 3]) = 0x10203 ∧
      flowLabel (scionIngress .little ⟨fun _ _ => 0⟩ (wordFrame [0, 1, 2, 3])).frame = 0x20100 := by
  decide +kernel

end ScionIp.Ebpf
