import ScionIp.Prototype.Translate

/-!
# Which received packets stop the translator

`run_translation` catches nothing, so an exception of `translate_ingress` ends it. The function
calls `map_ipv4` with the ISD and ASN of the received header, which `map_ipv4` accepts only inside
two ranges; and it reads the fields of an SCMP echo message without asking whether there is one.

`translateIngress_ok_iff` says exactly when neither happens. The destination is always looked at,
the source only in a packet for this host, the payload only when the source was accepted.
-/

namespace ScionIp.Prototype

open ScionIp.Lib ScionIp.Python

/-- What `scapy` makes of the host addresses of a received packet: the text of an address of the
family that type and length announce. Kind: D -/
structure SCION.Dissected (pkt : SCION) : Prop where
  dst4 : pkt.DT = 0 → pkt.DL = 4 → ∃ ip, IPv4Address.parse pkt.DstHostAddr = .ok ip
  dst16 : pkt.DT = 0 → pkt.DL = 16 → ∃ ip, IPv6Address.parse pkt.DstHostAddr = .ok ip
  src4 : pkt.ST = 0 → pkt.SL = 4 → ∃ ip, IPv4Address.parse pkt.SrcHostAddr = .ok ip
  src16 : pkt.ST = 0 → pkt.SL = 16 → ∃ ip, IPv6Address.parse pkt.SrcHostAddr = .ok ip

/-! ## The conditions -/

/-- A four-byte host in an AS that the address layout has no room for. Kind: D -/
def Unmappable (type length isd asn : ℕ) : Prop := type = 0 ∧ length = 4 ∧ ¬ Encodable isd asn

/-- The host is the one with the given address. Kind: D -/
def NamesHost (type length isd asn : ℕ) (text : Text) (ip : IPv6Address) : Prop :=
  type = 0 ∧
    ((length = 4 ∧ ∃ host, ∃ h : Encodable isd asn,
        IPv4Address.parse text = .ok host ∧ mapped h host = ip) ∨
      (length = 16 ∧ IPv6Address.parse text = .ok ip))

/-- The source is a host the translator accepts packets from: one of sixteen bytes has to be in
`fc00::/8`. Kind: D -/
def SCION.SourceAccepted (pkt : SCION) : Prop :=
  ∃ ip, NamesHost pkt.ST pkt.SL pkt.SrcISD pkt.SrcAS pkt.SrcHostAddr ip ∧
    (pkt.SL = 16 → SCION_NETWORK ip = true)

/-- The packet is translated or dropped. Kind: D -/
structure SCION.Harmless (pkt : SCION) (tunIp : IPv6Address) : Prop where
  dst : ¬ Unmappable pkt.DT pkt.DL pkt.DstISD pkt.DstAS
  src : NamesHost pkt.DT pkt.DL pkt.DstISD pkt.DstAS pkt.DstHostAddr tunIp →
    ¬ Unmappable pkt.ST pkt.SL pkt.SrcISD pkt.SrcAS
  payload : NamesHost pkt.DT pkt.DL pkt.DstISD pkt.DstAS pkt.DstHostAddr tunIp →
    pkt.SourceAccepted → ¬ pkt.payload.BrokenEcho

/-! ## The steps of the function -/

section hostAddr

variable {type length isd asn : ℕ} {text : Text}

/-- A host that cannot be mapped raises. Kind: L -/
theorem hostAddr_of_unmappable
    (h4 : type = 0 → length = 4 → ∃ ip, IPv4Address.parse text = .ok ip)
    (h : Unmappable type length isd asn) :
    ∃ message, hostAddr type length isd asn text = .error (.InvalidArgument message) := by
  obtain ⟨htype, hlength, henc⟩ := h
  obtain ⟨host, hhost⟩ := h4 htype hlength
  obtain ⟨message, herr⟩ := mapIpv4_of_not_encodable henc host
  refine ⟨message, ?_⟩
  rw [hostAddr, if_pos htype, if_pos hlength, hhost, ok_bind, herr, error_bind]

/-- Any other host gives the address it names, or nothing. Kind: L -/
theorem hostAddr_of_not_unmappable
    (h4 : type = 0 → length = 4 → ∃ ip, IPv4Address.parse text = .ok ip)
    (h16 : type = 0 → length = 16 → ∃ ip, IPv6Address.parse text = .ok ip)
    (h : ¬ Unmappable type length isd asn) :
    ∃ r, hostAddr type length isd asn text = .ok r ∧
      ∀ ip, NamesHost type length isd asn text ip ↔ r = some ip := by
  by_cases htype : type = 0
  · subst htype
    by_cases hfour : length = 4
    · subst hfour
      have henc : Encodable isd asn := by
        by_contra hno
        exact h ⟨rfl, rfl, hno⟩
      obtain ⟨host, hhost⟩ := h4 rfl rfl
      refine ⟨some (mapped henc host), hostAddr_four hhost (mapIpv4_of_encodable henc host),
        fun ip => ⟨?_, fun heq => ?_⟩⟩
      · rintro ⟨-, ⟨-, host', -, hhost', rfl⟩ | ⟨hsixteen, -⟩⟩
        · rw [hhost] at hhost'
          obtain rfl := Except.ok.inj hhost'
          rfl
        · cases hsixteen
      · exact ⟨rfl, Or.inl ⟨rfl, host, henc, hhost, Option.some.inj heq⟩⟩
    · by_cases hsixteen : length = 16
      · subst hsixteen
        obtain ⟨addr, haddr⟩ := h16 rfl rfl
        refine ⟨some addr, hostAddr_sixteen isd asn haddr, fun ip => ⟨?_, fun heq => ?_⟩⟩
        · rintro ⟨-, ⟨hlength, -⟩ | ⟨-, hip⟩⟩
          · exact absurd hlength hfour
          · rw [haddr] at hip
            rw [Except.ok.inj hip]
        · rw [Option.some.inj heq] at haddr
          exact ⟨rfl, Or.inr ⟨rfl, haddr⟩⟩
      · refine ⟨none, ?_, fun ip => iff_of_false ?_ (by simp)⟩
        · rw [hostAddr, if_pos rfl, if_neg hfour, if_neg hsixteen]
        · rintro ⟨-, ⟨hlength, -⟩ | ⟨hlength, -⟩⟩
          · exact hfour hlength
          · exact hsixteen hlength
  · refine ⟨none, if_neg htype, fun ip => iff_of_false ?_ (by simp)⟩
    rintro ⟨hzero, -⟩
    exact htype hzero

end hostAddr

/-- A source that can be mapped raises nothing; it gives an address exactly if it is accepted.
Kind: L -/
theorem srcAddr_of_not_unmappable {pkt : SCION} (hpkt : pkt.Dissected)
    (h : ¬ Unmappable pkt.ST pkt.SL pkt.SrcISD pkt.SrcAS) :
    (∃ src, srcAddr pkt = .ok (some src) ∧ pkt.SourceAccepted) ∨
      (srcAddr pkt = .ok none ∧ ¬ pkt.SourceAccepted) := by
  obtain ⟨r, hr, hnames⟩ := hostAddr_of_not_unmappable hpkt.src4 hpkt.src16 h
  cases r with
  | none =>
      right
      refine ⟨by rw [srcAddr, hr]; rfl, ?_⟩
      rintro ⟨ip, hname, -⟩
      cases (hnames ip).mp hname
  | some src =>
      by_cases hbad : pkt.SL = 16 ∧ ¬ SCION_NETWORK src = true
      · right
        refine ⟨by rw [srcAddr, hr, ok_bind]; exact if_pos hbad, ?_⟩
        rintro ⟨ip, hname, hnet⟩
        obtain rfl := Option.some.inj ((hnames ip).mp hname)
        exact hbad.2 (hnet hbad.1)
      · left
        refine ⟨src, by rw [srcAddr, hr, ok_bind]; exact if_neg hbad, src, (hnames src).mpr rfl, ?_⟩
        intro hsixteen
        by_contra hnet
        exact hbad ⟨hsixteen, hnet⟩

/-- A payload raises exactly if it is a broken echo. Kind: L -/
theorem ingressL4_ok_iff (l4 : L4) : (∃ r, ingressL4 l4 = .ok r) ↔ ¬ l4.BrokenEcho := by
  cases l4 with
  | scmp type message => exact scmpToIcmp_ok_iff type message
  | tcp seg => exact iff_of_true ⟨_, rfl⟩ (by rintro ⟨type, -, heq⟩; cases heq)
  | udp seg => exact iff_of_true ⟨_, rfl⟩ (by rintro ⟨type, -, heq⟩; cases heq)
  | icmpv6EchoRequest msg => exact iff_of_true ⟨_, rfl⟩ (by rintro ⟨type, -, heq⟩; cases heq)
  | icmpv6EchoReply msg => exact iff_of_true ⟨_, rfl⟩ (by rintro ⟨type, -, heq⟩; cases heq)
  | icmpv6 type => exact iff_of_true ⟨_, rfl⟩ (by rintro ⟨type, -, heq⟩; cases heq)
  | raw => exact iff_of_true ⟨_, rfl⟩ (by rintro ⟨type, -, heq⟩; cases heq)

/-! ## The whole function -/

/-- Once the source is accepted, only the payload can raise. Kind: L -/
theorem translateIngress_of_accepted {pkt : SCION} {tunIp src : IPv6Address}
    (hdst : hostAddr pkt.DT pkt.DL pkt.DstISD pkt.DstAS pkt.DstHostAddr = .ok (some tunIp))
    (hsrc : srcAddr pkt = .ok (some src)) :
    (∃ r, translateIngress (.scion pkt) tunIp = .ok r) ↔ ∃ r, ingressL4 pkt.payload = .ok r := by
  simp only [translateIngress, hdst, ok_bind, ne_eq, not_true_eq_false, if_false, hsrc]
  constructor
  · rintro ⟨out, hout⟩
    cases hl4 : ingressL4 pkt.payload with
    | ok l4 => exact ⟨l4, rfl⟩
    | error exc =>
        rw [hl4] at hout
        cases hout
  · rintro ⟨l4, hl4⟩
    rw [hl4]
    cases l4 with
    | none => exact ⟨_, rfl⟩
    | some l4 => exact ⟨_, rfl⟩

/-- **When a received packet does not stop the translator.** `translate_ingress` returns a packet or
`None`, and raises nothing, if and only if: the destination is no four-byte host in an AS outside
the two ranges; and in a packet for this host the source is no such host either, and, if the
source is accepted, an SCMP echo is a complete one. Kind: P -/
theorem translateIngress_ok_iff {pkt : SCION} (hpkt : pkt.Dissected) (tunIp : IPv6Address) :
    (∃ r, translateIngress (.scion pkt) tunIp = .ok r) ↔ pkt.Harmless tunIp := by
  by_cases hdst : Unmappable pkt.DT pkt.DL pkt.DstISD pkt.DstAS
  · obtain ⟨message, herr⟩ := hostAddr_of_unmappable hpkt.dst4 hdst
    refine iff_of_false ?_ (fun h => h.dst hdst)
    rintro ⟨r, hr⟩
    rw [translateIngress, herr] at hr
    cases hr
  obtain ⟨r, hr, hnames⟩ := hostAddr_of_not_unmappable hpkt.dst4 hpkt.dst16 hdst
  by_cases hself : r = some tunIp
  · subst hself
    have hname := (hnames tunIp).mpr rfl
    by_cases hsrc : Unmappable pkt.ST pkt.SL pkt.SrcISD pkt.SrcAS
    · obtain ⟨message, herr⟩ := hostAddr_of_unmappable hpkt.src4 hsrc
      refine iff_of_false ?_ (fun h => h.src hname hsrc)
      rintro ⟨out, hout⟩
      simp only [translateIngress, hr, ok_bind, ne_eq, not_true_eq_false, if_false, srcAddr, herr,
        error_bind] at hout
      cases hout
    · rcases srcAddr_of_not_unmappable hpkt hsrc with ⟨src, hok, haccepted⟩ | ⟨hok, hrefused⟩
      · have hharmless : pkt.Harmless tunIp ↔ ¬ pkt.payload.BrokenEcho :=
          ⟨fun h => h.payload hname haccepted,
            fun h => ⟨hdst, fun _ => hsrc, fun _ _ => h⟩⟩
        rw [hharmless, ← ingressL4_ok_iff, translateIngress_of_accepted hr hok]
      · refine iff_of_true ⟨none, ?_⟩ ⟨hdst, fun _ => hsrc, fun _ h => absurd h hrefused⟩
        simp only [translateIngress, hr, ok_bind, ne_eq, not_true_eq_false, if_false, hok]
        rfl
  · have hother : ¬ NamesHost pkt.DT pkt.DL pkt.DstISD pkt.DstAS pkt.DstHostAddr tunIp :=
      fun h => hself ((hnames tunIp).mp h)
    refine iff_of_true ⟨none, ?_⟩
      ⟨hdst, fun h => absurd h hother, fun h => absurd h hother⟩
    rw [translateIngress, hr, ok_bind]
    cases r with
    | none => rfl
    | some dst => exact if_pos (fun heq => hself (by rw [heq]))

/-! ## A packet that is delivered and one that stops the translator -/

/-- A datagram in a SCION packet from `10.0.0.2` in `1-64513` to `10.0.0.1` in the given ISD and AS
64512. Kind: D -/
def sampleScion (dstIsd : ℕ) : SCION :=
  { DT := 0, DL := 4, ST := 0, SL := 4, DstISD := dstIsd, DstAS := 64512, SrcISD := 1,
    SrcAS := 64513, DstHostAddr := "10.0.0.1".toList, SrcHostAddr := "10.0.0.2".toList,
    Path := .empty, payload := .udp ⟨none, [0x03, 0xE8, 0x07, 0xD0]⟩ }

/-- Its host addresses are what `scapy` makes of four bytes each. Kind: L -/
theorem sampleScion_dissected (dstIsd : ℕ) : (sampleScion dstIsd).Dissected where
  dst4 _ _ := ⟨⟨0x0a000001, by norm_num⟩,
    show IPv4Address.parse "10.0.0.1".toList = _ from by decide +kernel⟩
  dst16 _ h := by cases h
  src4 _ _ := ⟨⟨0x0a000002, by norm_num⟩,
    show IPv4Address.parse "10.0.0.2".toList = _ from by decide +kernel⟩
  src16 _ h := by cases h

/-- In ISD 1 nothing is raised. Kind: C -/
theorem translateIngress_ok_sample :
    ∃ r, translateIngress (.scion (sampleScion 1))
      ⟨0xfc0010fc000000000000ffff0a000001, by norm_num⟩ = .ok r := by
  refine (translateIngress_ok_iff (sampleScion_dissected 1) _).mpr ⟨?_, ?_, ?_⟩
  · rintro ⟨-, -, h⟩
    exact h (by decide)
  · rintro - ⟨-, -, h⟩
    exact h (by decide)
  · rintro - - ⟨type, -, heq⟩
    cases heq

/-- **A received packet can stop the translator**: a destination in ISD 4096. Kind: C -/
theorem translateIngress_raises :
    ¬ ∀ (pkt : SCION) (tunIp : IPv6Address), pkt.Dissected →
      ∃ r, translateIngress (.scion pkt) tunIp = .ok r := by
  intro hall
  obtain ⟨r, hr⟩ := hall (sampleScion 4096) ⟨0xfc0010fc000000000000ffff0a000001, by norm_num⟩
    (sampleScion_dissected 4096)
  have herr : translateIngress (.scion (sampleScion 4096))
      ⟨0xfc0010fc000000000000ffff0a000001, by norm_num⟩
      = .error (.InvalidArgument "ISD cannot be encoded") := by decide +kernel
  rw [herr] at hr
  cases hr

end ScionIp.Prototype
