import ScionIp.Scion2Ip.Convert
import ScionIp.Scion2Ip.HexValue

/-!
# The addresses `s2ip` returns

`s2ip` first reads its texts and then puts the numbers together. Reading is `S2ipArgs.read`, and
what it can raise is only `InvalidArgument` (`S2ipArgs.read_raises`); the address arithmetic is
`joinIp`, whose fields do not overlap when every number fits its field (`joinIp_eq`).

* `S2ipArgs.CarriedBy` — the address that the four texts ask for, by the layout of the README.
* `S2ipArgs.right_iff` — `s2ip` raises `InvalidArgument` or returns that address, unless texts it
  accepts hold an ISD of more than twelve bits or hexadecimal groups that overlap.
-/

namespace ScionIp.Scion2Ip

open ScionIp.Lib ScionIp.Python ScionIp.Prototype

/-! ## Reading the texts -/

/-- The arguments of `s2ip`. Kind: D -/
structure S2ipArgs where
  isdAsn : Text
  localPrefix : Text
  subnet : Text
  interface : Text
  subnetBits : ℕ
  deriving DecidableEq

/-- The values `s2ip` reads off its arguments. Kind: D -/
structure S2ipValues where
  isd : ℤ
  asn : ASN
  localPrefix : ℕ
  subnet : ℕ
  interface : Interface
  encoded : ℕ
  deriving DecidableEq

namespace S2ipArgs

variable (a : S2ipArgs)

/-- The call. Kind: D -/
def run : Py Text := s2ip a.isdAsn a.localPrefix a.subnet a.interface a.subnetBits

/-- The statements of `s2ip` in front of the address arithmetic. Source: `scion2ip`, `s2ip`.
Kind: D -/
def read : Py S2ipValues :=
  match a.isdAsn.splitOn '-' with
  | [isd, asn] => do
      let isd ← tryValue "isd-asn" (pyInt 10 isd)
      let asn ← tryValue "isd-asn" (ASN.ofText asn)
      let localPrefix ← tryValue "local prefix" (parseHex a.localPrefix (24 - a.subnetBits))
      let subnet ← tryValue "subnet" (parseHex a.subnet a.subnetBits)
      let interface ← parseInterface localPrefix subnet a.interface
      let encoded ← encodedAsn asn.asnInt
      return ⟨isd, asn, localPrefix, subnet, interface, encoded⟩
  | _ => .error (.InvalidArgument "error: invalid isd-asn")

/-- Reading, then the address arithmetic. Kind: L -/
theorem run_eq :
    a.run = a.read >>= fun v => do
      let addr ← IPv6Address.ofInt
        (joinIp v.isd.toNat v.encoded v.localPrefix v.subnet v.interface a.subnetBits)
      return addr.str := by
  unfold run s2ip read
  rcases a.isdAsn.splitOn '-' with _ | ⟨isd, _ | ⟨asn, _ | ⟨third, rest⟩⟩⟩
  · rfl
  · rfl
  · simp only [bind_assoc, pure_bind]
  · rfl

end S2ipArgs

/-! ### What reading raises -/

/-- Is the exception an `InvalidArgument`? Kind: D -/
def isInvalidArgument : PyExc → Bool
  | .InvalidArgument _ => true
  | .InvalidArgumentFrom _ _ => true
  | _ => false

/-- An integer too large for an address raises none. Kind: L -/
theorem isInvalidArgument_notPermitted (n : ℕ) : isInvalidArgument (notPermitted n) = false := by
  unfold notPermitted
  split_ifs <;> rfl

/-- The computation raises `InvalidArgument` only. Kind: D -/
abbrev OnlyInvalidArgument {α : Type} (x : Py α) : Prop :=
  RaisesOnly (fun exc => isInvalidArgument exc = true) x

/-- `try` with `except ValueError` around a computation that raises nothing else. Kind: L -/
theorem tryValue_raises {α : Type} (message : String) {x : Py α} (hx : OnlyValueError x) :
    OnlyInvalidArgument (tryValue message x) := by
  unfold tryValue
  cases x with
  | ok a => exact RaisesOnly.ok a
  | error exc =>
      have hvalue := hx exc rfl
      simp only [hvalue, if_true]
      exact RaisesOnly.error rfl

/-- Reading the interface raises `InvalidArgument`. Kind: L -/
theorem parseInterface_raises (localPrefix subnet : ℕ) (interface : Text) :
    OnlyInvalidArgument (parseInterface localPrefix subnet interface) := by
  unfold parseInterface
  cases hv4 : IPv4Address.parse interface with
  | ok v4 =>
      simp only
      split_ifs
      · exact RaisesOnly.error rfl
      · exact RaisesOnly.ok _
  | error exc =>
      have hvalue := IPv4Address.parse_raises interface exc hv4
      simp only [hvalue, if_true]
      apply RaisesOnly.bind (tryValue_raises "interface" (parseHex_raises interface 64))
      intro id _
      exact RaisesOnly.ok _

/-- Encoding the ASN raises `InvalidArgument`. Kind: L -/
theorem encodedAsn_raises (asn : ℕ) : OnlyInvalidArgument (encodedAsn asn) := by
  unfold encodedAsn
  split_ifs
  · exact RaisesOnly.ok _
  · exact RaisesOnly.ok _
  · exact RaisesOnly.error rfl

/-- **Reading raises `InvalidArgument` and nothing else.** Kind: P -/
theorem S2ipArgs.read_raises (a : S2ipArgs) : OnlyInvalidArgument a.read := by
  unfold S2ipArgs.read
  split
  · apply RaisesOnly.bind (tryValue_raises _ (pyInt_raises 10 _))
    intro isd _
    apply RaisesOnly.bind (tryValue_raises _ (ASN.ofText_raises _))
    intro asn _
    apply RaisesOnly.bind (tryValue_raises _ (parseHex_raises _ _))
    intro localPrefix _
    apply RaisesOnly.bind (tryValue_raises _ (parseHex_raises _ _))
    intro subnet _
    apply RaisesOnly.bind (parseInterface_raises _ _ _)
    intro interface _
    apply RaisesOnly.bind (encodedAsn_raises _)
    intro encoded _
    exact RaisesOnly.ok _
  · exact RaisesOnly.error rfl

/-! ### What reading returns -/

/-- `try` around a computation changes no result. Kind: L -/
theorem tryValue_eq_ok_iff {α : Type} {message : String} {x : Py α} {v : α} :
    tryValue message x = .ok v ↔ x = .ok v := by
  unfold tryValue
  cases x with
  | ok v' => rfl
  | error exc =>
      simp only
      split_ifs
      · exact iff_of_false (fun h => by cases h) (fun h => by cases h)
      · rfl

/-- An interface that is read is a dotted quad below a zero prefix and subnet, or a number in
groups. Kind: L -/
theorem parseInterface_eq_ok {localPrefix subnet : ℕ} {text : Text} {interface : Interface}
    (h : parseInterface localPrefix subnet text = .ok interface) :
    (∃ v4, IPv4Address.parse text = .ok v4 ∧ localPrefix = 0 ∧ subnet = 0 ∧
        interface = .ipv4 v4) ∨
      ∃ exc id, IPv4Address.parse text = .error exc ∧ parseHex text 64 = .ok id ∧
        interface = .iid id := by
  unfold parseInterface at h
  cases hv4 : IPv4Address.parse text with
  | ok v4 =>
      simp only [hv4] at h
      split_ifs at h with hzero
      rw [not_or, not_not, not_not] at hzero
      exact Or.inl ⟨v4, rfl, hzero.1, hzero.2, (Except.ok.inj h).symm⟩
  | error exc =>
      simp only [hv4, IPv4Address.parse_raises text exc hv4, if_true] at h
      obtain ⟨id, hid, h⟩ := bind_eq_ok_iff.mp h
      exact Or.inr ⟨exc, id, rfl, tryValue_eq_ok_iff.mp hid, (Except.ok.inj h).symm⟩

/-- An ASN that is encoded has a code of twenty bits, which decodes to it. Kind: L -/
theorem encodedAsn_eq_ok {asn code : ℕ} (h : encodedAsn asn = .ok code) :
    code < 2 ^ 20 ∧ asnOfCode code = asn := by
  have henc : Prototype.Encodable 0 asn := by
    by_contra hno
    have hranges : ¬ asn < 2 ^ 19 ∧ ¬ (0x200000000 ≤ asn ∧ asn ≤ 0x20007ffff) := by
      unfold Prototype.Encodable at hno
      omega
    rw [encodedAsn, if_neg hranges.1, if_neg hranges.2] at h
    cases h
  rw [encodedAsn_of_encodable henc] at h
  obtain rfl := Except.ok.inj h
  exact ⟨asnCode_lt asn, asnOfCode_asnCode henc⟩

/-- What was read, field by field. Kind: D -/
structure S2ipArgs.Reads (a : S2ipArgs) (v : S2ipValues) : Prop where
  isdAsn : ∃ isd asn, a.isdAsn.splitOn '-' = [isd, asn] ∧ pyInt 10 isd = .ok v.isd ∧
    ASN.ofText asn = .ok v.asn
  localPrefix : parseHex a.localPrefix (24 - a.subnetBits) = .ok v.localPrefix
  subnet : parseHex a.subnet a.subnetBits = .ok v.subnet
  interface : parseInterface v.localPrefix v.subnet a.interface = .ok v.interface
  encoded : encodedAsn v.asn.asnInt = .ok v.encoded

/-- The fields of what was read. Kind: L -/
theorem S2ipArgs.reads_of_read {a : S2ipArgs} {v : S2ipValues} (h : a.read = .ok v) :
    a.Reads v := by
  unfold S2ipArgs.read at h
  split at h
  · next isd asn hsplit =>
      obtain ⟨isdVal, hisd, h⟩ := bind_eq_ok_iff.mp h
      obtain ⟨asnVal, hasn, h⟩ := bind_eq_ok_iff.mp h
      obtain ⟨localPrefix, hlocal, h⟩ := bind_eq_ok_iff.mp h
      obtain ⟨subnet, hsubnet, h⟩ := bind_eq_ok_iff.mp h
      obtain ⟨interface, hinterface, h⟩ := bind_eq_ok_iff.mp h
      obtain ⟨encoded, hencoded, h⟩ := bind_eq_ok_iff.mp h
      obtain rfl := Except.ok.inj h
      exact ⟨⟨isd, asn, hsplit, tryValue_eq_ok_iff.mp hisd, tryValue_eq_ok_iff.mp hasn⟩,
        tryValue_eq_ok_iff.mp hlocal, tryValue_eq_ok_iff.mp hsubnet, hinterface, hencoded⟩
  · cases h

/-- The ISD that is read is not negative. Kind: L -/
theorem S2ipArgs.Reads.isd_nonneg {a : S2ipArgs} {v : S2ipValues} (h : a.Reads v) : 0 ≤ v.isd := by
  obtain ⟨isd, asn, hsplit, hisd, -⟩ := h.isdAsn
  apply pyInt_nonneg ?_ hisd
  have hmem : isd ∈ a.isdAsn.splitOn '-' := by
    rw [hsplit]
    exact List.mem_cons_self
  exact not_mem_of_mem_splitOn hmem

/-! ## The address arithmetic -/

/-- The 64 bits of an interface. Kind: D -/
def interfaceBits : Interface → ℕ
  | .ipv4 v4 => 0xffff * 2 ^ 32 + v4.ip
  | .iid id => id

/-- Local prefix and subnet take up 24 bits. Kind: L -/
theorem network_lt {localPrefix subnet subnetBits : ℕ} (hs : subnetBits ≤ 24)
    (hlocal : localPrefix < 2 ^ (24 - subnetBits)) (hsubnet : subnet < 2 ^ subnetBits) :
    localPrefix * 2 ^ subnetBits + subnet < 2 ^ 24 := by
  have hlt := mul_two_pow_add_lt hsubnet hlocal
  rwa [Nat.sub_add_cancel hs] at hlt

/-- **The fields do not overlap** when every number fits its own. Kind: P -/
theorem joinIp_eq {isd code localPrefix subnet subnetBits : ℕ} {interface : Interface}
    (hisd : isd < 2 ^ 12) (hcode : code < 2 ^ 20) (hs : subnetBits ≤ 24)
    (hlocal : localPrefix < 2 ^ (24 - subnetBits)) (hsubnet : subnet < 2 ^ subnetBits)
    (hbits : interfaceBits interface < 2 ^ 64) :
    joinIp isd code localPrefix subnet interface subnetBits =
      0xfc * 2 ^ 120 + isd * 2 ^ 108 + code * 2 ^ 88 +
        (localPrefix * 2 ^ subnetBits + subnet) * 2 ^ 64 + interfaceBits interface := by
  have hmid := network_lt hs hlocal hsubnet
  have hsub : subnet <<< 64 < 2 ^ (64 + subnetBits) := by
    rw [Nat.shiftLeft_eq, Nat.add_comm, pow_add]
    exact Nat.mul_lt_mul_of_pos_right hsubnet (by norm_num)
  have hnet : (localPrefix <<< (64 + subnetBits)) ||| (subnet <<< 64)
      = (localPrefix * 2 ^ subnetBits + subnet) * 2 ^ 64 := by
    rw [or_shiftLeft hsub, Nat.shiftLeft_eq, pow_add]
    ring
  have hupper : (0xfc * 2 ^ 120 + isd * 2 ^ 108 + code * 2 ^ 88) |||
      (localPrefix * 2 ^ subnetBits + subnet) * 2 ^ 64 = _ :=
    or_eq_add_of_dvd (k := 88) (by omega) (by omega)
  have hall : (0xfc * 2 ^ 120 + isd * 2 ^ 108 + code * 2 ^ 88 +
      (localPrefix * 2 ^ subnetBits + subnet) * 2 ^ 64) ||| interfaceBits interface = _ :=
    or_eq_add_of_dvd (k := 64) (by omega) hbits
  simp only [joinIp]
  rw [isdAsnPrefix_eq_or hisd hcode, Nat.or_assoc _ _ (_ <<< 64), hnet, hupper]
  cases interface with
  | iid id => exact hall
  | ipv4 v4 =>
      have hlow : (0xffff <<< 32) ||| v4.ip = interfaceBits (.ipv4 v4) :=
        or_shiftLeft v4.ip_lt 0xffff
      simp only [IPv4Address.ofBE_packed]
      rw [Nat.or_assoc, hlow, hall]

/-- An address put together from fields that fit, decoded again. Kind: L -/
theorem unmapped_of_eq {isd code localPrefix subnet bits subnetBits : ℕ} {addr : IPv6Address}
    (hisd : isd < 2 ^ 12) (hcode : code < 2 ^ 20) (hs : subnetBits ≤ 24)
    (hlocal : localPrefix < 2 ^ (24 - subnetBits)) (hsubnet : subnet < 2 ^ subnetBits)
    (hbits : bits < 2 ^ 64)
    (haddr : addr.ip = 0xfc * 2 ^ 120 + isd * 2 ^ 108 + code * 2 ^ 88 +
      (localPrefix * 2 ^ subnetBits + subnet) * 2 ^ 64 + bits) :
    SCION_NETWORK addr = true ∧ (unmapped addr subnetBits).isd = isd ∧
      (unmapped addr subnetBits).asn = asnOfCode code ∧
      (unmapped addr subnetBits).localPrefix = localPrefix ∧
      (unmapped addr subnetBits).subnet = subnet ∧ bitField addr.ip 0 64 = bits := by
  obtain ⟨hcutLocal, hcutSubnet⟩ := bitField_mul_add hsubnet hlocal
  have hmid := network_lt hs hlocal hsubnet
  generalize hm : localPrefix * 2 ^ subnetBits + subnet = mid at *
  have hfields : bitField addr.ip 108 12 = isd ∧ bitField addr.ip 88 20 = code ∧
      bitField addr.ip 64 24 = mid ∧ bitField addr.ip 0 64 = bits := by
    rw [haddr]
    simp only [bitField]
    omega
  obtain ⟨hfisd, hfcode, hfmid, hfbits⟩ := hfields
  have hnet : SCION_NETWORK addr = true := by
    rw [SCION_NETWORK_iff, haddr]
    omega
  refine ⟨hnet, hfisd, ?_, ?_, ?_, hfbits⟩
  · rw [unmapped, hfcode]
  · have hcut : subnetBits + (24 - subnetBits) ≤ 24 := by omega
    rw [unmapped, ← bitField_bitField addr.ip 64 hcut,
      hfmid, hcutLocal]
  · have hcut : 0 + subnetBits ≤ 24 := by omega
    rw [unmapped, ← Nat.add_zero 64, ← bitField_bitField addr.ip 64 hcut,
      hfmid, hcutSubnet]

/-- An address of a dotted quad, decoded again. Kind: L -/
theorem unmapped_interface_of_ipv4 {addr : IPv6Address} {subnetBits : ℕ} {v4 : IPv4Address}
    (hs : subnetBits ≤ 24) (hlocal : (unmapped addr subnetBits).localPrefix = 0)
    (hsubnet : (unmapped addr subnetBits).subnet = 0)
    (hbits : bitField addr.ip 0 64 = interfaceBits (.ipv4 v4)) :
    (unmapped addr subnetBits).interface = .ipv4 v4 := by
  have hv4 := v4.ip_lt
  have hcut := bitField_add addr.ip 0 32 32
  have hlow := bitField_lt addr.ip 0 32
  rw [hbits, interfaceBits, Nat.zero_add] at hcut
  have hmapped : IsIpv4Mapped addr := by
    refine (isIpv4Mapped_iff addr hs).mpr ⟨?_, hlocal, hsubnet⟩
    omega
  have hhost : lowHost addr = v4 := by
    ext
    simp only [lowHost]
    omega
  rw [unmapped, if_pos hmapped, hhost]

/-! ## The address that is asked for -/

namespace S2ipArgs

variable (a : S2ipArgs)

/-- **The address carries what the texts say**, decoded by the layout of the README. Kind: D -/
structure CarriedBy (addr : IPv6Address) : Prop where
  network : SCION_NETWORK addr = true
  isdAsn : ∃ isd asn, a.isdAsn.splitOn '-' = [isd, asn] ∧
    pyInt 10 isd = .ok (unmapped addr a.subnetBits).isd ∧
    ASN.asnInt <$> ASN.ofText asn = .ok (unmapped addr a.subnetBits).asn
  localPrefix : hexValue a.localPrefix (24 - a.subnetBits)
    = some (unmapped addr a.subnetBits).localPrefix
  subnet : hexValue a.subnet a.subnetBits = some (unmapped addr a.subnetBits).subnet
  /-- A dotted quad is an IPv4 host, other texts are the number in the low 64 bits. -/
  interface : (∃ v4, IPv4Address.parse a.interface = .ok v4 ∧
      (unmapped addr a.subnetBits).interface = .ipv4 v4) ∨
    ∃ exc, IPv4Address.parse a.interface = .error exc ∧
      hexValue a.interface 64 = some (bitField addr.ip 0 64)

/-- `s2ip` raises `InvalidArgument`, or returns the text of the address that is asked for.
Kind: D -/
def Right : Prop :=
  (∃ exc, a.run = .error exc ∧ isInvalidArgument exc = true) ∨
    ∃ text addr, a.run = .ok text ∧ IPv6Address.parse text = .ok addr ∧ a.CarriedBy addr

/-- One of the texts has more groups than its field; a dotted quad has no groups. Kind: D -/
def HasOverfull : Prop :=
  Overfull a.localPrefix (24 - a.subnetBits) ∨ Overfull a.subnet a.subnetBits ∨
    (∃ exc, IPv4Address.parse a.interface = .error exc) ∧ Overfull a.interface 64

variable {a}

/-- The interface that is read has 64 bits. Kind: L -/
theorem Reads.interfaceBits_lt {v : S2ipValues} (h : a.Reads v) :
    interfaceBits v.interface < 2 ^ 64 := by
  rcases parseInterface_eq_ok h.interface with ⟨v4, -, -, -, hv⟩ | ⟨exc, id, -, hid, hv⟩
  · have hv4 := v4.ip_lt
    rw [hv, interfaceBits]
    omega
  · rw [hv]
    exact parseHex_lt hid

/-- What was read into the fields of an address is carried by it. Kind: L -/
theorem Reads.carriedBy {v : S2ipValues} (h : a.Reads v) (hs : a.subnetBits ≤ 24)
    (hfull : ¬ a.HasOverfull) {addr : IPv6Address} (hisd : v.isd.toNat < 2 ^ 12)
    (haddr : addr.ip = joinIp v.isd.toNat v.encoded v.localPrefix v.subnet v.interface
      a.subnetBits) : a.CarriedBy addr := by
  obtain ⟨isd, asn, hsplit, hread, hasn⟩ := h.isdAsn
  obtain ⟨hcode, hdecode⟩ := encodedAsn_eq_ok h.encoded
  have hlocal := parseHex_lt h.localPrefix
  have hsubnet := parseHex_lt h.subnet
  have hbits := h.interfaceBits_lt
  rw [joinIp_eq hisd hcode hs hlocal hsubnet hbits] at haddr
  obtain ⟨hnet, hfisd, hfasn, hflocal, hfsubnet, hfbits⟩ :=
    unmapped_of_eq hisd hcode hs hlocal hsubnet hbits haddr
  refine ⟨hnet, ⟨isd, asn, hsplit, ?_, ?_⟩, ?_, ?_, ?_⟩
  · rw [hread, hfisd, Int.toNat_of_nonneg h.isd_nonneg]
  · rw [hasn, hfasn, hdecode]
    rfl
  · rw [hflocal]
    exact hexValue_of_parseHex h.localPrefix fun hc => hfull (Or.inl hc)
  · rw [hfsubnet]
    exact hexValue_of_parseHex h.subnet fun hc => hfull (Or.inr (Or.inl hc))
  · rcases parseInterface_eq_ok h.interface with ⟨v4, hv4, hp0, hs0, hv⟩ | ⟨exc, id, hexc, hid, hv⟩
    · left
      refine ⟨v4, hv4, unmapped_interface_of_ipv4 hs (hflocal.trans hp0) (hfsubnet.trans hs0) ?_⟩
      rw [hfbits, hv]
    · right
      refine ⟨exc, hexc, ?_⟩
      rw [hfbits, hv, interfaceBits]
      exact hexValue_of_parseHex hid fun hc => hfull (Or.inr (Or.inr ⟨⟨exc, hexc⟩, hc⟩))

/-- An overfull text is carried by no address. Kind: L -/
theorem CarriedBy.not_hasOverfull {addr : IPv6Address} (h : a.CarriedBy addr) :
    ¬ a.HasOverfull := by
  rintro (hfull | hfull | ⟨⟨exc, hexc⟩, hfull⟩)
  · have hval := h.localPrefix
    rw [hexValue_of_overfull hfull] at hval
    cases hval
  · have hval := h.subnet
    rw [hexValue_of_overfull hfull] at hval
    cases hval
  · rcases h.interface with ⟨v4, hv4, -⟩ | ⟨-, -, hval⟩
    · rw [hexc] at hv4
      cases hv4
    · rw [hexValue_of_overfull hfull] at hval
      cases hval

/-- The texts are read as the values they say. Kind: L -/
theorem Reads.read_eq {v : S2ipValues} (h : a.Reads v) : a.read = .ok v := by
  obtain ⟨isd, asn, hsplit, hisd, hasn⟩ := h.isdAsn
  unfold read
  rw [hsplit]
  simp only [hisd, hasn, h.localPrefix, h.subnet, tryValue_ok, ok_bind, h.interface, h.encoded]
  rfl

/-- The number put together is the number of an address, when the ISD fits. Kind: L -/
theorem Reads.joinIp_lt {v : S2ipValues} (h : a.Reads v) (hs : a.subnetBits ≤ 24)
    (hisd : v.isd.toNat < 2 ^ 12) :
    joinIp v.isd.toNat v.encoded v.localPrefix v.subnet v.interface a.subnetBits < 2 ^ 128 := by
  have hcode := (encodedAsn_eq_ok h.encoded).1
  have hmid := mul_two_pow_add_lt (parseHex_lt h.subnet) (parseHex_lt h.localPrefix)
  rw [Nat.sub_add_cancel hs] at hmid
  have hbits := h.interfaceBits_lt
  rw [joinIp_eq hisd hcode hs (parseHex_lt h.localPrefix) (parseHex_lt h.subnet) hbits]
  omega

/-- What `s2ip` does with texts that are read. Kind: L -/
theorem Reads.run_eq {v : S2ipValues} (h : a.Reads v) :
    a.run = IPv6Address.str <$> IPv6Address.ofInt
      (joinIp v.isd.toNat v.encoded v.localPrefix v.subnet v.interface a.subnetBits) := by
  rw [a.run_eq, h.read_eq, ok_bind]
  rfl

/-- Texts that are read give `InvalidArgument` in no case: `s2ip` returns an address, or the number
is too large for one. Kind: L -/
theorem Reads.right_iff_exists {v : S2ipValues} (h : a.Reads v) :
    a.Right ↔ ∃ addr : IPv6Address, a.CarriedBy addr ∧
      addr.ip = joinIp v.isd.toNat v.encoded v.localPrefix v.subnet v.interface a.subnetBits := by
  unfold Right
  rw [h.run_eq]
  constructor
  · rintro (⟨exc, herr, hinvalid⟩ | ⟨text, addr, htext, haddr, hcarried⟩)
    · rw [IPv6Address.ofInt] at herr
      split_ifs at herr with hlt
      · cases herr
      · obtain rfl := Except.error.inj herr
        rw [isInvalidArgument_notPermitted] at hinvalid
        cases hinvalid
    · rw [IPv6Address.ofInt] at htext
      split_ifs at htext with hlt
      · obtain rfl := Except.ok.inj htext
        rw [IPv6Address.parse_str] at haddr
        obtain rfl := Except.ok.inj haddr
        exact ⟨_, hcarried, rfl⟩
      · cases htext
  · rintro ⟨addr, hcarried, haddr⟩
    refine Or.inr ⟨addr.str, addr, ?_, IPv6Address.parse_str addr, hcarried⟩
    rw [← haddr, IPv6Address.ofInt_of_lt addr.ip_lt]
    rfl

/-- The address an address text stands for has one ISD. Kind: L -/
theorem CarriedBy.isd_eq {addr : IPv6Address} (h : a.CarriedBy addr) {v : S2ipValues}
    (hv : a.Reads v) : v.isd = bitField addr.ip 108 12 := by
  obtain ⟨isd, asn, hsplit, hisd, -⟩ := h.isdAsn
  obtain ⟨isd', asn', hsplit', hisd', -⟩ := hv.isdAsn
  rw [hsplit] at hsplit'
  obtain ⟨rfl, -⟩ := List.cons.inj hsplit'
  exact Except.ok.inj (hisd'.symm.trans hisd)

end S2ipArgs

/-! ## When the address is right -/

/-- **`s2ip` raises `InvalidArgument` or returns the address asked for, if and only if** texts that
it can read hold an ISD of at most twelve bits and no more groups than fit. Of two calls that return
the same address in this way the ISDs are the same. Kind: P -/
theorem S2ipArgs.right_iff (a : S2ipArgs) (hs : a.subnetBits ≤ 24) :
    (a.Right ↔ ∀ v, a.Reads v → v.isd < 2 ^ 12 ∧ ¬ a.HasOverfull) ∧
      ∀ (b : S2ipArgs) (v w : S2ipValues) (text : Text), a.Right → b.Right →
        a.Reads v → b.Reads w → a.run = .ok text → b.run = .ok text → v.isd = w.isd := by
  refine ⟨⟨?_, ?_⟩, ?_⟩
  · intro hright v hv
    obtain ⟨addr, hcarried, -⟩ := hv.right_iff_exists.mp hright
    have hlt := bitField_lt addr.ip 108 12
    refine ⟨?_, hcarried.not_hasOverfull⟩
    rw [hcarried.isd_eq hv]
    exact_mod_cast hlt
  · intro hfits
    cases hread : a.read with
    | error exc =>
        refine Or.inl ⟨exc, ?_, a.read_raises exc hread⟩
        rw [a.run_eq, hread]
        rfl
    | ok v =>
        have hv := reads_of_read hread
        obtain ⟨hisd, hfull⟩ := hfits v hv
        have hnat : v.isd.toNat < 2 ^ 12 := by
          have hnonneg := hv.isd_nonneg
          omega
        exact hv.right_iff_exists.mpr
          ⟨⟨_, hv.joinIp_lt hs hnat⟩, hv.carriedBy hs hfull hnat rfl, rfl⟩
  · intro b v w text ha hb hv hw hatext hbtext
    obtain ⟨addr, hcarried, haddr⟩ := hv.right_iff_exists.mp ha
    obtain ⟨addr', hcarried', haddr'⟩ := hw.right_iff_exists.mp hb
    rw [hv.run_eq, ← haddr, IPv6Address.ofInt_of_lt addr.ip_lt] at hatext
    rw [hw.run_eq, ← haddr', IPv6Address.ofInt_of_lt addr'.ip_lt] at hbtext
    have hstr : addr.str = addr'.str :=
      (Except.ok.inj hatext).trans (Except.ok.inj hbtext).symm
    have hsame : addr = addr' := by
      have hparse := IPv6Address.parse_str addr
      rw [hstr, IPv6Address.parse_str] at hparse
      exact (Except.ok.inj hparse).symm
    rw [hcarried.isd_eq hv, hcarried'.isd_eq hw, hsame]

/-- A sample that is right. Kind: C -/
theorem s2ip_right_sample :
    S2ipArgs.Right ⟨"1-64512".toList, ['0'], ['0'], ['1'], 8⟩ := by
  refine (S2ipArgs.right_iff ⟨"1-64512".toList, ['0'], ['0'], ['1'], 8⟩ (by norm_num)).1.mpr ?_
  intro v hv
  have hread : S2ipArgs.read ⟨"1-64512".toList, ['0'], ['0'], ['1'], 8⟩
      = .ok ⟨1, ⟨64512, by norm_num⟩, 0, 0, .iid 1, 64512⟩ := by decide +kernel
  obtain rfl := Except.ok.inj (hv.read_eq.symm.trans hread)
  refine ⟨by norm_num, ?_⟩
  have hzero : splitDouble ['0'] = [['0']] := by decide +kernel
  have hone : splitDouble ['1'] = [['1']] := by decide +kernel
  rintro (hfull | hfull | ⟨-, hfull⟩)
  · exact not_overfull hzero hfull
  · exact not_overfull hzero hfull
  · exact not_overfull hone hfull

/-- Bit 14 of the ISD 16385 lies in the network prefix, where it is set already: the address is that
of ISD 1. Kind: C -/
theorem s2ip_not_right :
    ¬ S2ipArgs.Right ⟨"16385-64512".toList, ['0'], ['0'], ['1'], 8⟩ ∧
      S2ipArgs.run ⟨"16385-64512".toList, ['0'], ['0'], ['1'], 8⟩ = .ok "fc00:10fc::1".toList ∧
      S2ipArgs.run ⟨"1-64512".toList, ['0'], ['0'], ['1'], 8⟩ = .ok "fc00:10fc::1".toList := by
  refine ⟨?_, by decide +kernel, by decide +kernel⟩
  intro hright
  have hread : S2ipArgs.read ⟨"16385-64512".toList, ['0'], ['0'], ['1'], 8⟩
      = .ok ⟨16385, ⟨64512, by norm_num⟩, 0, 0, .iid 1, 64512⟩ := by decide +kernel
  have hv := S2ipArgs.reads_of_read hread
  obtain ⟨addr, hcarried, -⟩ := hv.right_iff_exists.mp hright
  have hisd := hcarried.isd_eq hv
  have hlt := bitField_lt addr.ip 108 12
  simp only at hisd
  omega

end ScionIp.Scion2Ip
