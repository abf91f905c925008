import ScionIp.Prototype.Mapping
import ScionIp.Scion2Ip.Asn

/-!
# `scion2ip` and `ip2scion`

* `s2ip` — four texts to the text of an address. An ISD of more than twelve bits is not rejected:
  the source makes that exception without raising it.
* `ip2s` — an address to the text of its four parts. The interface is written as a dotted quad
  whenever its upper half is `0:ffff`, whatever stands in prefix and subnet.
* `s2ip` accepts a dotted quad only below a zero prefix and subnet. So it undoes `ip2s` on an
  address of `fc00::/8` exactly when these two tests agree (`s2ip_ip2s_iff`).
-/

namespace ScionIp.Scion2Ip

open ScionIp.Lib ScionIp.Python ScionIp.Prototype

/-! ## The functions -/

/-- `try` around `x`, with `except ValueError as e: raise InvalidArgument(message, e)`. Kind: D -/
def tryValue {α : Type} (message : String) (x : Py α) : Py α :=
  match x with
  | .ok a => .ok a
  | .error exc => if exc.isValueError then .error (.InvalidArgumentFrom message exc) else .error exc

/-- The interface: a dotted quad, or else hexadecimal groups. Source: `scion2ip`, `s2ip`. Kind: D -/
def parseInterface (localPrefix subnet : ℕ) (interface : Text) : Py Interface :=
  match IPv4Address.parse interface with
  | .ok v4 =>
      if localPrefix ≠ 0 ∨ subnet ≠ 0 then
        .error (.InvalidArgument
          "local prefix and subnet must be zero in SCION-IPv4-mapped addresses")
      else .ok (.ipv4 v4)
  | .error exc =>
      if exc.isValueError then do
        let id ← tryValue "interface" (parseHex interface 64)
        return .iid id
      else .error exc

/-- The address put together from its parts. Source: `scion2ip`, `s2ip`. Kind: D -/
def joinIp (isd encoded localPrefix subnet : ℕ) (interface : Interface) (subnetBits : ℕ) : ℕ :=
  let ip := SCION_PREFIX ||| (isd <<< 108) ||| (encoded <<< 88)
  let ip := ip ||| (localPrefix <<< (64 + subnetBits))
  let ip := ip ||| (subnet <<< 64)
  match interface with
  | .ipv4 v4 => ip ||| (0xffff <<< 32) ||| ofBE v4.packed
  | .iid id => ip ||| id

/-- The number read as ISD cannot be negative, since the text has no second hyphen; one of more
than twelve bits goes on. The encoding of the ASN is spelled as in `map_ipv4`.
Source: `scion2ip`, `s2ip`. Kind: D -/
def s2ip (isdAsn localPrefix subnet interface : Text) (subnetBits : ℕ) : Py Text :=
  match isdAsn.splitOn '-' with
  | [isd, asn] => do
      let isd ← tryValue "isd-asn" (pyInt 10 isd)
      let asn ← tryValue "isd-asn" (ASN.ofText asn)
      let localPrefix ← tryValue "local prefix" (parseHex localPrefix (24 - subnetBits))
      let subnet ← tryValue "subnet" (parseHex subnet subnetBits)
      let interface ← parseInterface localPrefix subnet interface
      let encoded ← encodedAsn asn.asnInt
      let addr ← IPv6Address.ofInt
        (joinIp isd.toNat encoded localPrefix subnet interface subnetBits)
      return addr.str
  | _ => .error (.InvalidArgument "error: invalid isd-asn")

/-- What `ip2s` prints itself, and the text it returns. Kind: D -/
structure Ip2s where
  printed : Option String
  text : Text
  deriving DecidableEq

/-- The branches that set `asn`. Source: `scion2ip`, `ip2s`. Kind: D -/
def ip2sAsn (encodedAsn : ℕ) : Py ASN :=
  ASN.ofInt (if encodedAsn &&& (1 <<< 19) ≠ 0 then 0x200000000 ||| (encodedAsn &&& 0x7ffff)
    else encodedAsn)

/-- The branches that set `interface_str`. Source: `scion2ip`, `ip2s`. Kind: D -/
def ip2sInterface (interface : ℕ) : Py Text :=
  if interface &&& (0xffffffff <<< 32) = 0x0000ffff <<< 32 then
    IPv4Address.str <$> IPv4Address.ofInt (interface &&& 0xffffffff)
  else .ok (formatHex interface)

/-- Outside `fc00::/8` a message is printed, and the function goes on.
Source: `scion2ip`, `ip2s`. Kind: D -/
def ip2s (ip : IPv6Address) (subnetBits : ℕ) : Py Ip2s := do
  let printed := if SCION_NETWORK ip then none
    else some "error: not an IPv6-mapped SCION address"
  let ip := ip.ip
  let interface := ip &&& 0xffffffffffffffff
  let subnet := (ip >>> 64) &&& lowMask subnetBits
  if 24 < subnetBits then throw (.ValueError "negative shift count")
  let localPrefix := (ip >>> (64 + subnetBits)) &&& lowMask (24 - subnetBits)
  let isd := (ip >>> 108) &&& 0xfff
  let asn ← ip2sAsn ((ip >>> 88) &&& 0xfffff)
  let interfaceStr ← ip2sInterface interface
  return ⟨printed, [' '].intercalate [Nat.toDigits 10 isd ++ '-' :: asn.str,
    formatHex localPrefix, formatHex subnet, interfaceStr]⟩

/-! ## The text of an address in its parts -/

/-- The interface has the form of an IPv4 host, whatever is above it. Kind: D -/
def LooksIpv4 (ip : IPv6Address) : Prop := bitField ip.ip 32 32 = 0xffff

instance (ip : IPv6Address) : Decidable (LooksIpv4 ip) := inferInstanceAs (Decidable (_ = _))

/-- The ASN of an address. Kind: D -/
def asnOf (ip : IPv6Address) : ASN where
  asnInt := asnOfCode (bitField ip.ip 88 20)
  asnInt_lt := by
    have hcode := bitField_lt ip.ip 88 20
    unfold asnOfCode
    split_ifs <;> omega

/-- The first token. Kind: D -/
def isdAsnToken (ip : IPv6Address) : Text :=
  Nat.toDigits 10 (bitField ip.ip 108 12) ++ '-' :: (asnOf ip).str

/-- The last token. Kind: D -/
def interfaceToken (ip : IPv6Address) : Text :=
  if LooksIpv4 ip then (lowHost ip).str else formatHex (bitField ip.ip 0 64)

/-- The branches on the ASN. Kind: L -/
theorem ip2sAsn_eq (ip : IPv6Address) : ip2sAsn (bitField ip.ip 88 20) = .ok (asnOf ip) := by
  have hlt := (asnOf ip).asnInt_lt
  have hmax : ¬ asnOfCode (bitField ip.ip 88 20) > ASN.MAX_VALUE := by
    rw [ASN.MAX_VALUE, Nat.shiftLeft_eq]
    exact not_lt.mpr (Nat.le_sub_one_of_lt (by simpa [asnOf] using hlt))
  rw [ip2sAsn, asn_of_code_eq (bitField_lt ip.ip 88 20), ASN.ofInt, dif_neg hmax]
  rfl

/-- The branches on the interface. Kind: L -/
theorem ip2sInterface_eq (ip : IPv6Address) :
    ip2sInterface (ip.ip &&& 0xffffffffffffffff) = .ok (interfaceToken ip) := by
  have htest := interface_test_iff ip.ip
  rw [interface_field, ip2sInterface, host_field]
  by_cases hv4 : LooksIpv4 ip
  · rw [if_pos (htest.mpr hv4), IPv4Address.ofInt_of_lt (bitField_lt ip.ip 0 32), interfaceToken,
      if_pos hv4]
    rfl
  · rw [if_neg (fun h => hv4 (htest.mp h)), interfaceToken, if_neg hv4]

/-- **What `ip2s` returns**, inside the network and outside. Kind: L -/
theorem ip2s_eq (ip : IPv6Address) {subnetBits : ℕ} (hs : subnetBits ≤ 24) :
    ip2s ip subnetBits = .ok ⟨if SCION_NETWORK ip then none
      else some "error: not an IPv6-mapped SCION address", [' '].intercalate [isdAsnToken ip,
      formatHex (bitField ip.ip (64 + subnetBits) (24 - subnetBits)),
      formatHex (bitField ip.ip 64 subnetBits), interfaceToken ip]⟩ := by
  simp only [ip2s, if_neg (not_lt.mpr hs), lowMask_eq, shiftRight_and_ones, isd_field, code_field,
    ip2sAsn_eq, ip2sInterface_eq, ok_bind, isdAsnToken]
  rfl

/-- What `ip2s` returns for an address of `fc00::/8`. Kind: L -/
theorem ip2s_of_network {ip : IPv6Address} (h : SCION_NETWORK ip = true) {subnetBits : ℕ}
    (hs : subnetBits ≤ 24) :
    ip2s ip subnetBits = .ok ⟨none, [' '].intercalate [isdAsnToken ip,
      formatHex (bitField ip.ip (64 + subnetBits) (24 - subnetBits)),
      formatHex (bitField ip.ip 64 subnetBits), interfaceToken ip]⟩ := by
  rw [ip2s_eq ip hs, if_pos h]

/-! ## The tokens -/

/-- A text in which no character is a space. Kind: L -/
theorem space_not_mem_hexTexts (groups : List ℕ) :
    ' ' ∉ [':'].intercalate (hexTexts groups) := by
  intro hmem
  rcases mem_intercalate hmem with heq | ⟨part, hpart, hc⟩
  · cases heq
  · exact ne_of_isDigitOf (isDigitOf_of_mem_hexTexts hpart hc) (d := ' ') (by decide) rfl

/-- The first token has no space. Kind: L -/
theorem space_not_mem_isdAsnToken (ip : IPv6Address) : ' ' ∉ isdAsnToken ip := by
  intro hmem
  simp only [isdAsnToken, List.mem_append, List.mem_cons] at hmem
  rcases hmem with hisd | heq | hasn
  · exact not_mem_toDigits (by norm_num) (by norm_num) _ (by decide) hisd
  · cases heq
  · rcases ASN.mem_str hasn with heq | hdigit
    · cases heq
    · exact ne_of_isDigitOf hdigit (d := ' ') (by decide) rfl

/-- The last token has no space. Kind: L -/
theorem space_not_mem_interfaceToken (ip : IPv6Address) : ' ' ∉ interfaceToken ip := by
  unfold interfaceToken
  split_ifs
  · intro hmem
    rcases mem_intercalate hmem with heq | ⟨part, hpart, hc⟩
    · cases heq
    · obtain ⟨b, -, rfl⟩ := List.mem_map.mp hpart
      exact not_mem_toDigits (by norm_num) (by norm_num) _ (by decide) hc
  · exact space_not_mem_hexTexts _

/-- The text is cut into its four tokens. Kind: L -/
theorem splitOn_tokens (ip : IPv6Address) (localPrefix subnet : ℕ) :
    ([' '].intercalate [isdAsnToken ip, formatHex localPrefix, formatHex subnet,
      interfaceToken ip]).splitOn ' '
      = [isdAsnToken ip, formatHex localPrefix, formatHex subnet, interfaceToken ip] := by
  refine List.splitOn_intercalate ' ' (fun token htoken => ?_) (List.cons_ne_nil _ _)
  simp only [List.mem_cons, List.not_mem_nil, or_false] at htoken
  rcases htoken with rfl | rfl | rfl | rfl
  · exact space_not_mem_isdAsnToken ip
  · exact space_not_mem_hexTexts _
  · exact space_not_mem_hexTexts _
  · exact space_not_mem_interfaceToken ip

/-! ## Reading the tokens -/

/-- A statement under `try` that raises nothing. Kind: L -/
@[simp] theorem tryValue_ok {α : Type} (message : String) (a : α) :
    tryValue message (.ok a) = .ok a := rfl

/-- Hexadecimal groups are no dotted quad. Kind: L -/
theorem IPv4Address_parse_formatHex (n : ℕ) :
    IPv4Address.parse (formatHex n) = .error .AddressValueError := by
  have hdot : '.' ∉ formatHex n := by
    intro hmem
    rcases mem_intercalate hmem with heq | ⟨part, hpart, hc⟩
    · cases heq
    · exact ne_of_isDigitOf (isDigitOf_of_mem_hexTexts hpart hc) (d := '.') (by decide) rfl
  simp only [IPv4Address.parse, List.splitOn_eq_singleton hdot, List.length_singleton,
    if_pos (show 1 ≠ 4 by norm_num)]
  split_ifs <;> rfl

/-- A number of 64 bits is read as interface. Kind: L -/
theorem parseInterface_formatHex (localPrefix subnet : ℕ) {id : ℕ} (h : id < 2 ^ 64) :
    parseInterface localPrefix subnet (formatHex id) = .ok (.iid id) := by
  rw [parseInterface, IPv4Address_parse_formatHex]
  simp only [PyExc.isValueError, if_true, parseHex_formatHex h, tryValue_ok, ok_bind]
  rfl

/-- A dotted quad is read as interface below a zero prefix and subnet. Kind: L -/
theorem parseInterface_str (localPrefix subnet : ℕ) (v4 : IPv4Address) :
    parseInterface localPrefix subnet v4.str =
      if localPrefix ≠ 0 ∨ subnet ≠ 0 then
        .error (.InvalidArgument
          "local prefix and subnet must be zero in SCION-IPv4-mapped addresses")
      else .ok (.ipv4 v4) := by
  rw [parseInterface, v4.parse_str]

/-- The code of an ASN that was decoded from it. Kind: L -/
theorem encodedAsn_asnOf (ip : IPv6Address) :
    encodedAsn (asnOf ip).asnInt = .ok (bitField ip.ip 88 20) := by
  obtain ⟨henc, hcode⟩ := asnCode_asnOfCode (bitField_lt ip.ip 108 12) (bitField_lt ip.ip 88 20)
  rw [show (asnOf ip).asnInt = asnOfCode (bitField ip.ip 88 20) from rfl,
    encodedAsn_of_encodable henc, hcode]

/-- The first token is read back. Kind: L -/
theorem splitOn_isdAsnToken (ip : IPv6Address) :
    (isdAsnToken ip).splitOn '-' = [Nat.toDigits 10 (bitField ip.ip 108 12), (asnOf ip).str] := by
  have hasn : '-' ∉ (asnOf ip).str := by
    intro hmem
    rcases ASN.mem_str hmem with heq | hdigit
    · cases heq
    · exact ne_of_isDigitOf hdigit (d := '-') (by decide) rfl
  rw [isdAsnToken, List.splitOn_append_cons_self_of_not_mem
    (not_mem_toDigits (by norm_num) (by norm_num) _ (by decide)), List.splitOn_eq_singleton hasn]

/-- The interface of an address as `unmap_ipv6` would give it below a zero prefix and subnet.
Kind: D -/
def interfaceOf (ip : IPv6Address) : Interface :=
  if LooksIpv4 ip then .ipv4 (lowHost ip) else .iid (bitField ip.ip 0 64)

/-- Prefix and subnet put together are the 24 bits above the interface. Kind: L -/
theorem prefix_or_subnet (ip : ℕ) {subnetBits : ℕ} (hs : subnetBits ≤ 24) :
    (bitField ip (64 + subnetBits) (24 - subnetBits) <<< (64 + subnetBits)) |||
      (bitField ip 64 subnetBits <<< 64) = bitField ip 64 24 * 2 ^ 64 := by
  have hsubnet : bitField ip 64 subnetBits <<< 64 < 2 ^ (64 + subnetBits) := by
    rw [Nat.shiftLeft_eq, Nat.add_comm, pow_add]
    exact Nat.mul_lt_mul_of_pos_right (bitField_lt _ _ _) (by norm_num)
  have hcut := bitField_add ip 64 subnetBits (24 - subnetBits)
  rw [Nat.add_sub_cancel' hs] at hcut
  rw [or_shiftLeft hsubnet, Nat.shiftLeft_eq, hcut, pow_add]
  ring

/-- **The parts of an address put together give the address.** Kind: L -/
theorem joinIp_parts {ip : IPv6Address} (h : SCION_NETWORK ip = true) {subnetBits : ℕ}
    (hs : subnetBits ≤ 24) :
    joinIp (bitField ip.ip 108 12) (bitField ip.ip 88 20)
      (bitField ip.ip (64 + subnetBits) (24 - subnetBits)) (bitField ip.ip 64 subnetBits)
      (interfaceOf ip) subnetBits = ip.ip := by
  have hlt := ip.ip_lt
  have hmid := bitField_lt ip.ip 64 24
  have hlow := bitField_lt ip.ip 0 64
  have hhost := bitField_lt ip.ip 0 32
  rw [SCION_NETWORK_iff] at h
  have hupper : (0xfc * 2 ^ 120 + bitField ip.ip 108 12 * 2 ^ 108 + bitField ip.ip 88 20 * 2 ^ 88)
      ||| bitField ip.ip 64 24 * 2 ^ 64 = _ := or_eq_add_of_dvd (k := 88) (by omega) (by omega)
  have hall : (0xfc * 2 ^ 120 + bitField ip.ip 108 12 * 2 ^ 108 + bitField ip.ip 88 20 * 2 ^ 88
      + bitField ip.ip 64 24 * 2 ^ 64) ||| bitField ip.ip 0 64 = _ :=
    or_eq_add_of_dvd (k := 64) (by omega) hlow
  have hsum : 0xfc * 2 ^ 120 + bitField ip.ip 108 12 * 2 ^ 108 + bitField ip.ip 88 20 * 2 ^ 88
      + bitField ip.ip 64 24 * 2 ^ 64 + bitField ip.ip 0 64 = ip.ip := by
    simp only [bitField]
    omega
  simp only [joinIp]
  rw [isdAsnPrefix_eq_or (bitField_lt _ _ _) (bitField_lt _ _ _), Nat.or_assoc _ _ (_ <<< 64),
    prefix_or_subnet ip.ip hs, hupper]
  by_cases hv4 : LooksIpv4 ip
  · have hpattern : (0xffff <<< 32) ||| (lowHost ip).ip = bitField ip.ip 0 64 := by
      have hcut := bitField_add ip.ip 0 32 32
      rw [Nat.zero_add, show bitField ip.ip 32 32 = 0xffff from hv4] at hcut
      rw [hcut]
      exact or_shiftLeft hhost 0xffff
    simp only [interfaceOf, if_pos hv4, IPv4Address.ofBE_packed]
    rw [Nat.or_assoc, hpattern, hall, hsum]
  · simp only [interfaceOf, if_neg hv4]
    rw [hall, hsum]

/-- Prefix and subnet are zero exactly if the 24 bits are. Kind: L -/
theorem prefix_subnet_ne_zero_iff (ip : ℕ) {subnetBits : ℕ} (hs : subnetBits ≤ 24) :
    (bitField ip (64 + subnetBits) (24 - subnetBits) ≠ 0 ∨ bitField ip 64 subnetBits ≠ 0) ↔
      bitField ip 64 24 ≠ 0 := by
  have hzero := bitField_add_eq_zero_iff ip 64 subnetBits (24 - subnetBits)
  rw [Nat.add_sub_cancel' hs] at hzero
  rw [ne_eq, ne_eq, ne_eq, hzero, not_and_or]

/-- The last token is read back, or rejected as a dotted quad below a nonzero prefix or subnet.
Kind: L -/
theorem parseInterface_interfaceToken (ip : IPv6Address) {subnetBits : ℕ} (hs : subnetBits ≤ 24) :
    parseInterface (bitField ip.ip (64 + subnetBits) (24 - subnetBits))
      (bitField ip.ip 64 subnetBits) (interfaceToken ip) =
      if LooksIpv4 ip ∧ bitField ip.ip 64 24 ≠ 0 then
        .error (.InvalidArgument
          "local prefix and subnet must be zero in SCION-IPv4-mapped addresses")
      else .ok (interfaceOf ip) := by
  have hiff := prefix_subnet_ne_zero_iff ip.ip hs
  by_cases hv4 : LooksIpv4 ip
  · rw [interfaceToken, if_pos hv4, parseInterface_str, interfaceOf, if_pos hv4]
    exact if_congr (hiff.trans (and_iff_right hv4).symm) rfl rfl
  · rw [interfaceToken, if_neg hv4, parseInterface_formatHex _ _ (bitField_lt _ _ _), interfaceOf,
      if_neg hv4, if_neg (fun hc => hv4 hc.1)]

/-- **What `s2ip` makes of the tokens of an address.** Kind: L -/
theorem s2ip_tokens {ip : IPv6Address} (h : SCION_NETWORK ip = true) {subnetBits : ℕ}
    (hs : subnetBits ≤ 24) :
    s2ip (isdAsnToken ip) (formatHex (bitField ip.ip (64 + subnetBits) (24 - subnetBits)))
      (formatHex (bitField ip.ip 64 subnetBits)) (interfaceToken ip) subnetBits =
      if LooksIpv4 ip ∧ bitField ip.ip 64 24 ≠ 0 then
        .error (.InvalidArgument
          "local prefix and subnet must be zero in SCION-IPv4-mapped addresses")
      else .ok ip.str := by
  have hisdLt := bitField_lt ip.ip 108 12
  have hisd : pyInt 10 (Nat.toDigits 10 (bitField ip.ip 108 12))
      = .ok (bitField ip.ip 108 12 : ℤ) :=
    pyInt_decimal (by omega)
  have hprefix := parseHex_formatHex (bitField_lt ip.ip (64 + subnetBits) (24 - subnetBits))
  have hsubnet := parseHex_formatHex (bitField_lt ip.ip 64 subnetBits)
  have hjoin := joinIp_parts h hs
  rw [s2ip, splitOn_isdAsnToken]
  simp only [hisd, ASN.ofText_str, hprefix, hsubnet, tryValue_ok, ok_bind,
    parseInterface_interfaceToken ip hs]
  by_cases hbad : LooksIpv4 ip ∧ bitField ip.ip 64 24 ≠ 0
  · simp only [if_pos hbad, error_bind]
  · simp only [if_neg hbad, ok_bind, encodedAsn_asnOf, Int.toNat_natCast, hjoin,
      IPv6Address.ofInt_of_lt ip.ip_lt]
    rfl

/-- **When `s2ip` undoes `ip2s`.** For an address of `fc00::/8` and up to 24 subnet bits, the text
of `ip2s` splits into four tokens of which `s2ip` makes the address again, if and only if the
interface does not look like an IPv4 host below a nonzero prefix or subnet. Kind: P -/
theorem s2ip_ip2s_iff {ip : IPv6Address} (hnet : SCION_NETWORK ip = true) {subnetBits : ℕ}
    (hs : subnetBits ≤ 24) :
    (∃ r isdAsn localPrefix subnet interface, ip2s ip subnetBits = .ok r ∧
      r.text.splitOn ' ' = [isdAsn, localPrefix, subnet, interface] ∧
      s2ip isdAsn localPrefix subnet interface subnetBits = .ok ip.str) ↔
      ¬ (LooksIpv4 ip ∧ bitField ip.ip 64 24 ≠ 0) := by
  have htokens := s2ip_tokens hnet hs
  constructor
  · rintro ⟨r, isdAsn, localPrefix, subnet, interface, hr, hsplit, hok⟩ hbad
    rw [ip2s_of_network hnet hs] at hr
    obtain rfl := Except.ok.inj hr
    rw [splitOn_tokens] at hsplit
    obtain ⟨rfl, rfl, rfl, rfl, -⟩ : isdAsn = isdAsnToken ip ∧ _ ∧ _ ∧ _ ∧ True := by
      simpa [eq_comm] using hsplit
    rw [htokens, if_pos hbad] at hok
    cases hok
  · intro hgood
    refine ⟨_, isdAsnToken ip, _, _, interfaceToken ip, ip2s_of_network hnet hs,
      splitOn_tokens ip _ _, ?_⟩
    rw [htokens, if_neg hgood]

/-- `fc00:10fc:0:100::1` with eight subnet bits is restored. Kind: C -/
theorem s2ip_ip2s_sample :
    ∃ r isdAsn localPrefix subnet interface,
      ip2s ⟨0xfc0010fc000001000000000000000001, by norm_num⟩ 8 = .ok r ∧
      r.text.splitOn ' ' = [isdAsn, localPrefix, subnet, interface] ∧
      s2ip isdAsn localPrefix subnet interface 8
        = .ok (IPv6Address.str ⟨0xfc0010fc000001000000000000000001, by norm_num⟩) :=
  (s2ip_ip2s_iff (by decide +kernel) (by norm_num)).mpr (by decide +kernel)

/-- **`s2ip` does not always undo `ip2s`**: `fc00:10fc:0:1:0:ffff:102:304`, with `1.2.3.4` as
interface below subnet 1, is rejected. Kind: C -/
theorem s2ip_ip2s_ne :
    ¬ ∀ (ip : IPv6Address) (subnetBits : ℕ), SCION_NETWORK ip = true → subnetBits ≤ 24 →
      ∃ r isdAsn localPrefix subnet interface, ip2s ip subnetBits = .ok r ∧
        r.text.splitOn ' ' = [isdAsn, localPrefix, subnet, interface] ∧
        s2ip isdAsn localPrefix subnet interface subnetBits = .ok ip.str := by
  intro hall
  obtain ⟨r, isdAsn, localPrefix, subnet, interface, hr, hsplit, hok⟩ :=
    hall ⟨0xfc0010fc000000010000ffff01020304, by norm_num⟩ 8 (by decide +kernel) (by norm_num)
  have htext : ip2s ⟨0xfc0010fc000000010000ffff01020304, by norm_num⟩ 8
      = .ok ⟨none, "1-64512 0 1 1.2.3.4".toList⟩ := by decide +kernel
  rw [htext] at hr
  obtain rfl := Except.ok.inj hr
  have htokens : "1-64512 0 1 1.2.3.4".toList.splitOn ' '
      = ["1-64512".toList, ['0'], ['1'], "1.2.3.4".toList] := by decide +kernel
  rw [htokens] at hsplit
  obtain ⟨rfl, rfl, rfl, rfl, -⟩ : "1-64512".toList = isdAsn ∧ ['0'] = localPrefix ∧
      ['1'] = subnet ∧ "1.2.3.4".toList = interface ∧ True := by simpa using hsplit
  have herror : s2ip "1-64512".toList ['0'] ['1'] "1.2.3.4".toList 8
      = .error (.InvalidArgument
        "local prefix and subnet must be zero in SCION-IPv4-mapped addresses") := by decide +kernel
  rw [herror] at hok
  cases hok

end ScionIp.Scion2Ip
