import ScionIp.Scion2Ip.Addresses
import ScionIp.Scion2Ip.AsnText
import ScionIp.Vpp.IsdRange

/-!
# One text, two readers

The configuration of the path manager and the command line of `scion2ip` name an AS by the same
kind of text. The two programs read it with code of their own, in C++ and in Python.

* `ReadsIsdAsn` — what `s2ip` reads; `readsIsdAsn_of_read` finds it in a call.
* `readers_agree_iff` — of the texts that both accept, which ones are the same AS for both.
-/

namespace ScionIp.Mixed

open ScionIp.Lib ScionIp.Python ScionIp.Scion2Ip ScionIp.Vpp

/-- **The ISD and the ASN that `s2ip` reads**: `int` of the text before the hyphen, and `ASN` of the
text behind it. Source: `scion2ip`, `s2ip`. Kind: D -/
structure ReadsIsdAsn (isdAsn before behind : Text) (isd : ℤ) (asn : ASN) : Prop where
  parts : isdAsn.splitOn '-' = [before, behind]
  isd : pyInt 10 before = .ok isd
  asn : ASN.ofText behind = .ok asn

/-- A call of `s2ip` that reads all its texts reads the first one so. Kind: L -/
theorem readsIsdAsn_of_read {a : S2ipArgs} {v : S2ipValues} (h : a.read = .ok v) :
    ∃ before behind, ReadsIsdAsn a.isdAsn before behind v.isd v.asn := by
  obtain ⟨before, behind, hparts, hisd, hasn⟩ := (S2ipArgs.reads_of_read h).isdAsn
  exact ⟨before, behind, hparts, hisd, hasn⟩

/-- A text in two parts is the parts with a hyphen between. Kind: L -/
theorem eq_of_splitOn_two {raw before behind : Text} (h : raw.splitOn '-' = [before, behind]) :
    raw = before ++ '-' :: behind ∧ '-' ∉ before := by
  have hjoin : ['-'].intercalate (raw.splitOn '-') = raw := List.intercalate_splitOn '-'
  rw [h, List.intercalate_cons_cons, List.intercalate_singleton] at hjoin
  have hmem : before ∈ raw.splitOn '-' := by
    rw [h]
    exact List.mem_cons_self
  exact ⟨by simpa using hjoin.symm, not_mem_of_mem_splitOn hmem⟩

/-! ## The ISD -/

/-- **The ISD for both readers**: a number in range is the same for both; one that overflows is none
for the path manager. Kind: L -/
theorem isd_cases {before : Text} {isd : UInt64} {n : ℤ} (h : Isd.parse before = .ok isd)
    (hread : pyInt 10 before = .ok n) :
    (n = isd.toNat ∧ isd.toNat ≤ 65535) ∨ 2 ^ 64 ≤ n := by
  have hvalue : ∀ _ : AllDigits 10 before, n = valOf 10 before := fun hdigits =>
    ((pyInt_eq_ok_iff_of_digits (by norm_num) hdigits).mp hread).2.2.2
  rcases (Isd.parse_eq_ok_iff before isd).mp h with ⟨hnumber, hisd⟩ | ⟨hover, -⟩
  · left
    have hmax := hnumber.2.2
    rw [hvalue hnumber.2.1, hisd]
    exact ⟨rfl, hmax⟩
  · right
    have hmin := hover.2
    rw [hvalue hover.1]
    exact_mod_cast hmin

/-! ## The ASN -/

/-- The loop over a group that both readers read. Kind: L -/
theorem parseGroups_isGroup {i : ℕ} (hi : i ≤ 2) (asn : UInt64) {group : Text} {x : Fin (2 ^ 16)}
    (h : ASN.IsGroup group x) (rest : List Text) :
    ∃ v : UInt64, v.toNat = x ∧ Asn.parseGroups i asn (group :: rest)
      = Asn.parseGroups (i + 1) (asn ||| (v <<< UInt64.ofNat (16 * (2 - i)))) rest := by
  have hx := x.isLt
  have hdigits : AllDigits 16 group := h.digits
  have hptr := (fromChars_ptr_iff 16 group 0).mpr hdigits
  have hvalue := fromChars_value hdigits
  rw [h.value, if_pos (by omega)] at hvalue
  have hbad : ¬ (i > 2 ∨ group.length = 0) := by
    rw [List.length_eq_zero_iff]
    exact not_or.mpr ⟨not_lt.mpr hi, h.ne_nil⟩
  have hsmall : ¬ (fromChars 16 group 0).value > Asn.MAX_GROUP_VALUE := by
    rw [gt_iff_lt, UInt64.lt_iff_toNat_lt, hvalue]
    exact not_lt.mpr (Nat.le_of_lt_succ hx)
  refine ⟨_, hvalue, ?_⟩
  rw [Asn.parseGroups, if_neg hbad]
  simp only [hptr, ne_eq, not_true_eq_false, if_false, if_neg hsmall]

/-- Three groups that both readers read. Kind: L -/
theorem parseGroups_three (left : UInt64) {a b c : Text} {x y z : Fin (2 ^ 16)}
    (ha : ASN.IsGroup a x) (hb : ASN.IsGroup b y) (hc : ASN.IsGroup c z) {asn : UInt64}
    (h : Asn.parseGroups 0 left [a, b, c] = .ok asn) :
    asn.toNat = left.toNat ||| (x * 2 ^ 32 + y * 2 ^ 16 + z) := by
  have hy := y.isLt
  have hz := z.isLt
  obtain ⟨u, hu, hfirst⟩ := parseGroups_isGroup (show 0 ≤ 2 by norm_num) left ha [b, c]
  obtain ⟨v, hv, hsecond⟩ := parseGroups_isGroup (show 0 + 1 ≤ 2 by norm_num)
    (left ||| (u <<< UInt64.ofNat (16 * (2 - 0)))) hb [c]
  obtain ⟨w, hw, hthird⟩ := parseGroups_isGroup (show 0 + 1 + 1 ≤ 2 by norm_num)
    (left ||| (u <<< UInt64.ofNat (16 * (2 - 0))) ||| (v <<< UInt64.ofNat (16 * (2 - (0 + 1)))))
    hc []
  rw [hfirst, hsecond, hthird, Asn.parseGroups, if_neg (by norm_num)] at h
  obtain rfl := Except.ok.inj h
  have hgroups : (((x : ℕ) <<< 32) ||| ((y : ℕ) <<< 16)) ||| (z : ℕ)
      = x * 2 ^ 32 + y * 2 ^ 16 + z := by
    have hlow : (y : ℕ) <<< 16 < 2 ^ 32 := by
      rw [Nat.shiftLeft_eq]
      omega
    rw [or_shiftLeft hlow, Nat.shiftLeft_eq]
    exact or_eq_add_of_dvd (k := 16) (by omega) hz
  rw [UInt64.toNat_or, UInt64.toNat_or, UInt64.toNat_or,
    toNat_group_shiftLeft (by omega) (by decide), toNat_group_shiftLeft (by omega) (by decide),
    toNat_group_shiftLeft (by omega) (by decide),
    hu, hv, hw, ← hgroups, Nat.or_assoc, Nat.or_assoc, Nat.or_assoc]
  rfl

/-- One part, which both read as a decimal number. Kind: L -/
theorem asn_or_decimal {behind part : Text} (hsplit : behind.splitOn ':' = [part]) {asn : UInt64}
    {asn' : ASN} (h : Asn.parse behind = .ok asn) (hread : ASN.ofText behind = .ok asn') :
    asn.toNat = leftByFromChars behind ||| asn'.asnInt := by
  have hleft := fromChars_left behind
  obtain rfl := ASN.eq_of_splitOn_one hsplit
  obtain ⟨hint, hlt⟩ := (ASN.ofText_one_eq_ok_iff hsplit).mp hread
  rw [Asn.parse] at h
  by_cases hdecimal : (fromChars 10 behind 0).ptr = behind.length ∧
      (fromChars 10 behind 0).value ≤ Asn.MAX_VALUE
  · simp only [if_pos hdecimal, Except.ok.injEq] at h
    have hdigits := (fromChars_ptr_iff 10 behind 0).mp hdecimal.1
    have hvalue := fromChars_value hdigits
    have hnumber := ((pyInt_eq_ok_iff_of_digits (by norm_num) hdigits).mp hint).2.2.2
    have hsame : asn'.asnInt = valOf 10 behind := by exact_mod_cast hnumber
    rw [← hsame, if_pos (by omega), hleft] at hvalue
    rw [← h, hleft, hvalue, Nat.or_self]
  · simp only [if_neg hdecimal, hsplit] at h
    have htwo := ((Asn.parseGroups_accepts_iff (by norm_num) _ _).mp ⟨asn, h⟩).1
    simp at htwo

/-- Three parts: neither reads a decimal number, but one is left in the accumulator. Kind: L -/
theorem asn_or_groups {behind a b c : Text} (hsplit : behind.splitOn ':' = [a, b, c])
    {asn : UInt64} {asn' : ASN} (h : Asn.parse behind = .ok asn)
    (hread : ASN.ofText behind = .ok asn') :
    asn.toNat = leftByFromChars behind ||| asn'.asnInt := by
  have hdecimal : ¬ ((fromChars 10 behind 0).ptr = behind.length ∧
      (fromChars 10 behind 0).value ≤ Asn.MAX_VALUE) := by
    intro hdecimal
    have hone := Asn.length_groups_of_allDigits ((fromChars_ptr_iff 10 behind 0).mp hdecimal.1)
    rw [Asn.groups, hsplit] at hone
    simp at hone
  rw [Asn.parse] at h
  simp only [if_neg hdecimal, hsplit] at h
  have hgroups := ((Asn.parseGroups_accepts_iff (by norm_num) _ _).mp ⟨asn, h⟩).2.2
  obtain ⟨x, y, z, hx, hy, hz, hasn⟩ := (ASN.ofText_three_eq_ok_iff hsplit).mp hread
  have ha := (ASN.groupValue_eq_ok_iff (hgroups a (by simp)).2.1).mp hx
  have hb := (ASN.groupValue_eq_ok_iff (hgroups b (by simp)).2.1).mp hy
  have hc := (ASN.groupValue_eq_ok_iff (hgroups c (by simp)).2.1).mp hz
  rw [parseGroups_three _ ha hb hc h, fromChars_left, hasn]

/-- `ASN` reads texts in one part and in three parts. Kind: L -/
theorem splitOn_of_ofText {raw : Text} {asn : ASN} (h : ASN.ofText raw = .ok asn) :
    (∃ part, raw.splitOn ':' = [part]) ∨ ∃ a b c, raw.splitOn ':' = [a, b, c] := by
  unfold ASN.ofText at h
  split at h
  · next part hsplit => exact .inl ⟨part, hsplit⟩
  · next a b c hsplit => exact .inr ⟨a, b, c, hsplit⟩
  · cases h

/-- **The ASN for both readers**: the path manager adds the bits of the decimal number the text
starts with. Kind: L -/
theorem asn_or {behind : Text} {asn : UInt64} {asn' : ASN} (h : Asn.parse behind = .ok asn)
    (hread : ASN.ofText behind = .ok asn') :
    asn.toNat = leftByFromChars behind ||| asn'.asnInt := by
  rcases splitOn_of_ofText hread with ⟨part, hsplit⟩ | ⟨a, b, c, hsplit⟩
  · exact asn_or_decimal hsplit h hread
  · exact asn_or_groups hsplit h hread

/-! ## Both together -/

/-- **When the two programs read the same AS.** For every text that both accept: exactly if the ISD
has at most sixteen bits, and the decimal number that the ASN starts with has no bit that the
ISD-ASN has not. Kind: P -/
theorem readers_agree_iff {raw before behind : Text} {ia : UInt64} {isd : ℤ} {asn : ASN}
    (h : IsdAsn.parse raw = .ok ia) (hread : ReadsIsdAsn raw before behind isd asn) :
    (ia.toNat : ℤ) = isd * 2 ^ 48 + asn.asnInt ↔
      isd ≤ 65535 ∧ leftByFromChars behind ||| (isd.toNat * 2 ^ 48 + asn.asnInt)
        = isd.toNat * 2 ^ 48 + asn.asnInt := by
  obtain ⟨hraw, hnot⟩ := eq_of_splitOn_two hread.parts
  obtain ⟨before', behind', isdVal, asnVal, hraw', hnot', hisd, hasn, rfl⟩ :=
    (IsdAsn.parse_eq_ok_iff raw ia).mp h
  obtain ⟨rfl, rfl⟩ := append_cons_inj hnot hnot' (hraw.symm.trans hraw')
  have hor := asn_or hasn hread.asn
  have hasnlt := asn.asnInt_lt
  rcases isd_cases hisd hread.isd with ⟨hsame, hmax⟩ | hover
  · have hnat : isd.toNat = isdVal.toNat := by
      rw [hsame]
      exact Int.toNat_natCast _
    have hia : ((isdVal <<< 48) ||| asnVal).toNat
        = leftByFromChars behind ||| (isd.toNat * 2 ^ 48 + asn.asnInt) := by
      rw [UInt64.toNat_or, toNat_group_shiftLeft (by omega) (by decide), hor, hnat,
        ← or_shiftLeft hasnlt, Nat.or_left_comm]
      rfl
    rw [hia, and_iff_right (by omega), hsame, Int.toNat_natCast]
    exact_mod_cast Iff.rfl
  · have hlt := ((isdVal <<< 48) ||| asnVal).toNat_lt
    refine iff_of_false ?_ fun hc => absurd hc.1 (by omega)
    omega

/-- The text `1-2:0:2`, which both read as the AS `2:0:2` in ISD 1. Kind: C -/
theorem readers_agree_sample :
    ((0x1000200000002 : UInt64).toNat : ℤ) = 1 * 2 ^ 48 + (ASN.ofGroups 2 0 2).asnInt :=
  (@readers_agree_iff "1-2:0:2".toList "1".toList "2:0:2".toList 0x1000200000002 1
    (ASN.ofGroups 2 0 2) (by decide +kernel)
    ⟨rfl, by decide +kernel, by decide +kernel⟩).mpr (by decide +kernel)

/-- **The text `1-2:0:0` is another AS for the path manager**: `2:0:2`. Kind: C -/
theorem readers_differ :
    ReadsIsdAsn "1-2:0:0".toList "1".toList "2:0:0".toList 1 (ASN.ofGroups 2 0 0) ∧
      IsdAsn.parse "1-2:0:0".toList = .ok 0x1000200000002 :=
  ⟨⟨rfl, by decide +kernel, by decide +kernel⟩, by decide +kernel⟩

end ScionIp.Mixed
