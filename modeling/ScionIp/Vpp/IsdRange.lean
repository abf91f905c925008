import ScionIp.Lib.Cut
import ScionIp.Vpp.AsnGrammar

/-!
# Which ISD an accepted text gives

The text before the first hyphen is the ISD, a decimal number of at most 65535. Two texts get past
this check.

* A number that does not fit into 64 bits is consumed by `std::from_chars`, but leaves a zero, which
  is in range (`Isd.Overflows`).
* The decimal number the ASN starts with is left in the accumulator. Its bits from `2^48` on end up
  in the ISD (`SpillsIntoIsd`). That takes a first group of so many digits that its hexadecimal
  reading overflows as well.

`isdRight_iff` says that no other text is accepted with a wrong ISD.
-/

namespace ScionIp.Vpp

open ScionIp.Lib

/-! ## The number before the hyphen -/

namespace Isd

/-- The texts of ISDs. Kind: D -/
def IsNumber (raw : Text) : Prop := raw ≠ [] ∧ AllDigits 10 raw ∧ valOf 10 raw ≤ 65535

instance (raw : Text) : Decidable (IsNumber raw) := inferInstanceAs (Decidable (_ ∧ _))

/-- A decimal number that does not fit into 64 bits. Kind: D -/
def Overflows (raw : Text) : Prop := AllDigits 10 raw ∧ 2 ^ 64 ≤ valOf 10 raw

instance (raw : Text) : Decidable (Overflows raw) := inferInstanceAs (Decidable (_ ∧ _))

/-- A number that overflows has a digit. Kind: L -/
theorem Overflows.ne_nil {raw : Text} (h : Overflows raw) : raw ≠ [] := by
  rintro rfl
  exact absurd h.2 (by norm_num)

/-- A number in range does not overflow. Kind: L -/
theorem IsNumber.not_overflows {raw : Text} (h : IsNumber raw) : ¬ Overflows raw := by
  intro hover
  have hmax := h.2.2
  have hmin := hover.2
  omega

/-- What `Isd.parse` accepts: a text of digits that leaves a value in range. Kind: L -/
theorem parse_eq_ok_iff_value (raw : Text) (isd : UInt64) :
    parse raw = .ok isd ↔
      raw ≠ [] ∧ AllDigits 10 raw ∧ (fromChars 10 raw 0).value.toNat ≤ 65535 ∧
        (fromChars 10 raw 0).value = isd := by
  have hptr := fromChars_ptr_iff 10 raw 0
  have hmax : (fromChars 10 raw 0).value > MAX_VALUE
      ↔ 65535 < (fromChars 10 raw 0).value.toNat := UInt64.lt_iff_toNat_lt
  simp only [parse, hmax]
  by_cases hzero : (fromChars 10 raw 0).ptr = 0
  · rw [if_pos hzero]
    refine iff_of_false (fun h => by cases h) ?_
    rintro ⟨hne, hdigits, -⟩
    rw [hptr.mpr hdigits] at hzero
    exact hne (List.length_eq_zero_iff.mp hzero)
  rw [if_neg hzero]
  by_cases hall : (fromChars 10 raw 0).ptr = raw.length
  · have hne : raw ≠ [] := by
      rintro rfl
      exact hzero hall
    rw [if_neg (not_not.mpr hall), and_iff_right hne, and_iff_right (hptr.mp hall)]
    by_cases hlarge : 65535 < (fromChars 10 raw 0).value.toNat
    · rw [if_pos hlarge]
      exact iff_of_false (fun h => by cases h) (fun h => absurd h.1 (not_le.mpr hlarge))
    · rw [if_neg hlarge, and_iff_right (not_lt.mp hlarge), Except.ok.injEq]
  · rw [if_pos hall]
    exact iff_of_false (fun h => by cases h) (fun h => hall (hptr.mpr h.2.1))

/-- **What `Isd.parse` accepts**: a number in range, and a number that overflows, as zero.
Kind: L -/
theorem parse_eq_ok_iff (raw : Text) (isd : UInt64) :
    parse raw = .ok isd ↔
      (IsNumber raw ∧ isd.toNat = valOf 10 raw) ∨ (Overflows raw ∧ isd = 0) := by
  rw [parse_eq_ok_iff_value]
  constructor
  · rintro ⟨hne, hdigits, hrange, rfl⟩
    have hvalue := fromChars_value hdigits
    by_cases hfits : valOf 10 raw < 2 ^ 64
    · rw [if_pos hfits] at hvalue
      exact .inl ⟨⟨hne, hdigits, hvalue ▸ hrange⟩, hvalue⟩
    · rw [if_neg hfits] at hvalue
      exact .inr ⟨⟨hdigits, not_lt.mp hfits⟩, UInt64.toNat_inj.mp hvalue⟩
  · rintro (⟨⟨hne, hdigits, hrange⟩, hisd⟩ | ⟨hover, rfl⟩)
    · have hvalue := fromChars_value hdigits
      rw [if_pos (by omega), ← hisd] at hvalue
      exact ⟨hne, hdigits, by omega, UInt64.toNat_inj.mp hvalue⟩
    · have hvalue := fromChars_value hover.1
      rw [if_neg (not_lt.mpr hover.2)] at hvalue
      exact ⟨hover.ne_nil, hover.1, by omega, UInt64.toNat_inj.mp hvalue⟩

end Isd

/-! ## What the ASN adds to the ISD -/

/-- The decimal number at the start of a text, as `std::from_chars` leaves it in a variable that
was zero. Kind: D -/
def leftByFromChars (raw : Text) : ℕ :=
  if valOf 10 (digitRun 10 raw) < 2 ^ 64 then valOf 10 (digitRun 10 raw) else 0

/-- The value left behind, whether or not the whole text was consumed. Kind: L -/
theorem fromChars_left (raw : Text) :
    (fromChars 10 raw 0).value.toNat = leftByFromChars raw := by
  simp only [fromChars, leftByFromChars]
  by_cases hempty : (digitRun 10 raw).isEmpty = true
  · rw [if_pos hempty, List.isEmpty_iff.mp hempty, valOf_nil, ite_self]
    rfl
  · rw [if_neg hempty]
    by_cases hfits : valOf 10 (digitRun 10 raw) < 2 ^ 64
    · rw [if_pos hfits, if_pos hfits]
      exact UInt64.toNat_ofNat_of_lt' hfits
    · rw [if_neg hfits, if_neg hfits]
      rfl

/-- A group changes no bit from `2^48` on. Kind: L -/
theorem or_group_high {asn v k : UInt64} (hv : v.toNat < 2 ^ 16) (hk : k.toNat ≤ 32) :
    (asn ||| (v <<< k)).toNat / 2 ^ 48 = asn.toNat / 2 ^ 48 := by
  have hpow : 2 ^ k.toNat ≤ 2 ^ 32 := Nat.pow_le_pow_right (by norm_num) hk
  have hlow : v.toNat <<< k.toNat < 2 ^ 48 := by
    rw [Nat.shiftLeft_eq]
    calc v.toNat * 2 ^ k.toNat ≤ v.toNat * 2 ^ 32 := Nat.mul_le_mul_left _ hpow
      _ < 2 ^ 16 * 2 ^ 32 := Nat.mul_lt_mul_of_pos_right hv (by norm_num)
      _ = 2 ^ 48 := by norm_num
  rw [UInt64.toNat_or, toNat_group_shiftLeft hv (by omega), ← Nat.shiftRight_eq_div_pow,
    Nat.shiftRight_or_distrib, Nat.shiftRight_eq_div_pow (_ <<< _), Nat.div_eq_of_lt hlow,
    Nat.or_zero, Nat.shiftRight_eq_div_pow]

namespace Asn

/-- The loop over the groups changes no bit from `2^48` on. Kind: L -/
theorem parseGroups_high {i : ℕ} {asn r : UInt64} {rest : List Text}
    (h : parseGroups i asn rest = .ok r) : r.toNat / 2 ^ 48 = asn.toNat / 2 ^ 48 := by
  induction rest generalizing i asn with
  | nil =>
      rw [parseGroups] at h
      split_ifs at h
      cases h
      rfl
  | cons group rest ih =>
      rw [parseGroups] at h
      simp only at h
      split_ifs at h with hbad hptr hlarge
      have hv : (fromChars 16 group 0).value.toNat ≤ 0xffff :=
        UInt64.le_iff_toNat_le.mp (UInt64.not_lt.mp hlarge)
      have hk : (UInt64.ofNat (16 * (2 - i))).toNat ≤ 32 := by
        rw [UInt64.toNat_ofNat_of_lt' (show 16 * (2 - i) < UInt64.size by
          have : UInt64.size = 2 ^ 64 := rfl
          omega)]
        omega
      rw [ih h, or_group_high (by omega) hk]

/-- **The bits of an accepted ASN from `2^48` on** are those of the decimal number its text starts
with. Kind: L -/
theorem parse_high {raw : Text} {asn : UInt64} (h : parse raw = .ok asn) :
    asn.toNat / 2 ^ 48 = leftByFromChars raw / 2 ^ 48 := by
  rw [← fromChars_left]
  rw [parse] at h
  by_cases hread : (fromChars 10 raw 0).ptr = raw.length ∧ (fromChars 10 raw 0).value ≤ MAX_VALUE
  · simp only [if_pos hread, Except.ok.injEq] at h
    rw [h]
  · simp only [if_neg hread] at h
    exact parseGroups_high h

/-- **When the assertion of the constructor is violated**: for an accepted text, exactly if the
decimal number it starts with is left in the accumulator and does not fit into 48 bits.
Source: `isd_asn.hpp`, `Asn::Asn`. Kind: P -/
theorem parse_exceeds_iff {raw : Text} {asn : UInt64} (h : parse raw = .ok asn) :
    ¬ asn ≤ MAX_VALUE ↔ 2 ^ 48 ≤ leftByFromChars raw := by
  have hhigh := parse_high h
  have hmax : asn ≤ MAX_VALUE ↔ asn.toNat ≤ 0xffffffffffff := UInt64.le_iff_toNat_le
  rw [hmax]
  omega

end Asn

/-! ## Both halves together -/

/-- What is or-ed into a 64-bit number that holds an ISD on top. Kind: L -/
theorem getIsd_or {isd asn : UInt64} (hisd : isd.toNat < 2 ^ 16) :
    (IsdAsn.getIsd ((isd <<< 48) ||| asn)).toNat = isd.toNat ||| (asn.toNat / 2 ^ 48) := by
  rw [getIsd_toNat, UInt64.toNat_or, toNat_group_shiftLeft hisd (by decide),
    ← Nat.shiftRight_eq_div_pow, Nat.shiftRight_or_distrib, ← Nat.shiftRight_eq_div_pow]
  congr 1
  exact Nat.shiftLeft_shiftRight isd.toNat 48

/-- The text before the first hyphen, and the text behind it. Kind: L -/
theorem IsdAsn.parse_eq_ok_iff (raw : Text) (ia : UInt64) :
    IsdAsn.parse raw = .ok ia ↔
      ∃ before behind isd asn, raw = before ++ '-' :: behind ∧ '-' ∉ before ∧
        Isd.parse before = .ok isd ∧ Asn.parse behind = .ok asn ∧ ia = (isd <<< 48) ||| asn := by
  constructor
  · intro h
    rw [IsdAsn.parse] at h
    cases hrest : raw.dropWhile (· ≠ '-') with
    | nil =>
        rw [hrest] at h
        cases h
    | cons c behind =>
        obtain rfl := head_of_dropWhile_ne hrest
        obtain ⟨hraw, hnot⟩ := (cut_iff raw _ behind).mp ⟨rfl, hrest⟩
        rw [hrest] at h
        obtain ⟨isd, hisd, hrest'⟩ := bind_eq_ok_iff.mp h
        obtain ⟨asn, hasn, hia⟩ := bind_eq_ok_iff.mp hrest'
        exact ⟨_, behind, isd, asn, hraw, hnot, hisd, hasn, (Except.ok.inj hia).symm⟩
  · rintro ⟨before, behind, isd, asn, hraw, hnot, hisd, hasn, rfl⟩
    obtain ⟨htake, hdrop⟩ := (cut_iff raw before behind).mpr ⟨hraw, hnot⟩
    simp only [IsdAsn.parse, hdrop, htake, hisd, hasn, ok_bind]
    rfl

/-- **The ISD of an accepted text is the number before the first hyphen**, and that number is in
range. Kind: D -/
def IsdRight (raw : Text) : Prop :=
  ∀ ia, IsdAsn.parse raw = .ok ia →
    ∃ before behind, raw = before ++ '-' :: behind ∧ '-' ∉ before ∧ Isd.IsNumber before ∧
      (IsdAsn.getIsd ia).toNat = valOf 10 before

/-- The decimal number the ASN starts with sets a bit in the ISD. Kind: D -/
def SpillsIntoIsd (before behind : Text) : Prop :=
  valOf 10 before ||| leftByFromChars behind / 2 ^ 48 ≠ valOf 10 before

instance (before behind : Text) : Decidable (SpillsIntoIsd before behind) :=
  inferInstanceAs (Decidable (_ ≠ _))

/-- **The texts whose ISD goes wrong**: the ASN is one that is accepted, and the number before the
first hyphen overflows, or is in range and gets a bit from the ASN. Kind: D -/
def IsdMisread (raw : Text) : Prop :=
  ∃ before behind, raw = before ++ '-' :: behind ∧ '-' ∉ before ∧
    (Asn.InGrammar behind ∨ Asn.Misread behind) ∧
    (Isd.Overflows before ∨ (Isd.IsNumber before ∧ SpillsIntoIsd before behind))

/-- **When the ISD of an accepted text is right.** For every text: exactly if it is none of those
whose ISD goes wrong. Kind: P -/
theorem isdRight_iff (raw : Text) : IsdRight raw ↔ ¬ IsdMisread raw := by
  constructor
  · rintro hright ⟨before, behind, rfl, hnot, hasn, hwrong⟩
    obtain ⟨asn, hasn⟩ := (Asn.parse_accepts_iff behind).mpr hasn
    rcases hwrong with hover | ⟨hnumber, hspill⟩
    · have hisd := (Isd.parse_eq_ok_iff before 0).mpr (.inr ⟨hover, rfl⟩)
      obtain ⟨before', behind', heq, hnot', hnumber, -⟩ := hright _
        ((IsdAsn.parse_eq_ok_iff _ _).mpr ⟨before, behind, 0, asn, rfl, hnot, hisd, hasn, rfl⟩)
      obtain ⟨rfl, rfl⟩ := append_cons_inj hnot hnot' heq
      exact hnumber.not_overflows hover
    · have hmax := hnumber.2.2
      have hlt : valOf 10 before < UInt64.size := lt_of_le_of_lt hmax (by decide)
      have hvalue : (UInt64.ofNat (valOf 10 before)).toNat = valOf 10 before :=
        UInt64.toNat_ofNat_of_lt' hlt
      have hisd := (Isd.parse_eq_ok_iff before _).mpr (.inl ⟨hnumber, hvalue⟩)
      obtain ⟨before', behind', heq, hnot', -, hget⟩ := hright _
        ((IsdAsn.parse_eq_ok_iff _ _).mpr ⟨before, behind, _, asn, rfl, hnot, hisd, hasn, rfl⟩)
      obtain ⟨rfl, rfl⟩ := append_cons_inj hnot hnot' heq
      rw [getIsd_or (by omega), hvalue, Asn.parse_high hasn] at hget
      exact hspill hget
  · intro hno ia hia
    obtain ⟨before, behind, isd, asn, rfl, hnot, hisd, hasn, rfl⟩ :=
      (IsdAsn.parse_eq_ok_iff _ _).mp hia
    have haccepted := (Asn.parse_accepts_iff behind).mp ⟨asn, hasn⟩
    rcases (Isd.parse_eq_ok_iff before isd).mp hisd with ⟨hnumber, hvalue⟩ | ⟨hover, -⟩
    · have hmax := hnumber.2.2
      refine ⟨before, behind, rfl, hnot, hnumber, ?_⟩
      rw [getIsd_or (by omega), hvalue, Asn.parse_high hasn]
      by_contra hspill
      exact hno ⟨before, behind, rfl, hnot, haccepted, .inr ⟨hnumber, hspill⟩⟩
    · exact absurd ⟨before, behind, rfl, hnot, haccepted, .inl hover⟩ hno

/-- **Texts accepted with a wrong ISD**: `18446744073709551616-1` as ISD 0, and
`1-999999999999999999:0:0`, where the ASN sets bits of the ISD. Kind: C -/
theorem isd_out_of_range_accepted :
    ¬ IsdRight "18446744073709551616-1".toList ∧
      ¬ IsdRight "1-999999999999999999:0:0".toList := by
  constructor
  · intro hright
    obtain ⟨before, behind, heq, hnot, hnumber, -⟩ := hright 1 (by decide +kernel)
    obtain ⟨rfl, -⟩ := @append_cons_inj _ _ '-' "18446744073709551616".toList before "1".toList
      behind (by decide) hnot heq
    exact absurd hnumber (by decide)
  · intro hright
    obtain ⟨before, behind, heq, hnot, -, hget⟩ := hright 0xde1b6b3a763ffff (by decide +kernel)
    obtain ⟨rfl, -⟩ := @append_cons_inj _ _ '-' "1".toList before
      "999999999999999999:0:0".toList behind (by decide) hnot heq
    exact absurd hget (by decide)

end ScionIp.Vpp
