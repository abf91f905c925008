import ScionIp.Lib.Bits
import ScionIp.Lib.Cut
import ScionIp.Lib.Digits

/-!
# ISD-ASNs of the VPP path manager: printing and parsing

* `fromChars` — `std::from_chars` for a 64-bit unsigned integer: an overflowing run of digits is
  consumed, but the value is left as it was.
* `Isd.parse`, `Asn.parse`, `IsdAsn.parse` and the texts the stream operators print.
* `Asn.parse` reads the text as a decimal number first. When that reading stops at a colon its value
  stays in the accumulator that the hexadecimal groups are then or-ed into. So the text of an ASN
  above `2^32 - 1` is read back exactly when the decimal digits its first group starts with have no
  bit outside the last group (`parse_print_iff`).
-/

namespace ScionIp.Vpp

open ScionIp.Lib

/-- Source: `std::errc`, with the value that means success. Kind: D -/
inductive Errc where
  | success
  | invalid_argument
  | result_out_of_range
  deriving DecidableEq, Repr

/-- `std::from_chars_result`, with the position as an offset, and the value left in the argument.
Kind: D -/
structure FromCharsResult where
  ptr : ℕ
  ec : Errc
  value : UInt64

/-- `std::from_chars` on a 64-bit unsigned integer that holds `value`. Kind: D -/
def fromChars (base : ℕ) (raw : Text) (value : UInt64) : FromCharsResult :=
  let run := digitRun base raw
  if run.isEmpty then ⟨0, .invalid_argument, value⟩
  else if valOf base run < 2 ^ 64 then ⟨run.length, .success, UInt64.ofNat (valOf base run)⟩
  else ⟨run.length, .result_out_of_range, value⟩

namespace Isd

/-- Source: `isd_asn.hpp`, `Isd::MAX_VALUE`. Kind: D -/
def MAX_VALUE : UInt64 := 0xffff

/-- Source: `isd_asn.hpp`, `Isd::Parse`. Kind: D -/
def parse (raw : Text) : Except Errc UInt64 :=
  let res := fromChars 10 raw 0
  if res.ptr = 0 then .error res.ec
  else if res.ptr ≠ raw.length then .error .invalid_argument
  else if res.value > MAX_VALUE then .error .result_out_of_range
  else .ok res.value

/-- Source: `isd_asn.hpp`, `operator<<(std::ostream&, Isd)`. Kind: D -/
def print (isd : UInt64) : Text := Nat.toDigits 10 isd.toNat

end Isd

namespace Asn

/-- Source: `isd_asn.hpp`, `Asn::MAX_VALUE`. Kind: D -/
def MAX_VALUE : UInt64 := 0xffffffffffff

/-- Source: `isd_asn.hpp`, `Asn::MAX_BGP_VALUE`. Kind: D -/
def MAX_BGP_VALUE : UInt64 := 0xffffffff

/-- Source: `isd_asn.hpp`, `Asn::Parse`. Kind: D -/
def MAX_GROUP_VALUE : UInt64 := 0xffff

/-- The loop over the groups: `i` groups are done, `asn` is the accumulator.
Source: `isd_asn.hpp`, `Asn::Parse`. Kind: D -/
def parseGroups : ℕ → UInt64 → List Text → Except Errc UInt64
  | i, asn, [] => if i < 2 then .error .invalid_argument else .ok asn
  | i, asn, group :: groups =>
      if i > 2 ∨ group.length = 0 then .error .invalid_argument
      else
        let res := fromChars 16 group 0
        if res.ptr ≠ group.length then .error .invalid_argument
        else if res.value > MAX_GROUP_VALUE then .error .invalid_argument
        else parseGroups (i + 1) (asn ||| (res.value <<< UInt64.ofNat (16 * (2 - i)))) groups

/-- Source: `isd_asn.hpp`, `Asn::Parse`. Kind: D -/
def parse (raw : Text) : Except Errc UInt64 :=
  let res := fromChars 10 raw 0
  if res.ptr = raw.length ∧ res.value ≤ MAX_VALUE then .ok res.value
  else parseGroups 0 res.value (raw.splitOn ':')

/-- Source: `isd_asn.hpp`, `operator<<(std::ostream&, Asn)`. Kind: D -/
def print (asn : UInt64) : Text :=
  if asn ≤ MAX_BGP_VALUE then Nat.toDigits 10 asn.toNat
  else
    Nat.toDigits 16 ((asn >>> 32) &&& 0xffff).toNat ++ ':' ::
      (Nat.toDigits 16 ((asn >>> 16) &&& 0xffff).toNat ++ ':' ::
        Nat.toDigits 16 (asn &&& 0xffff).toNat)

end Asn

namespace IsdAsn

/-- Source: `isd_asn.hpp`, `IsdAsn::getIsd`. Kind: D -/
def getIsd (ia : UInt64) : UInt64 := ia >>> 48

/-- Source: `isd_asn.hpp`, `IsdAsn::getAsn`. Kind: D -/
def getAsn (ia : UInt64) : UInt64 := ia &&& 0xffffffffffff

/-- Source: `isd_asn.hpp`, `IsdAsn::Parse`. Kind: D -/
def parse (raw : Text) : Except Errc UInt64 :=
  match raw.dropWhile (· ≠ '-') with
  | [] => .error .invalid_argument
  | _ :: rest => do
      let isd ← Isd.parse (raw.takeWhile (· ≠ '-'))
      let asn ← Asn.parse rest
      return (isd <<< 48) ||| asn

/-- Source: `isd_asn.hpp`, `operator<<(std::ostream&, IsdAsn)`. Kind: D -/
def print (ia : UInt64) : Text := Isd.print (getIsd ia) ++ '-' :: Asn.print (getAsn ia)

end IsdAsn

/-! ## Reading one number -/

/-- The text of a number, followed by something that is no digit. Kind: L -/
theorem fromChars_toDigits {base : ℕ} (hb : 1 < base) (hb16 : base ≤ 16) {n : ℕ} (hn : n < 2 ^ 64)
    {rest : Text} (hrest : digitRun base rest = []) (value : UInt64) :
    fromChars base (Nat.toDigits base n ++ rest) value
      = ⟨(Nat.toDigits base n).length, .success, UInt64.ofNat n⟩ := by
  have hrun := digitRun_toDigits_append hb hb16 n hrest
  have hne : (Nat.toDigits base n).isEmpty = false := by
    rw [List.isEmpty_eq_false_iff]
    exact Nat.toDigits_ne_nil
  simp only [fromChars, hrun, hne, valOf_toDigits hb hb16, hn, if_true, Bool.false_eq_true,
    if_false]

/-- The text of a number on its own. Kind: L -/
theorem fromChars_toDigits_self {base : ℕ} (hb : 1 < base) (hb16 : base ≤ 16) {n : ℕ}
    (hn : n < 2 ^ 64) (value : UInt64) :
    fromChars base (Nat.toDigits base n) value
      = ⟨(Nat.toDigits base n).length, .success, UInt64.ofNat n⟩ := by
  have h := @fromChars_toDigits base hb hb16 n hn [] rfl value
  rwa [List.append_nil] at h

/-- A 64-bit number in decimal. Kind: L -/
theorem fromChars_decimal (n value : UInt64) :
    fromChars 10 (Nat.toDigits 10 n.toNat) value
      = ⟨(Nat.toDigits 10 n.toNat).length, .success, n⟩ := by
  rw [fromChars_toDigits_self (by norm_num) (by norm_num) n.toNat_lt, UInt64.ofNat_toNat]

/-- **An ISD is read back.** Kind: L -/
theorem Isd.parse_print {isd : UInt64} (h : isd ≤ Isd.MAX_VALUE) :
    Isd.parse (Isd.print isd) = .ok isd := by
  have hpos : (Nat.toDigits 10 isd.toNat).length ≠ 0 := by
    rw [ne_eq, List.length_eq_zero_iff]
    exact Nat.toDigits_ne_nil
  simp only [Isd.parse, Isd.print, fromChars_decimal, if_neg hpos, ne_eq, not_true_eq_false,
    if_false, gt_iff_lt, if_neg (UInt64.not_lt.mpr h)]

/-- **An ASN printed in decimal is read back.** Kind: L -/
theorem Asn.parse_print_of_bgp {asn : UInt64} (h : asn ≤ Asn.MAX_BGP_VALUE) :
    Asn.parse (Asn.print asn) = .ok asn := by
  have hmax : asn ≤ Asn.MAX_VALUE := UInt64.le_trans h (by decide)
  simp only [Asn.parse, Asn.print, if_pos h, fromChars_decimal, hmax, and_self, if_true]

/-! ## Reading three groups -/

/-- The decimal number a hexadecimal group starts with, zero if it starts with a letter. Kind: D -/
def leadingDecimal (group : ℕ) : ℕ := valOf 10 (digitRun 10 (Nat.toDigits 16 group))

/-- A group has at most four digits. Kind: L -/
theorem leadingDecimal_lt {group : ℕ} (h : group < 2 ^ 16) : leadingDecimal group < 2 ^ 16 := by
  have hlen : (Nat.toDigits 16 group).length ≤ 4 :=
    (Nat.length_toDigits_le_iff (by norm_num) (by norm_num)).mpr (by omega)
  have hrun : (digitRun 10 (Nat.toDigits 16 group)).length ≤ 4 :=
    (length_digitRun_le 10 _).trans hlen
  calc leadingDecimal group < 10 ^ (digitRun 10 (Nat.toDigits 16 group)).length :=
        valOf_lt fun c hc => isDigitOf_of_mem_digitRun hc
    _ ≤ 10 ^ 4 := Nat.pow_le_pow_right (by norm_num) hrun
    _ < 2 ^ 16 := by norm_num

/-- A decimal reading of a text with a colon stops at the colon at the latest, and leaves the
leading decimal number of the first group. Kind: L -/
theorem fromChars_group_colon {group : ℕ} (h : group < 2 ^ 16) (rest : Text) :
    (fromChars 10 (Nat.toDigits 16 group ++ ':' :: rest) 0).ptr
        ≠ (Nat.toDigits 16 group ++ ':' :: rest).length ∧
      (fromChars 10 (Nat.toDigits 16 group ++ ':' :: rest) 0).value
        = UInt64.ofNat (leadingDecimal group) := by
  have hrun := digitRun_append_cons (b := 10) (Nat.toDigits 16 group) (c := ':') (by decide) rest
  have hle := length_digitRun_le 10 (Nat.toDigits 16 group)
  have hlt : leadingDecimal group < 2 ^ 64 := (leadingDecimal_lt h).trans (by norm_num)
  rw [leadingDecimal] at hlt
  have hlen : (Nat.toDigits 16 group ++ ':' :: rest).length
      = (Nat.toDigits 16 group).length + rest.length + 1 := by
    rw [List.length_append, List.length_cons, Nat.add_assoc]
  rw [hlen]
  simp only [fromChars, hrun, hlt, if_true]
  by_cases hempty : (digitRun 10 (Nat.toDigits 16 group)).isEmpty = true
  · have hnil := List.isEmpty_iff.mp hempty
    simp only [hnil, List.isEmpty_nil, if_true, leadingDecimal, valOf_nil]
    exact ⟨by omega, rfl⟩
  · simp only [hempty, if_false, Bool.false_eq_true, leadingDecimal]
    exact ⟨by omega, trivial⟩

/-- One group of the loop. Kind: L -/
theorem parseGroups_cons {i : ℕ} (hi : i ≤ 2) (asn : UInt64) {group : UInt64}
    (h : group ≤ Asn.MAX_GROUP_VALUE) (groups : List Text) :
    Asn.parseGroups i asn (Nat.toDigits 16 group.toNat :: groups)
      = Asn.parseGroups (i + 1) (asn ||| (group <<< UInt64.ofNat (16 * (2 - i)))) groups := by
  have hne : ¬ (i > 2 ∨ (Nat.toDigits 16 group.toNat).length = 0) := by
    rw [List.length_eq_zero_iff]
    exact not_or.mpr ⟨not_lt.mpr hi, Nat.toDigits_ne_nil⟩
  rw [Asn.parseGroups, if_neg hne]
  simp only [fromChars_toDigits_self (show 1 < 16 by norm_num) le_rfl group.toNat_lt,
    UInt64.ofNat_toNat, ne_eq, not_true_eq_false, if_false, gt_iff_lt,
    if_neg (UInt64.not_lt.mpr h)]

/-- The text of three groups is cut at its colons. Kind: L -/
theorem splitOn_groups (a b c : ℕ) :
    (Nat.toDigits 16 a ++ ':' :: (Nat.toDigits 16 b ++ ':' :: Nat.toDigits 16 c)).splitOn ':'
      = [Nat.toDigits 16 a, Nat.toDigits 16 b, Nat.toDigits 16 c] := by
  have hcolon : ∀ n, ':' ∉ Nat.toDigits 16 n := fun n =>
    not_mem_toDigits (by norm_num) le_rfl n (by decide)
  rw [List.splitOn_append_cons_self_of_not_mem (hcolon a),
    List.splitOn_append_cons_self_of_not_mem (hcolon b), List.splitOn_eq_singleton (hcolon c)]

/-- What is read for an ASN printed in three groups: its groups, and the leading decimal number of
the first one on top of the last one. Kind: L -/
theorem Asn.parse_print_of_scion {asn : UInt64} (h : ¬ asn ≤ Asn.MAX_BGP_VALUE) :
    Asn.parse (Asn.print asn) = .ok (UInt64.ofNat (leadingDecimal ((asn >>> 32) &&& 0xffff).toNat)
      ||| (((asn >>> 32) &&& 0xffff) <<< 32) ||| (((asn >>> 16) &&& 0xffff) <<< 16)
      ||| (asn &&& 0xffff)) := by
  have hgroup : ∀ v : UInt64, v &&& 0xffff ≤ Asn.MAX_GROUP_VALUE := by
    intro v
    rw [UInt64.le_iff_toNat_le, UInt64.toNat_and]
    exact Nat.and_le_right
  have hlt : ((asn >>> 32) &&& 0xffff).toNat < 2 ^ 16 := by
    have := UInt64.le_iff_toNat_le.mp (hgroup (asn >>> 32))
    exact lt_of_le_of_lt this (by decide)
  obtain ⟨hptr, hvalue⟩ := fromChars_group_colon hlt
    (Nat.toDigits 16 ((asn >>> 16) &&& 0xffff).toNat ++ ':' ::
      Nat.toDigits 16 (asn &&& 0xffff).toNat)
  rw [Asn.print, if_neg h, Asn.parse]
  simp only [hptr, false_and, if_false, hvalue, splitOn_groups]
  rw [parseGroups_cons (by norm_num) _ (hgroup _), parseGroups_cons (by norm_num) _ (hgroup _),
    parseGroups_cons (by norm_num) _ (hgroup _), Asn.parseGroups, if_neg (by norm_num)]
  simp

/-! ## The round trip -/

/-- The ASN, seen as a number below `2^48`, is read back: it is printed in decimal, or the decimal
number its first group starts with has no bit outside its last group. Kind: D -/
def AsnReadsBack (asn : ℕ) : Prop :=
  asn < 2 ^ 32 ∨ leadingDecimal (asn / 2 ^ 32) ||| asn % 2 ^ 16 = asn % 2 ^ 16

instance (asn : ℕ) : Decidable (AsnReadsBack asn) :=
  inferInstanceAs (Decidable (_ ∨ _))

/-- What is or-ed into a group changes the number exactly when it changes the group. Kind: L -/
theorem leading_or_groups {leading a b c : ℕ} (hleading : leading < 2 ^ 16) (hb : b < 2 ^ 16)
    (hc : c < 2 ^ 16) :
    leading ||| (a <<< 32) ||| (b <<< 16) ||| c
      = a * 2 ^ 32 + b * 2 ^ 16 + (leading ||| c) := by
  have hlow : leading ||| c < 2 ^ 16 := Nat.or_lt_two_pow hleading hc
  have hhigh : (a <<< 32) ||| (b <<< 16) = a * 2 ^ 32 + b * 2 ^ 16 := by
    rw [Nat.shiftLeft_eq b]
    exact or_shiftLeft (by omega) a
  calc leading ||| (a <<< 32) ||| (b <<< 16) ||| c
      = ((a <<< 32) ||| (b <<< 16)) ||| (leading ||| c) := by
        rw [Nat.or_assoc leading, Nat.or_comm leading, Nat.or_assoc]
    _ = a * 2 ^ 32 + b * 2 ^ 16 + (leading ||| c) := by
        rw [hhigh]
        exact or_eq_add_of_dvd (k := 16) (by omega) hlow

/-- A group stays whole when it is shifted to its place. Kind: L -/
theorem toNat_group_shiftLeft {v k : UInt64} (hv : v.toNat < 2 ^ 16) (hk : k.toNat ≤ 48) :
    (v <<< k).toNat = v.toNat <<< k.toNat := by
  rw [UInt64.toNat_shiftLeft, Nat.mod_eq_of_lt (show k.toNat < 64 by omega), Nat.shiftLeft_eq]
  have hpow : 2 ^ k.toNat ≤ 2 ^ 48 := Nat.pow_le_pow_right (by norm_num) hk
  exact Nat.mod_eq_of_lt (by nlinarith)

/-- The number read for an ASN printed in three groups: only its last group may differ. Kind: L -/
theorem toNat_read_groups {asn : UInt64} (h : asn.toNat < 2 ^ 48) :
    (UInt64.ofNat (leadingDecimal ((asn >>> 32) &&& 0xffff).toNat)
      ||| (((asn >>> 32) &&& 0xffff) <<< 32) ||| (((asn >>> 16) &&& 0xffff) <<< 16)
      ||| (asn &&& 0xffff)).toNat
      = asn.toNat / 2 ^ 32 * 2 ^ 32 + asn.toNat / 2 ^ 16 % 2 ^ 16 * 2 ^ 16
        + (leadingDecimal (asn.toNat / 2 ^ 32) ||| asn.toNat % 2 ^ 16) := by
  have hfirst : ((asn >>> 32) &&& 0xffff).toNat = asn.toNat / 2 ^ 32 := by
    have hfield : ((asn >>> 32) &&& 0xffff).toNat = asn.toNat / 2 ^ 32 % 2 ^ 16 :=
      shiftRight_and_ones asn.toNat 32 16
    rw [hfield, Nat.mod_eq_of_lt (by omega)]
  have hsecond : ((asn >>> 16) &&& 0xffff).toNat = asn.toNat / 2 ^ 16 % 2 ^ 16 :=
    shiftRight_and_ones asn.toNat 16 16
  have hthird : (asn &&& 0xffff).toNat = asn.toNat % 2 ^ 16 :=
    Nat.and_two_pow_sub_one_eq_mod asn.toNat 16
  have hleading : leadingDecimal (asn.toNat / 2 ^ 32) < 2 ^ 16 := leadingDecimal_lt (by omega)
  have hsize : leadingDecimal ((asn >>> 32) &&& 0xffff).toNat < UInt64.size := by
    rw [hfirst]
    exact hleading.trans (by decide)
  rw [← leading_or_groups hleading (Nat.mod_lt _ (by norm_num)) (Nat.mod_lt _ (by norm_num)),
    UInt64.toNat_or, UInt64.toNat_or, UInt64.toNat_or, UInt64.toNat_ofNat_of_lt' hsize,
    toNat_group_shiftLeft (by omega) (by decide), toNat_group_shiftLeft (by omega) (by decide),
    hfirst, hsecond, hthird]
  rfl

/-- **The round trip of an ASN.** It succeeds always; it returns the ASN under `AsnReadsBack` only.
Kind: L -/
theorem Asn.parse_print {asn : UInt64} (h : asn ≤ Asn.MAX_VALUE) :
    ∃ asn', Asn.parse (Asn.print asn) = .ok asn' ∧ asn'.toNat < 2 ^ 48 ∧
      (asn' = asn ↔ AsnReadsBack asn.toNat) := by
  have hmax : asn.toNat < 2 ^ 48 := lt_of_le_of_lt (UInt64.le_iff_toNat_le.mp h) (by decide)
  by_cases hbgp : asn ≤ Asn.MAX_BGP_VALUE
  · have hlt : asn.toNat < 2 ^ 32 := lt_of_le_of_lt (UInt64.le_iff_toNat_le.mp hbgp) (by decide)
    exact ⟨asn, Asn.parse_print_of_bgp hbgp, hmax, iff_of_true rfl (Or.inl hlt)⟩
  · have hge : ¬ asn.toNat < 2 ^ 32 := fun hlt =>
      hbgp (UInt64.le_iff_toNat_le.mpr (Nat.le_of_lt_succ hlt))
    have hlast : leadingDecimal (asn.toNat / 2 ^ 32) ||| asn.toNat % 2 ^ 16 < 2 ^ 16 :=
      Nat.or_lt_two_pow (leadingDecimal_lt (by omega)) (Nat.mod_lt _ (by norm_num))
    refine ⟨_, Asn.parse_print_of_scion hbgp, ?_⟩
    rw [← UInt64.toNat_inj, toNat_read_groups hmax, AsnReadsBack]
    omega

/-- The ISD of a 64-bit number. Kind: L -/
theorem getIsd_toNat (ia : UInt64) : (IsdAsn.getIsd ia).toNat = ia.toNat / 2 ^ 48 :=
  Nat.shiftRight_eq_div_pow ia.toNat 48

/-- The ASN of a 64-bit number. Kind: L -/
theorem getAsn_toNat (ia : UInt64) : (IsdAsn.getAsn ia).toNat = ia.toNat % 2 ^ 48 :=
  Nat.and_two_pow_sub_one_eq_mod ia.toNat 48

/-- An ISD put in front of an ASN. Kind: L -/
theorem toNat_isd_or_asn {isd asn : UInt64} (hisd : isd.toNat < 2 ^ 16)
    (hasn : asn.toNat < 2 ^ 48) :
    ((isd <<< 48) ||| asn).toNat = isd.toNat * 2 ^ 48 + asn.toNat := by
  rw [UInt64.toNat_or, toNat_group_shiftLeft hisd (by decide)]
  exact or_shiftLeft hasn isd.toNat

/-- The text of an ISD-ASN is cut at its hyphen. Kind: L -/
theorem IsdAsn.parse_append (isd : UInt64) (asn : Text) :
    IsdAsn.parse (Isd.print isd ++ '-' :: asn) = (do
      let isd ← Isd.parse (Isd.print isd)
      let asn ← Asn.parse asn
      return (isd <<< 48) ||| asn) := by
  have hnot : '-' ∉ Isd.print isd :=
    not_mem_toDigits (by norm_num) (by norm_num) isd.toNat (by decide)
  obtain ⟨htake, hdrop⟩ := (cut_iff _ (Isd.print isd) asn).mpr ⟨rfl, hnot⟩
  simp only [IsdAsn.parse, hdrop, htake]

/-- **The round trip of an ISD-ASN.** It succeeds always; it returns the number under
`AsnReadsBack` only. Kind: L -/
theorem IsdAsn.parse_print (ia : UInt64) :
    ∃ ia', IsdAsn.parse (IsdAsn.print ia) = .ok ia' ∧
      (ia' = ia ↔ AsnReadsBack (ia.toNat % 2 ^ 48)) := by
  have hia := ia.toNat_lt
  have hisd : (IsdAsn.getIsd ia).toNat < 2 ^ 16 := by
    rw [getIsd_toNat]
    omega
  have hasn : (IsdAsn.getAsn ia).toNat < 2 ^ 48 := by
    rw [getAsn_toNat]
    omega
  obtain ⟨asn', hread, hlt, hiff⟩ := Asn.parse_print
    (UInt64.le_iff_toNat_le.mpr (Nat.le_of_lt_succ hasn))
  refine ⟨(IsdAsn.getIsd ia <<< 48) ||| asn', ?_, ?_⟩
  · rw [IsdAsn.print, IsdAsn.parse_append,
      Isd.parse_print (UInt64.le_iff_toNat_le.mpr (Nat.le_of_lt_succ hisd)), hread]
    rfl
  · rw [← getAsn_toNat, ← hiff, ← UInt64.toNat_inj, ← UInt64.toNat_inj,
      toNat_isd_or_asn hisd hlt, getIsd_toNat, getAsn_toNat]
    omega

/-- **When the text of an ISD-ASN is read back.** For every 64-bit number, `IsdAsn.parse` applied to
its text succeeds with that number if and only if its ASN is below `2^32` or the decimal number the
first group of the ASN starts with has no bit outside the last group. Kind: P -/
theorem parse_print_iff (ia : UInt64) :
    IsdAsn.parse (IsdAsn.print ia) = .ok ia ↔ AsnReadsBack (ia.toNat % 2 ^ 48) := by
  obtain ⟨ia', hread, hiff⟩ := IsdAsn.parse_print ia
  rw [hread, Except.ok.injEq]
  exact hiff

/-- **Not every ISD-ASN is read back**: the text of `1-2:0:0` is read as `1-2:0:2`. Kind: C -/
theorem parse_print_ne :
    ¬ ∀ ia : UInt64, IsdAsn.parse (IsdAsn.print ia) = .ok ia := by
  intro hall
  have hread : IsdAsn.parse (IsdAsn.print 0x0001000200000000) = .ok 0x0001000200000002 := by
    decide +kernel
  have hself := hall 0x0001000200000000
  rw [hread] at hself
  cases hself

end ScionIp.Vpp
