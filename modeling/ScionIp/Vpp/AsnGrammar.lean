import ScionIp.Lib.Raises
import ScionIp.Vpp.IsdAsn

/-!
# Which texts are read as an ASN

The grammar of an ASN has two kinds of texts: decimal numbers below `2^32`, and three groups of one
to four hexadecimal digits.

* `InGrammar` — this grammar, as it is documented.
* `Misread` — the other texts `Asn.parse` accepts. An overflow of `std::from_chars` is not looked
  at, so a number that does not fit into 64 bits passes every bound check as zero (`Passes`).
* `parse_accepts_iff` — `Asn.parse` accepts these two kinds of texts and no other ones.
-/

namespace ScionIp.Vpp

open ScionIp.Lib

/-! ## The grammar -/

/-- The text consists of digits. Kind: D -/
def AllDigits (base : ℕ) (raw : Text) : Prop := ∀ c ∈ raw, isDigitOf base c = true

instance (base : ℕ) (raw : Text) : Decidable (AllDigits base raw) :=
  List.decidableBAll (fun c => isDigitOf base c = true) raw

namespace Asn

/-- The groups of a text. Kind: D -/
def groups (raw : Text) : List Text := raw.splitOn ':'

/-- **The texts of ASNs**, as the comment describes them.
Source: `isd_asn.hpp`, `Asn::Parse`. Kind: D -/
def InGrammar (raw : Text) : Prop :=
  (raw ≠ [] ∧ AllDigits 10 raw ∧ valOf 10 raw ≤ 2 ^ 32 - 1) ∨
    ((groups raw).length = 3 ∧
      ∀ group ∈ groups raw, 1 ≤ group.length ∧ group.length ≤ 4 ∧ AllDigits 16 group)

instance (raw : Text) : Decidable (InGrammar raw) := inferInstanceAs (Decidable (_ ∨ _))

/-- A number that passes the check against a bound: it is below the bound, or it does not fit into
64 bits. Kind: D -/
def Passes (bound n : ℕ) : Prop := n < bound ∨ 2 ^ 64 ≤ n

/-- A group that is read. Kind: D -/
def GroupRead (group : Text) : Prop :=
  group ≠ [] ∧ AllDigits 16 group ∧ Passes (2 ^ 16) (valOf 16 group)

/-- **Texts outside the grammar that are read**: nothing at all, too large a decimal number, two
groups instead of three, and three groups one of which is too long. Kind: D -/
inductive Misread (raw : Text) : Prop
  | empty : raw = [] → Misread raw
  | decimal : AllDigits 10 raw → 2 ^ 32 ≤ valOf 10 raw → Passes (2 ^ 48) (valOf 10 raw) →
      Misread raw
  | twoGroups : (groups raw).length = 2 → (∀ group ∈ groups raw, GroupRead group) → Misread raw
  | longGroup : (groups raw).length = 3 → (∀ group ∈ groups raw, GroupRead group) →
      (∃ group ∈ groups raw, 4 < group.length) → Misread raw

end Asn

/-! ## Reading one number -/

/-- The digits a text starts with are the whole text. Kind: L -/
theorem length_digitRun_eq_iff (base : ℕ) (raw : Text) :
    (digitRun base raw).length = raw.length ↔ AllDigits base raw := by
  rw [AllDigits, ← List.takeWhile_eq_self_iff]
  constructor
  · intro hlen
    exact (List.takeWhile_sublist _).eq_of_length hlen
  · intro hself
    rw [digitRun, hself]

/-- The whole text is consumed exactly if it consists of digits, an empty text included. Kind: L -/
theorem fromChars_ptr_iff (base : ℕ) (raw : Text) (value : UInt64) :
    (fromChars base raw value).ptr = raw.length ↔ AllDigits base raw := by
  have hptr : (fromChars base raw value).ptr = (digitRun base raw).length := by
    simp only [fromChars]
    split_ifs with hempty hlt
    · rw [List.isEmpty_iff.mp hempty, List.length_nil]
    · rfl
    · rfl
  rw [hptr, length_digitRun_eq_iff]

/-- The number of a text of digits, left at zero by an overflow. Kind: L -/
theorem fromChars_value {base : ℕ} {raw : Text} (h : AllDigits base raw) :
    (fromChars base raw 0).value.toNat = if valOf base raw < 2 ^ 64 then valOf base raw else 0 := by
  have hrun : digitRun base raw = raw := List.takeWhile_eq_self_iff.mpr h
  simp only [fromChars, hrun]
  by_cases hempty : raw.isEmpty = true
  · rw [if_pos hempty, List.isEmpty_iff.mp hempty, valOf_nil, ite_self]
    rfl
  · rw [if_neg hempty]
    by_cases hlt : valOf base raw < 2 ^ 64
    · rw [if_pos hlt, if_pos hlt]
      exact UInt64.toNat_ofNat_of_lt' hlt
    · rw [if_neg hlt, if_neg hlt]
      rfl

/-- When a check against a bound is passed. Kind: L -/
theorem fromChars_passes_iff {base : ℕ} {raw : Text} (h : AllDigits base raw) {bound : ℕ}
    (hpos : 0 < bound) (hbound : bound ≤ 2 ^ 64) :
    (fromChars base raw 0).value.toNat < bound ↔ Asn.Passes bound (valOf base raw) := by
  rw [fromChars_value h, Asn.Passes]
  split_ifs with hlt
  · omega
  · omega

/-! ## What is accepted -/

namespace Asn

/-- **The loop accepts two or three groups that are read.** Kind: L -/
theorem parseGroups_accepts_iff {i : ℕ} (hi : i ≤ 3) (asn : UInt64) (rest : List Text) :
    (∃ r, parseGroups i asn rest = .ok r) ↔
      2 ≤ i + rest.length ∧ i + rest.length ≤ 3 ∧ ∀ group ∈ rest, GroupRead group := by
  induction rest generalizing i asn with
  | nil =>
      rw [parseGroups, List.length_nil]
      by_cases hfew : i < 2
      · rw [if_pos hfew]
        refine iff_of_false (not_exists_error_eq_ok _) ?_
        rintro ⟨htwo, -⟩
        omega
      · rw [if_neg hfew]
        refine iff_of_true ⟨asn, rfl⟩ ⟨by omega, by omega, ?_⟩
        intro group hgroup
        cases hgroup
  | cons group rest ih =>
      rw [parseGroups, List.length_cons, List.forall_mem_cons]
      by_cases hbad : i > 2 ∨ group.length = 0
      · rw [if_pos hbad]
        refine iff_of_false (not_exists_error_eq_ok _) ?_
        rintro ⟨-, hmany, ⟨hne, -⟩, -⟩
        rcases hbad with hbad | hbad
        · omega
        · exact hne (List.length_eq_zero_iff.mp hbad)
      · obtain ⟨hroom, hne⟩ := not_or.mp hbad
        rw [if_neg hbad]
        by_cases hdigits : AllDigits 16 group
        · have hpasses := fromChars_passes_iff hdigits (show 0 < 2 ^ 16 by norm_num)
            (by norm_num)
          simp only [(fromChars_ptr_iff 16 group 0).mpr hdigits, ne_eq, not_true_eq_false, if_false]
          by_cases hlarge : (fromChars 16 group 0).value > MAX_GROUP_VALUE
          · have hlarge' : 0xffff < (fromChars 16 group 0).value.toNat :=
              UInt64.lt_iff_toNat_lt.mp hlarge
            rw [if_pos hlarge]
            refine iff_of_false (not_exists_error_eq_ok _) ?_
            rintro ⟨-, -, ⟨-, -, hread⟩, -⟩
            have := hpasses.mpr hread
            omega
          · have hsmall : (fromChars 16 group 0).value.toNat ≤ 0xffff :=
              UInt64.le_iff_toNat_le.mp (UInt64.not_lt.mp hlarge)
            have hread : GroupRead group :=
              ⟨fun h => hne (List.length_eq_zero_iff.mpr h), hdigits, hpasses.mp (by omega)⟩
            have hnext : i + 1 ≤ 3 := by omega
            rw [if_neg hlarge, ih hnext, Nat.add_right_comm, Nat.add_assoc i, and_iff_right hread]
        · have hptr : (fromChars 16 group 0).ptr ≠ group.length := fun h =>
            hdigits ((fromChars_ptr_iff 16 group 0).mp h)
          simp only [hptr, ne_eq, not_false_eq_true, if_true]
          refine iff_of_false (not_exists_error_eq_ok _) ?_
          rintro ⟨-, -, ⟨-, hread, -⟩, -⟩
          exact hdigits hread

/-- What `Asn.parse` accepts, reading by reading. Kind: L -/
theorem parse_ok_iff (raw : Text) :
    (∃ asn, parse raw = .ok asn) ↔
      (AllDigits 10 raw ∧ Passes (2 ^ 48) (valOf 10 raw)) ∨
        (2 ≤ (groups raw).length ∧ (groups raw).length ≤ 3 ∧
          ∀ group ∈ groups raw, GroupRead group) := by
  rw [parse]
  by_cases hread : (fromChars 10 raw 0).ptr = raw.length ∧ (fromChars 10 raw 0).value ≤ MAX_VALUE
  · have hdigits := (fromChars_ptr_iff 10 raw 0).mp hread.1
    have hvalue : (fromChars 10 raw 0).value.toNat ≤ 0xffffffffffff :=
      UInt64.le_iff_toNat_le.mp hread.2
    have hpasses := (fromChars_passes_iff hdigits (show 0 < 2 ^ 48 by norm_num)
      (by norm_num)).mp (by omega)
    simp only [if_pos hread]
    exact iff_of_true ⟨_, rfl⟩ (.inl ⟨hdigits, hpasses⟩)
  · have hno : ¬ (AllDigits 10 raw ∧ Passes (2 ^ 48) (valOf 10 raw)) := by
      rintro ⟨hdigits, hpasses⟩
      have hvalue := (fromChars_passes_iff hdigits (show 0 < 2 ^ 48 by norm_num)
        (by norm_num)).mpr hpasses
      refine hread ⟨(fromChars_ptr_iff 10 raw 0).mpr hdigits, UInt64.le_iff_toNat_le.mpr ?_⟩
      show _ ≤ 0xffffffffffff
      omega
    have hgroups := parseGroups_accepts_iff (show 0 ≤ 3 by norm_num) (fromChars 10 raw 0).value
      (groups raw)
    rw [Nat.zero_add] at hgroups
    simp only [if_neg hread, or_iff_right hno]
    exact hgroups

/-- A text of digits is a single group. Kind: L -/
theorem length_groups_of_allDigits {raw : Text} (h : AllDigits 10 raw) :
    (groups raw).length = 1 := by
  have hcolon : ':' ∉ raw := fun hmem => absurd (h ':' hmem) (by decide)
  rw [groups, List.splitOn_eq_singleton hcolon, List.length_singleton]

/-- A group of one to four digits is read. Kind: L -/
theorem groupRead_of_short {group : Text} (hne : 1 ≤ group.length) (hlen : group.length ≤ 4)
    (hdigits : AllDigits 16 group) : GroupRead group := by
  refine ⟨List.length_pos_iff.mp hne, hdigits, .inl ?_⟩
  calc valOf 16 group < 16 ^ group.length := valOf_lt hdigits
    _ ≤ 16 ^ 4 := Nat.pow_le_pow_right (by norm_num) hlen
    _ = 2 ^ 16 := by norm_num

/-- **What `Asn.parse` accepts**: its grammar, and the texts it misreads. Kind: P -/
theorem parse_accepts_iff (raw : Text) :
    (∃ asn, parse raw = .ok asn) ↔ InGrammar raw ∨ Misread raw := by
  rw [parse_ok_iff]
  constructor
  · rintro (⟨hdigits, hpasses⟩ | ⟨htwo, hthree, hread⟩)
    · by_cases hempty : raw = []
      · exact .inr (.empty hempty)
      · by_cases hlarge : 2 ^ 32 ≤ valOf 10 raw
        · exact .inr (.decimal hdigits hlarge hpasses)
        · exact .inl (.inl ⟨hempty, hdigits, by omega⟩)
    · by_cases hcount : (groups raw).length = 2
      · exact .inr (.twoGroups hcount hread)
      · have hcount : (groups raw).length = 3 := by omega
        by_cases hlong : ∃ group ∈ groups raw, 4 < group.length
        · exact .inr (.longGroup hcount hread hlong)
        · refine .inl (.inr ⟨hcount, fun group hgroup => ?_⟩)
          obtain ⟨hne, hdigits, -⟩ := hread group hgroup
          exact ⟨List.length_pos_iff.mpr hne,
            not_lt.mp fun h => hlong ⟨group, hgroup, h⟩, hdigits⟩
  · rintro ((⟨-, hdigits, hsmall⟩ | ⟨hcount, hgroups⟩) | hmisread)
    · exact .inl ⟨hdigits, .inl (by omega)⟩
    · refine .inr ⟨by omega, by omega, fun group hgroup => ?_⟩
      obtain ⟨hne, hlen, hdigits⟩ := hgroups group hgroup
      exact groupRead_of_short hne hlen hdigits
    · cases hmisread with
      | empty hempty =>
          subst hempty
          exact .inl ⟨fun c hc => absurd hc List.not_mem_nil, .inl (by decide)⟩
      | decimal hdigits hlarge hpasses => exact .inl ⟨hdigits, hpasses⟩
      | twoGroups hcount hread => exact .inr ⟨by omega, by omega, hread⟩
      | longGroup hcount hread hlong => exact .inr ⟨by omega, by omega, hread⟩

/-- What is misread is not in the grammar. Kind: L -/
theorem Misread.not_inGrammar {raw : Text} (h : Misread raw) : ¬ InGrammar raw := by
  rintro (⟨hne, hdigits, hsmall⟩ | ⟨hcount, hgroups⟩)
  · have hone := length_groups_of_allDigits hdigits
    cases h with
    | empty hempty => exact hne hempty
    | decimal hdigits hlarge hpasses => omega
    | twoGroups htwo hread => omega
    | longGroup hthree hread hlong => omega
  · cases h with
    | empty hempty =>
        subst hempty
        cases hcount
    | decimal hdigits hlarge hpasses =>
        have hone := length_groups_of_allDigits hdigits
        omega
    | twoGroups htwo hread => omega
    | longGroup hthree hread hlong =>
        obtain ⟨group, hgroup, hlen⟩ := hlong
        have := (hgroups group hgroup).2.1
        omega

/-- **When a text outside the grammar is refused.** For every text: exactly if it is none of those
that are misread. Kind: P -/
theorem refuses_iff (raw : Text) :
    (¬ InGrammar raw → ∃ err, parse raw = .error err) ↔ ¬ Misread raw := by
  constructor
  · intro hrefuses hmisread
    obtain ⟨asn, hasn⟩ := (parse_accepts_iff raw).mpr (.inr hmisread)
    obtain ⟨err, herr⟩ := hrefuses hmisread.not_inGrammar
    rw [hasn] at herr
    cases herr
  · intro hmisread hgrammar
    cases hparse : parse raw with
    | error err => exact ⟨err, rfl⟩
    | ok asn =>
        rcases (parse_accepts_iff raw).mp ⟨asn, hparse⟩ with hin | hin
        · exact absurd hin hgrammar
        · exact absurd hin hmisread

/-- **Texts outside the grammar are accepted**: nothing, decimal numbers from `2^32` on, two groups,
and groups of more than four digits. Kind: C -/
theorem accepts_outside_grammar :
    (¬ InGrammar "".toList ∧ parse "".toList = .ok 0) ∧
      (¬ InGrammar "4294967296".toList ∧ parse "4294967296".toList = .ok 0x100000000) ∧
      (¬ InGrammar "18446744073709551616".toList ∧
        parse "18446744073709551616".toList = .ok 0) ∧
      (¬ InGrammar "1:2".toList ∧ parse "1:2".toList = .ok 0x100020001) ∧
      (¬ InGrammar "00001:0:0".toList ∧ parse "00001:0:0".toList = .ok 0x100000001) := by
  decide +kernel

end Asn

end ScionIp.Vpp
