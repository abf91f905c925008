import ScionIp.Scion2Ip.Asn

/-!
# `scion2ip`: what an AS number is written as

`ASN.str` prints in decimal below `2^32` and in three groups from there on; `ASN.ofText` goes by the
number of colons. So a text of three groups may come back as a decimal one.

* `ASN.Denotes` — the number that a text of digits and colons stands for, without a parser.
  `ASN.ofText_eq_ok_iff` says that these texts, and no others, are accepted, with that number.
* `ASN.text_roundTrip` — an ASN survives being printed and read, and so does what a text is read as.
-/

namespace ScionIp.Scion2Ip

open ScionIp.Lib ScionIp.Python

namespace ASN

/-! ## The constructor -/

/-- What the constructor takes. Source: `scion2ip`, `ASN.__init__`. Kind: D -/
inductive Initializer where
  | int (n : ℤ)
  | str (raw : Text)

/-- `ASN(initializer)`. Source: `scion2ip`, `ASN.__init__`. Kind: D -/
def init : Initializer → Py ASN
  | .int n => if n < 0 then .error (.ValueError "Invalid ASN. (Out of range)") else ofInt n.toNat
  | .str raw => ofText raw

/-- A number is accepted if it is in range, and then it is the number of the ASN. Kind: P -/
theorem init_int_eq_ok_iff {n : ℤ} {asn : ASN} : init (.int n) = .ok asn ↔ n = asn.asnInt := by
  have hlt := asn.asnInt_lt
  have hmax : MAX_VALUE = 2 ^ 48 - 1 := by decide
  rw [init, ofInt]
  constructor
  · intro h
    split_ifs at h with hneg hover
    obtain rfl := Except.ok.inj h
    exact (Int.toNat_of_nonneg (not_lt.mp hneg)).symm
  · rintro rfl
    rw [if_neg (not_lt.mpr (Int.natCast_nonneg _)), dif_neg (by omega)]
    rfl

/-! ## The number of a text -/

/-- A group of hexadecimal digits. Kind: D -/
structure IsGroup (text : Text) (g : Fin (2 ^ 16)) : Prop where
  ne_nil : text ≠ []
  digits : ∀ c ∈ text, isDigitOf 16 c = true
  value : valOf 16 text = g

/-- A decimal number that a BGP ASN can have, in at most as many digits as `int` reads.
Kind: D -/
structure IsDecimal (text : Text) (n : ℕ) : Prop where
  ne_nil : text ≠ []
  digits : ∀ c ∈ text, isDigitOf 10 c = true
  length_le : text.length ≤ 4300
  value : valOf 10 text = n
  lt : n < 2 ^ 32

/-- **The number that a text stands for.** Kind: D -/
inductive Denotes : Text → ℕ → Prop
  | decimal {text : Text} {n : ℕ} (h : IsDecimal text n) : Denotes text n
  | groups {a b c : Text} {x y z : Fin (2 ^ 16)} (ha : IsGroup a x) (hb : IsGroup b y)
      (hc : IsGroup c z) : Denotes (a ++ ':' :: (b ++ ':' :: c)) (x * 2 ^ 32 + y * 2 ^ 16 + z)

/-- A text in one part is that part. Kind: L -/
theorem eq_of_splitOn_one {raw part : Text} (h : raw.splitOn ':' = [part]) : raw = part := by
  have hjoin : [':'].intercalate (raw.splitOn ':') = raw := List.intercalate_splitOn ':'
  rw [h, List.intercalate_singleton] at hjoin
  exact hjoin.symm

/-- A text in three parts is the parts with colons between. Kind: L -/
theorem eq_of_splitOn_three {raw a b c : Text} (h : raw.splitOn ':' = [a, b, c]) :
    raw = a ++ ':' :: (b ++ ':' :: c) := by
  have hjoin : [':'].intercalate (raw.splitOn ':') = raw := List.intercalate_splitOn ':'
  rw [h, List.intercalate_cons_cons, List.intercalate_cons_cons, List.intercalate_singleton]
    at hjoin
  simpa using hjoin.symm

/-- What a text stands for, by its parts between colons. Kind: L -/
theorem denotes_iff {raw : Text} {n : ℕ} :
    Denotes raw n ↔ (∃ part, raw.splitOn ':' = [part] ∧ IsDecimal part n) ∨
      ∃ a b c, raw.splitOn ':' = [a, b, c] ∧ ∃ x y z, IsGroup a x ∧ IsGroup b y ∧ IsGroup c z ∧
        n = x * 2 ^ 32 + y * 2 ^ 16 + z := by
  constructor
  · rintro (h | ⟨ha, hb, hc⟩)
    · have hcolon : ':' ∉ raw := not_mem_of_digits h.digits (by decide)
      exact Or.inl ⟨raw, List.splitOn_eq_singleton hcolon, h⟩
    · have hcolon : ∀ {text g}, IsGroup text g → ':' ∉ text :=
        fun h => not_mem_of_digits h.digits (by decide)
      refine Or.inr ⟨_, _, _, ?_, _, _, _, ha, hb, hc, rfl⟩
      rw [List.splitOn_append_cons_self_of_not_mem (hcolon ha),
        List.splitOn_append_cons_self_of_not_mem (hcolon hb), List.splitOn_eq_singleton (hcolon hc)]
  · rintro (⟨part, hsplit, h⟩ | ⟨a, b, c, hsplit, x, y, z, ha, hb, hc, rfl⟩)
    · rw [eq_of_splitOn_one hsplit]
      exact Denotes.decimal h
    · rw [eq_of_splitOn_three hsplit]
      exact Denotes.groups ha hb hc

/-! ## What is accepted -/

/-- What a text in one part is read as. Kind: L -/
theorem ofText_one_eq_ok_iff {raw part : Text} (hsplit : raw.splitOn ':' = [part]) {asn : ASN} :
    ofText raw = .ok asn ↔ pyInt 10 part = .ok (asn.asnInt : ℤ) ∧ asn.asnInt < 2 ^ 32 := by
  have hmax : MAX_BGP_ASN = 2 ^ 32 - 1 := by decide
  simp only [ofText, hsplit, bind_eq_ok_iff]
  constructor
  · rintro ⟨n, hread, h⟩
    split_ifs at h with hrange
    obtain rfl := Except.ok.inj h
    have hnat : ((n.toNat : ℕ) : ℤ) = n := Int.toNat_of_nonneg hrange.1
    refine ⟨by rw [hread, hnat], ?_⟩
    show n.toNat < 2 ^ 32
    omega
  · rintro ⟨hread, hlt⟩
    refine ⟨_, hread, ?_⟩
    rw [dif_pos ⟨Int.natCast_nonneg _, by omega⟩]
    rfl

/-- What a text in three parts is read as. Kind: L -/
theorem ofText_three_eq_ok_iff {raw a b c : Text} (hsplit : raw.splitOn ':' = [a, b, c])
    {asn : ASN} : ofText raw = .ok asn ↔
      ∃ x y z, groupValue a = .ok x ∧ groupValue b = .ok y ∧ groupValue c = .ok z ∧
        asn.asnInt = x * 2 ^ 32 + y * 2 ^ 16 + z := by
  simp only [ofText, hsplit, bind_eq_ok_iff]
  constructor
  · rintro ⟨x, hx, y, hy, z, hz, h⟩
    obtain rfl := Except.ok.inj h
    exact ⟨x, y, z, hx, hy, hz, asnInt_ofGroups x y z⟩
  · rintro ⟨x, y, z, hx, hy, hz, h⟩
    refine ⟨x, hx, y, hy, z, hz, ?_⟩
    rw [← asnInt_ofGroups] at h
    rw [ASN.ext h]
    rfl

/-- A group of hexadecimal digits is read as what it stands for. Kind: L -/
theorem groupValue_eq_ok_iff {text : Text} (h : ∀ c ∈ text, isDigitOf 16 c = true)
    {g : Fin (2 ^ 16)} : groupValue text = .ok g ↔ IsGroup text g := by
  simp only [groupValue, bind_eq_ok_iff, pyInt_eq_ok_iff_of_digits le_rfl h]
  constructor
  · rintro ⟨n, ⟨hne, -, -, rfl⟩, hread⟩
    split_ifs at hread with hrange
    have hval := congrArg Fin.val (Except.ok.inj hread)
    exact ⟨hne, h, by simpa using hval⟩
  · intro hgroup
    have hlt := g.isLt
    refine ⟨g, ⟨hgroup.ne_nil, h, fun hten => absurd hten (by norm_num), ?_⟩, ?_⟩
    · rw [hgroup.value]
    · rw [dif_pos ⟨Int.natCast_nonneg _, by omega⟩]
      rfl

/-- A decimal text of hexadecimal digits is read as what it stands for. Kind: L -/
theorem isDecimal_iff {text : Text} (h : ∀ c ∈ text, isDigitOf 16 c = true) {n : ℕ} :
    IsDecimal text n ↔ pyInt 10 text = .ok (n : ℤ) ∧ n < 2 ^ 32 := by
  rw [pyInt_eq_ok_iff_of_digits le_rfl h, Nat.cast_inj]
  constructor
  · intro hdec
    exact ⟨⟨hdec.ne_nil, hdec.digits, fun _ => hdec.length_le, hdec.value.symm⟩, hdec.lt⟩
  · rintro ⟨⟨hne, hdigits, hlen, hvalue⟩, hlt⟩
    exact ⟨hne, hdigits, hlen rfl, hvalue.symm, hlt⟩

/-- The parts of a text of hexadecimal digits and colons are texts of hexadecimal digits.
Kind: L -/
theorem digits_of_mem_splitOn {raw part : Text}
    (h : ∀ c ∈ raw, c = ':' ∨ isDigitOf 16 c = true) (hpart : part ∈ raw.splitOn ':') :
    ∀ c ∈ part, isDigitOf 16 c = true := by
  intro c hc
  rcases h c (mem_of_mem_splitOn hpart hc) with rfl | hdigit
  · exact absurd hc (not_mem_of_mem_splitOn hpart)
  · exact hdigit

/-- **What `ASN(text)` accepts**, of the texts of hexadecimal digits and colons: those that stand
for a number, and it is their number. Kind: P -/
theorem ofText_eq_ok_iff {raw : Text} (h : ∀ c ∈ raw, c = ':' ∨ isDigitOf 16 c = true)
    {asn : ASN} : ofText raw = .ok asn ↔ Denotes raw asn.asnInt := by
  rw [denotes_iff]
  match hsplit : raw.splitOn ':' with
  | [part] =>
      have hdigits := digits_of_mem_splitOn h (hsplit ▸ List.mem_singleton_self part)
      rw [ofText_one_eq_ok_iff hsplit, ← isDecimal_iff hdigits]
      simp
  | [a, b, c] =>
      have hdigits : ∀ part ∈ [a, b, c], ∀ d ∈ part, isDigitOf 16 d = true :=
        fun part hpart => digits_of_mem_splitOn h (hsplit ▸ hpart)
      rw [ofText_three_eq_ok_iff hsplit]
      simp [groupValue_eq_ok_iff (hdigits a (by simp)), groupValue_eq_ok_iff (hdigits b (by simp)),
        groupValue_eq_ok_iff (hdigits c (by simp))]
  | [] => exact absurd hsplit (List.splitOn_ne_nil ':' raw)
  | [_, _] => simp [ofText, hsplit]
  | _ :: _ :: _ :: _ :: _ => simp [ofText, hsplit]

/-! ## The round trip -/

/-- The text of an ASN stands for it. Kind: P -/
theorem denotes_str (asn : ASN) : Denotes asn.str asn.asnInt :=
  (ofText_eq_ok_iff fun _ => mem_str).mp (ofText_str asn)

/-- **Printing and reading an ASN.** Every number below `2^48` gives an ASN whose text is read as
the same ASN, and what any text is read as is printed as a text that is read as the same number.
Kind: P -/
theorem text_roundTrip :
    (∀ n : ℤ, 0 ≤ n → n < 2 ^ 48 → ∃ asn, init (.int n) = .ok asn ∧ (asn.asnInt : ℤ) = n ∧
      init (.str asn.str) = init (.int n)) ∧
    ∀ (raw : Text) (asn : ASN), init (.str raw) = .ok asn →
      ∃ asn', init (.int asn.asnInt) = .ok asn' ∧
        ∃ again, init (.str asn'.str) = .ok again ∧ again.asnInt = asn.asnInt := by
  constructor
  · intro n hneg hlt
    obtain ⟨k, rfl⟩ := Int.eq_ofNat_of_zero_le hneg
    have hint : init (.int k) = .ok ⟨k, by omega⟩ := init_int_eq_ok_iff.mpr rfl
    exact ⟨_, hint, rfl, (ofText_str _).trans hint.symm⟩
  · intro raw asn _
    exact ⟨asn, init_int_eq_ok_iff.mpr rfl, asn, ofText_str asn, rfl⟩

/-- The first number that is printed in groups, and a text of groups that comes back in decimal.
Kind: C -/
theorem text_roundTrip_samples :
    (∃ asn, init (.int (2 ^ 32)) = .ok asn ∧ (asn.asnInt : ℤ) = 2 ^ 32 ∧
      init (.str asn.str) = init (.int (2 ^ 32))) ∧
    str ⟨2 ^ 32, by norm_num⟩ = "1:0:0".toList ∧
    init (.str "0:00:00fF".toList) = .ok ⟨255, by norm_num⟩ ∧
    (∃ asn', init (.int 255) = .ok asn' ∧
      ∃ again, init (.str asn'.str) = .ok again ∧ again.asnInt = 255) ∧
    str ⟨255, by norm_num⟩ = "255".toList := by
  have hread : init (.str "0:00:00fF".toList) = .ok ⟨255, by norm_num⟩ := by decide +kernel
  exact ⟨text_roundTrip.1 (2 ^ 32) (by norm_num) (by norm_num), by decide +kernel, hread,
    text_roundTrip.2 _ _ hread, by decide +kernel⟩

end ASN

end ScionIp.Scion2Ip
