import ScionIp.Lib.Digits
import ScionIp.Python.IpAddress

/-!
# Python: `int(text, base)` and splitting

`int` takes more than digits: white space around the number, a sign, `0x` in base 16, single
underscores between digits, and the decimal digits of every script. All of it is kept here, since
the texts come from the command line.

* `pyInt base` — `int(text, base)` for the bases 10 and 16.
* `pyInt_eq_ok_iff_of_digits` — which texts of digits are read, and as which number; `pyInt_digits`
  for the digits of the base itself.
* `splitDouble` — `text.split("::")`; splitting at one character is `List.splitOn`.
-/

namespace ScionIp.Python

open ScionIp.Lib

/-! ## Characters -/

/-- The characters `Py_ISSPACE` accepts. Kind: D -/
def isAsciiSpace (c : Char) : Bool := c = ' ' ∨ (9 ≤ c.toNat ∧ c.toNat ≤ 13)

/-- White space outside ASCII. Kind: D -/
def unicodeSpaces : List ℕ :=
  [0x85, 0xa0, 0x1680, 0x2000, 0x2001, 0x2002, 0x2003, 0x2004, 0x2005, 0x2006, 0x2007, 0x2008,
    0x2009, 0x200a, 0x2028, 0x2029, 0x202f, 0x205f, 0x3000]

/-- The zeros of the decimal digits outside ASCII; the other nine digits follow each zero.
Kind: D -/
def unicodeZeros : List ℕ :=
  [0x660, 0x6f0, 0x7c0, 0x966, 0x9e6, 0xa66, 0xae6, 0xb66, 0xbe6, 0xc66, 0xce6, 0xd66, 0xde6,
    0xe50, 0xed0, 0xf20, 0x1040, 0x1090, 0x17e0, 0x1810, 0x1946, 0x19d0, 0x1a80, 0x1a90, 0x1b50,
    0x1bb0, 0x1c40, 0x1c50, 0xa620, 0xa8d0, 0xa900, 0xa9d0, 0xa9f0, 0xaa50, 0xabf0, 0xff10,
    0x104a0, 0x10d30, 0x11066, 0x110f0, 0x11136, 0x111d0, 0x112f0, 0x11450, 0x114d0, 0x11650,
    0x116c0, 0x11730, 0x118e0, 0x11950, 0x11c50, 0x11d50, 0x11da0, 0x16a60, 0x16ac0, 0x16b50,
    0x1d7ce, 0x1d7d8, 0x1d7e2, 0x1d7ec, 0x1d7f6, 0x1e140, 0x1e2f0, 0x1e950, 0x1fbf0]

/-- Every character replaced by the ASCII character `int` reads for it. Kind: D -/
def decimalAndSpaceToAscii (c : Char) : Char :=
  if c.toNat < 128 then c
  else if c.toNat ∈ unicodeSpaces then ' '
  else
    match unicodeZeros.find? fun z => z ≤ c.toNat ∧ c.toNat < z + 10 with
    | some z => Nat.digitChar (c.toNat - z)
    | none => '?'

/-! ## `int(text, base)` -/

/-- The digits of a number without its underscores; `prev` says that the character before may not
be followed by an underscore or by the end. Kind: D -/
def digitsOf (base : ℕ) : Bool → Text → Option Text
  | prev, [] => if prev then none else some []
  | prev, c :: cs =>
      if c = '_' then if prev then none else digitsOf base true cs
      else if isDigitOf base c then (c :: ·) <$> digitsOf base false cs
      else none

/-- The sign in front of a number. Kind: D -/
def takeSign : Text → Bool × Text
  | '+' :: cs => (false, cs)
  | '-' :: cs => (true, cs)
  | cs => (false, cs)

/-- `0x` in front of a number in base 16, and one underscore after it. Kind: D -/
def dropBasePrefix (base : ℕ) (cs : Text) : Text :=
  match cs with
  | '0' :: x :: rest =>
      if base = 16 ∧ (x = 'x' ∨ x = 'X') then
        if rest.head? = some '_' then rest.drop 1 else rest
      else cs
  | _ => cs

/-- The exception of `int` on a text that is no number. Kind: D -/
def invalidLiteral : PyExc := .ValueError "invalid literal for int()"

/-- `int(text, base)` for the bases 10 and 16; a decimal number has at most 4300 digits. Kind: D -/
def pyInt (base : ℕ) (raw : Text) : Py ℤ :=
  let cs := (raw.map decimalAndSpaceToAscii).dropWhile isAsciiSpace
  let (negative, cs) := takeSign cs
  match digitsOf base true ((dropBasePrefix base cs).rdropWhile isAsciiSpace) with
  | none => .error invalidLiteral
  | some ds =>
      if base = 10 ∧ 4300 < ds.length then .error invalidLiteral
      else .ok (if negative then -(valOf base ds : ℤ) else valOf base ds)

/-- `int` raises `ValueError`. Kind: L -/
theorem pyInt_raises (base : ℕ) (raw : Text) : OnlyValueError (pyInt base raw) := by
  simp only [pyInt]
  split
  · exact RaisesOnly.error rfl
  · split_ifs
    · exact RaisesOnly.error rfl
    · exact RaisesOnly.ok _
    · exact RaisesOnly.ok _

/-- A character that is read as hyphen is one. Kind: L -/
theorem eq_of_decimalAndSpaceToAscii_eq_hyphen {c : Char} (h : decimalAndSpaceToAscii c = '-') :
    c = '-' := by
  unfold decimalAndSpaceToAscii at h
  split_ifs at h
  · exact h
  · cases h
  · split at h
    · next z hz =>
        have hrange := List.find?_some hz
        rw [decide_eq_true_iff] at hrange
        have hval := digitVal_digitChar (show c.toNat - z < 16 by omega)
        rw [h] at hval
        have hhyphen : digitVal '-' = 36 := by decide
        omega
    · cases h

/-- A negative sign is a hyphen of the text. Kind: L -/
theorem hyphen_mem_of_takeSign {cs : Text} (h : (takeSign cs).1 = true) : '-' ∈ cs := by
  unfold takeSign at h
  split at h
  · cases h
  · exact List.mem_cons_self
  · cases h

/-- A number without a hyphen in its text is not negative. Kind: L -/
theorem pyInt_nonneg {base : ℕ} {raw : Text} (hminus : '-' ∉ raw) {n : ℤ}
    (h : pyInt base raw = .ok n) : 0 ≤ n := by
  have hsign : ¬ (takeSign ((raw.map decimalAndSpaceToAscii).dropWhile isAsciiSpace)).1 = true := by
    intro hneg
    have hmem := (List.dropWhile_suffix _).mem (hyphen_mem_of_takeSign hneg)
    obtain ⟨c, hc, heq⟩ := List.mem_map.mp hmem
    exact hminus (eq_of_decimalAndSpaceToAscii_eq_hyphen heq ▸ hc)
  simp only [pyInt] at h
  split at h
  · cases h
  · split_ifs at h
    rw [← Except.ok.inj h]
    exact Int.natCast_nonneg _

/-! ## Plain digits -/

/-- A digit is an ASCII character. Kind: L -/
theorem toNat_lt_of_isDigitOf {b : ℕ} (hb : b ≤ 36) {c : Char} (hc : isDigitOf b c = true) :
    c.toNat < 128 := by
  rw [isDigitOf, decide_eq_true_iff, digitVal] at hc
  split_ifs at hc with h1 h2 h3
  · exact lt_of_le_of_lt (show c.toNat ≤ 57 from h1.2) (by norm_num)
  · exact lt_of_le_of_lt (show c.toNat ≤ 122 from h2.2) (by norm_num)
  · exact lt_of_le_of_lt (show c.toNat ≤ 90 from h3.2) (by norm_num)
  · omega

/-- A digit stands for itself. Kind: L -/
theorem decimalAndSpaceToAscii_digit {b : ℕ} (hb : b ≤ 36) {c : Char}
    (hc : isDigitOf b c = true) : decimalAndSpaceToAscii c = c :=
  if_pos (toNat_lt_of_isDigitOf hb hc)

/-- Two characters of which one is a digit and the other is not. Kind: L -/
theorem ne_of_isDigitOf {b : ℕ} {c d : Char} (hc : isDigitOf b c = true)
    (hd : isDigitOf b d = false) : c ≠ d := by
  rintro rfl
  rw [hc] at hd
  cases hd

/-- A character whose value is too large does not occur among digits. Kind: L -/
theorem not_mem_of_digits {b : ℕ} {cs : Text} (h : ∀ c ∈ cs, isDigitOf b c = true) {c : Char}
    (hc : b ≤ digitVal c) : c ∉ cs := by
  intro hmem
  have hdigit := h c hmem
  rw [isDigitOf, decide_eq_true_iff] at hdigit
  exact absurd hdigit (not_lt.mpr hc)

/-- A digit is no white space. Kind: L -/
theorem isAsciiSpace_digit {b : ℕ} (hb : b ≤ 36) {c : Char} (hc : isDigitOf b c = true) :
    isAsciiSpace c = false := by
  have hspace : ∀ n < 128, isAsciiSpace (Char.ofNat n) = true → digitVal (Char.ofNat n) = 36 := by
    decide +kernel
  by_contra htrue
  rw [Bool.not_eq_false] at htrue
  have hval := hspace c.toNat (toNat_lt_of_isDigitOf hb hc) (by rwa [Char.ofNat_toNat])
  rw [Char.ofNat_toNat] at hval
  rw [isDigitOf, decide_eq_true_iff, hval] at hc
  omega

/-- A text without underscores is kept as it is, if it consists of digits. Kind: L -/
theorem digitsOf_eq_some_iff {b : ℕ} {cs ds : Text} (hline : '_' ∉ cs) {prev : Bool} :
    digitsOf b prev cs = some ds ↔
      ds = cs ∧ (∀ c ∈ cs, isDigitOf b c = true) ∧ (prev = true → cs ≠ []) := by
  induction cs generalizing prev ds with
  | nil =>
      rw [digitsOf]
      cases prev with
      | false => simp
      | true => simp
  | cons c cs ih =>
      have hne : c ≠ '_' := fun heq => hline (heq ▸ List.mem_cons_self)
      have hrest : ∀ ds, digitsOf b false cs = some ds ↔
          ds = cs ∧ ∀ c ∈ cs, isDigitOf b c = true := by
        intro ds
        rw [ih (List.not_mem_of_not_mem_cons hline)]
        simp
      rw [digitsOf, if_neg hne]
      by_cases hc : isDigitOf b c = true
      · simp only [if_pos hc, Option.map_eq_map, Option.map_eq_some_iff, hrest]
        constructor
        · rintro ⟨_, ⟨rfl, hdigits⟩, rfl⟩
          exact ⟨rfl, List.forall_mem_cons.mpr ⟨hc, hdigits⟩, fun _ => List.cons_ne_nil _ _⟩
        · rintro ⟨rfl, hdigits, -⟩
          exact ⟨cs, ⟨rfl, (List.forall_mem_cons.mp hdigits).2⟩, rfl⟩
      · simp [hc]

/-- A digit is no sign. Kind: L -/
theorem takeSign_digits {b : ℕ} (hb : b ≤ 36) {cs : Text} (h : ∀ c ∈ cs, isDigitOf b c = true) :
    takeSign cs = (false, cs) := by
  have hplus : '+' ∉ cs := not_mem_of_digits h (hb.trans (by decide))
  have hminus : '-' ∉ cs := not_mem_of_digits h (hb.trans (by decide))
  unfold takeSign
  split
  · exact absurd List.mem_cons_self hplus
  · exact absurd List.mem_cons_self hminus
  · rfl

/-- The second digit is no `x`. Kind: L -/
theorem dropBasePrefix_digits {d : ℕ} (hd : d ≤ 16) (b : ℕ) {cs : Text}
    (h : ∀ c ∈ cs, isDigitOf d c = true) : dropBasePrefix b cs = cs := by
  have hlow : 'x' ∉ cs := not_mem_of_digits h (hd.trans (by decide))
  have hup : 'X' ∉ cs := not_mem_of_digits h (hd.trans (by decide))
  unfold dropBasePrefix
  split
  · next x rest =>
      have hx : ¬ (x = 'x' ∨ x = 'X') := by
        rintro (rfl | rfl)
        · exact hlow (List.mem_cons_of_mem _ List.mem_cons_self)
        · exact hup (List.mem_cons_of_mem _ List.mem_cons_self)
      rw [if_neg (fun hbase => hx hbase.2)]
  · rfl

/-- **What `int` accepts of the texts of digits**, which may be digits of a larger base than the one
that is read. Kind: P -/
theorem pyInt_eq_ok_iff_of_digits {d : ℕ} (hd : d ≤ 16) {b : ℕ} {cs : Text}
    (h : ∀ c ∈ cs, isDigitOf d c = true) {n : ℤ} :
    pyInt b cs = .ok n ↔ cs ≠ [] ∧ (∀ c ∈ cs, isDigitOf b c = true) ∧
      (b = 10 → cs.length ≤ 4300) ∧ n = valOf b cs := by
  have hd36 : d ≤ 36 := by omega
  have hspace : ∀ c ∈ cs, ¬ isAsciiSpace c = true := by
    intro c hc
    rw [isAsciiSpace_digit hd36 (h c hc)]
    exact Bool.false_ne_true
  have hmap : cs.map decimalAndSpaceToAscii = cs := by
    rw [List.map_congr_left fun c hc => decimalAndSpaceToAscii_digit hd36 (h c hc), List.map_id']
  have hleft : cs.dropWhile isAsciiSpace = cs :=
    List.dropWhile_eq_self_iff.mpr fun _ => hspace _ (List.getElem_mem _)
  have hright : cs.rdropWhile isAsciiSpace = cs :=
    List.rdropWhile_eq_self_iff.mpr fun hl => hspace _ (List.getLast_mem hl)
  have hline : '_' ∉ cs := not_mem_of_digits h (hd36.trans (by decide))
  have hread : ∀ ds, digitsOf b true cs = some ds ↔
      ds = cs ∧ (∀ c ∈ cs, isDigitOf b c = true) ∧ cs ≠ [] := by
    intro ds
    rw [digitsOf_eq_some_iff hline]
    simp
  simp only [pyInt, hmap, hleft, takeSign_digits hd36 h, dropBasePrefix_digits hd b h, hright,
    Bool.false_eq_true, if_false]
  constructor
  · intro hok
    split at hok
    · cases hok
    · next ds hds =>
        obtain ⟨rfl, hdigits, hne⟩ := (hread ds).mp hds
        split_ifs at hok with hlimit
        exact ⟨hne, hdigits, fun hten => not_lt.mp fun hlt => hlimit ⟨hten, hlt⟩,
          (Except.ok.inj hok).symm⟩
  · rintro ⟨hne, hdigits, hlen, rfl⟩
    have hlimit : ¬ (b = 10 ∧ 4300 < cs.length) := fun hc => absurd (hlen hc.1) (not_le.mpr hc.2)
    simp only [(hread cs).mpr ⟨rfl, hdigits, hne⟩, if_neg hlimit]

/-- **A string of plain digits is read as the number it spells.** Kind: P -/
theorem pyInt_digits {b : ℕ} (hb : b ≤ 16) {cs : Text} (hne : cs ≠ [])
    (h : ∀ c ∈ cs, isDigitOf b c = true) (hlen : b = 10 → cs.length ≤ 4300) :
    pyInt b cs = .ok (valOf b cs) :=
  (pyInt_eq_ok_iff_of_digits hb h).mpr ⟨hne, h, hlen, rfl⟩

/-- The text of a number is read back, unless it has too many decimal digits. Kind: L -/
theorem pyInt_toDigits {b : ℕ} (hb : 1 < b) (hb16 : b ≤ 16) {n : ℕ}
    (hlen : b = 10 → (Nat.toDigits b n).length ≤ 4300) : pyInt b (Nat.toDigits b n) = .ok n := by
  rw [pyInt_digits hb16 Nat.toDigits_ne_nil
    (fun c hc => isDigitOf_of_mem_toDigits hb hb16 hc) hlen, valOf_toDigits hb hb16]

/-- The decimal text of a number of up to twenty digits is read back. Kind: L -/
theorem pyInt_decimal {n : ℕ} (h : n < 10 ^ 20) : pyInt 10 (Nat.toDigits 10 n) = .ok n := by
  refine pyInt_toDigits (by norm_num) (by norm_num) fun _ => ?_
  have hlen : (Nat.toDigits 10 n).length ≤ 20 :=
    (Nat.length_toDigits_le_iff (by norm_num) (by norm_num)).mpr h
  exact hlen.trans (by norm_num)

/-- The hexadecimal text of a number is read back. Kind: L -/
theorem pyInt_hex (n : ℕ) : pyInt 16 (Nat.toDigits 16 n) = .ok n :=
  pyInt_toDigits (by norm_num) le_rfl (fun h => absurd h (by norm_num))

/-! ## Splitting -/

/-- The separator is in no part. Kind: L -/
theorem not_mem_of_mem_splitOn {c : Char} {cs part : Text} (h : part ∈ cs.splitOn c) :
    c ∉ part := by
  induction cs generalizing part with
  | nil =>
      rw [List.splitOn_nil, List.mem_singleton] at h
      rw [h]
      exact List.not_mem_nil
  | cons d cs ih =>
      rw [List.splitOn_cons_eq_if_modifyHead] at h
      split_ifs at h with hd
      · rcases List.mem_cons.mp h with rfl | hmem
        · exact List.not_mem_nil
        · exact ih hmem
      · obtain ⟨first, rest, hsplit⟩ := List.exists_cons_of_ne_nil (List.splitOn_ne_nil c cs)
        rw [hsplit, List.modifyHead_cons] at h
        rcases List.mem_cons.mp h with rfl | hmem
        · intro hc
          rcases List.mem_cons.mp hc with heq | hfirst
          · exact hd (by simp [heq])
          · exact ih (hsplit ▸ List.mem_cons_self) hfirst
        · exact ih (hsplit ▸ List.mem_cons_of_mem first hmem)

/-- The characters of a part are characters of the text. Kind: L -/
theorem mem_of_mem_splitOn {x c : Char} {cs part : Text} (h : part ∈ cs.splitOn x) (hc : c ∈ part) :
    c ∈ cs := by
  obtain ⟨i, hi⟩ := List.mem_iff_getElem?.mp h
  have hpart : part ∈ (cs.splitOn x).intersperse [x] :=
    List.mem_of_getElem? (List.getElem?_intersperse_two_mul.trans hi)
  have hmem : c ∈ [x].intercalate (cs.splitOn x) := List.mem_flatten.mpr ⟨part, hpart, hc⟩
  rwa [List.intercalate_splitOn] at hmem

/-- `text.split("::")`, from the left. Kind: D -/
def splitDouble : Text → List Text
  | ':' :: ':' :: cs => [] :: splitDouble cs
  | c :: cs =>
      match splitDouble cs with
      | part :: parts => (c :: part) :: parts
      | [] => [[c]]
  | [] => [[]]

/-- A text without two colons in a row is not split. Kind: L -/
theorem splitDouble_of_tight {cs : Text} (h : ∀ x y, cs ≠ x ++ ':' :: ':' :: y) :
    splitDouble cs = [cs] := by
  induction cs with
  | nil => rfl
  | cons c cs ih =>
      have hhead : ∀ rest, c = ':' → cs = ':' :: rest → False := by
        rintro rest rfl rfl
        exact h [] rest rfl
      have htail : ∀ x y, cs ≠ x ++ ':' :: ':' :: y := by
        rintro x y rfl
        exact h (c :: x) y rfl
      rw [splitDouble.eq_2 c cs hhead, ih htail]

/-- A text whose parts between colons are not empty is not split. Kind: L -/
theorem splitDouble_of_splitOn {cs : Text} (h : [] ∉ cs.splitOn ':') : splitDouble cs = [cs] := by
  apply splitDouble_of_tight
  rintro x y rfl
  apply h
  rw [List.splitOn_append_cons_self, List.splitOn_cons_eq_if_modifyHead]
  simp

end ScionIp.Python
