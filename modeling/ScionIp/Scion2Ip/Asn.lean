import ScionIp.Scion2Ip.Hex

/-!
# `scion2ip`: the class `ASN`

An `ASN` carries its range. It is made from a number, from a decimal text, or from three groups of
16 bits; `ASN.ofText_str` reads back the text of every one of them.
-/

namespace ScionIp.Scion2Ip

open ScionIp.Lib ScionIp.Python

/-- Source: `scion2ip`, `ASN`, with the range its constructor checks. Kind: D -/
@[ext] structure ASN where
  asnInt : ℕ
  asnInt_lt : asnInt < 2 ^ 48
  deriving DecidableEq

namespace ASN

/-- Source: `scion2ip`, `ASN.MAX_VALUE`. Kind: D -/
def MAX_VALUE : ℕ := (1 <<< 48) - 1

/-- Source: `scion2ip`, `ASN.MAX_BGP_ASN`. Kind: D -/
def MAX_BGP_ASN : ℕ := (1 <<< 32) - 1

/-- `ASN(n)` for an integer. Source: `scion2ip`, `ASN.__init__`. Kind: D -/
def ofInt (n : ℕ) : Py ASN :=
  if h : n > MAX_VALUE then .error (.ValueError "Invalid ASN. (Out of range)")
  else .ok ⟨n, lt_of_le_of_lt (not_lt.mp h) (by decide)⟩

/-- The value of one group. Source: `scion2ip`, `ASN.__init__`. Kind: D -/
def groupValue (group : Text) : Py (Fin (2 ^ 16)) := do
  let v ← pyInt 16 group
  if h : 0 ≤ v ∧ v ≤ 0xffff then
    return ⟨v.toNat, by omega⟩
  else throw (.ValueError "Invalid hexadecimal ASN. (Invalid group value)")

/-- Three groups, each shifted in from below. Source: `scion2ip`, `ASN.__init__`. Kind: D -/
def ofGroups (a b c : Fin (2 ^ 16)) : ASN where
  asnInt := (((a.val <<< 16) ||| b.val) <<< 16) ||| c.val
  asnInt_lt := by
    have ha := a.isLt
    have hb := b.isLt
    have hc := c.isLt
    rw [or_shiftLeft hb, or_shiftLeft hc]
    omega

/-- `ASN(text)`. Source: `scion2ip`, `ASN.__init__`. Kind: D -/
def ofText (initializer : Text) : Py ASN :=
  match initializer.splitOn ':' with
  | [part] => do
      let n ← pyInt 10 part
      if h : 0 ≤ n ∧ n ≤ MAX_BGP_ASN then
        return ⟨n.toNat, by
          have hmax : MAX_BGP_ASN < 2 ^ 32 := by decide
          omega⟩
      else throw (.ValueError "Invalid decimal ASN.")
  | [a, b, c] => do
      let a ← groupValue a
      let b ← groupValue b
      let c ← groupValue c
      return ofGroups a b c
  | _ => .error (.ValueError "Invalid ASN. (Wrong number of colon-separated groups)")

/-- `str(asn)`. Source: `scion2ip`, `ASN.__str__`. Kind: D -/
def str (asn : ASN) : Text :=
  if asn.asnInt ≤ MAX_BGP_ASN then Nat.toDigits 10 asn.asnInt
  else [':'].intercalate (hexTexts [(asn.asnInt >>> 32) &&& 0xffff,
    (asn.asnInt >>> 16) &&& 0xffff, asn.asnInt &&& 0xffff])

/-- The value of a group raises `ValueError`. Kind: L -/
theorem groupValue_raises (group : Text) : OnlyValueError (groupValue group) := by
  apply RaisesOnly.bind (pyInt_raises 16 group)
  intro v _
  split_ifs
  · exact RaisesOnly.ok _
  · exact RaisesOnly.error rfl

/-- `ASN(text)` raises `ValueError`. Kind: L -/
theorem ofText_raises (initializer : Text) : OnlyValueError (ofText initializer) := by
  unfold ofText
  split
  · apply RaisesOnly.bind (pyInt_raises 10 _)
    intro n _
    split_ifs
    · exact RaisesOnly.ok _
    · exact RaisesOnly.error rfl
  · apply RaisesOnly.bind (groupValue_raises _)
    intro a _
    apply RaisesOnly.bind (groupValue_raises _)
    intro b _
    apply RaisesOnly.bind (groupValue_raises _)
    intro c _
    exact RaisesOnly.ok _
  · exact RaisesOnly.error rfl

/-! ## The text of an ASN read back -/

/-- A group is read back. Kind: L -/
theorem groupValue_toDigits (g : Fin (2 ^ 16)) : groupValue (Nat.toDigits 16 g.val) = .ok g := by
  have hg := g.isLt
  have hread : pyInt 16 (Nat.toDigits 16 g.val) = .ok (g.val : ℤ) := pyInt_hex g.val
  have hrange : (0 : ℤ) ≤ g.val ∧ (g.val : ℤ) ≤ 0xffff := by omega
  rw [groupValue, hread, ok_bind, dif_pos hrange]
  rfl

/-- A decimal text is read back. Kind: L -/
theorem ofText_decimal {asn : ASN} (h : asn.asnInt ≤ MAX_BGP_ASN) :
    ofText (Nat.toDigits 10 asn.asnInt) = .ok asn := by
  have hlt := asn.asnInt_lt
  have hread : pyInt 10 (Nat.toDigits 10 asn.asnInt) = .ok (asn.asnInt : ℤ) :=
    pyInt_decimal (by omega)
  have hrange : (0 : ℤ) ≤ asn.asnInt ∧ (asn.asnInt : ℤ) ≤ MAX_BGP_ASN := by omega
  rw [ofText, List.splitOn_eq_singleton (not_mem_decimal asn.asnInt).2.2]
  simp only [hread, ok_bind, dif_pos hrange]
  rfl

/-- A text of three groups is read back. Kind: L -/
theorem ofText_groups (a b c : Fin (2 ^ 16)) :
    ofText ([':'].intercalate (hexTexts [a.val, b.val, c.val])) = .ok (ofGroups a b c) := by
  rw [ofText, splitOn_hexTexts (List.cons_ne_nil _ _)]
  simp only [hexTexts, List.map_cons, List.map_nil, groupValue_toDigits, ok_bind]
  rfl

/-- The number of three groups. Kind: L -/
theorem asnInt_ofGroups (x y z : Fin (2 ^ 16)) :
    (ofGroups x y z).asnInt = x * 2 ^ 32 + y * 2 ^ 16 + z := by
  show ((((x : ℕ) <<< 16) ||| (y : ℕ)) <<< 16) ||| (z : ℕ) = _
  rw [or_shiftLeft y.isLt, or_shiftLeft z.isLt]
  ring

/-- **The text of an ASN is read back.** Kind: P -/
theorem ofText_str (asn : ASN) : ofText asn.str = .ok asn := by
  by_cases hbgp : asn.asnInt ≤ MAX_BGP_ASN
  · rw [str, if_pos hbgp, ofText_decimal hbgp]
  · have hlt := asn.asnInt_lt
    have hones : (0xffff : ℕ) = 2 ^ 16 - 1 := by norm_num
    have hgroups := ofText_groups ⟨bitField asn.asnInt 32 16, bitField_lt _ _ _⟩
      ⟨bitField asn.asnInt 16 16, bitField_lt _ _ _⟩ ⟨bitField asn.asnInt 0 16, bitField_lt _ _ _⟩
    rw [str, if_neg hbgp, hones, shiftRight_and_ones, shiftRight_and_ones, and_ones, hgroups]
    congr 1
    ext
    rw [asnInt_ofGroups]
    simp only [bitField]
    omega

/-- The text of an ASN consists of digits and colons. Kind: L -/
theorem mem_str {asn : ASN} {c : Char} (h : c ∈ asn.str) : c = ':' ∨ isDigitOf 16 c = true := by
  unfold str at h
  split_ifs at h
  · right
    have hten := isDigitOf_of_mem_toDigits (by norm_num) (by norm_num) h
    rw [isDigitOf, decide_eq_true_iff] at hten ⊢
    omega
  · rcases mem_intercalate h with hcolon | ⟨part, hpart, hc⟩
    · exact Or.inl hcolon
    · exact Or.inr (isDigitOf_of_mem_hexTexts hpart hc)

end ASN

end ScionIp.Scion2Ip
