import ScionIp.Python.IpText

/-!
# `scion2ip`: hexadecimal groups

* `parseHex`, `formatHex` — a number written in 16-bit groups, with `::` standing for zero groups.
* `parseHex_formatHex` — a number of at most the given width is read back.
-/

namespace ScionIp.Scion2Ip

open ScionIp.Lib ScionIp.Python

/-! ## The functions -/

/-- The loop over the values of the groups. Source: `scion2ip`, `parse_hex`. Kind: D -/
def joinGroups (n : ℕ) (groups : List ℤ) : Py ℕ :=
  groups.foldlM (fun n (group : ℤ) =>
    if 0 ≤ group ∧ group ≤ 0xffff then .ok ((n <<< 16) ||| group.toNat)
    else .error (.ValueError "invalid hex string")) n

/-- The inner function: the number and the number of groups. Source: `scion2ip`, `parse_hex`.
Kind: D -/
def parseSide (raw : Text) : Py (ℕ × ℕ) :=
  if raw.isEmpty then .ok (0, 0)
  else do
    let groups ← (raw.splitOn ':').mapM (pyInt 16)
    let n ← joinGroups 0 groups
    return (n, groups.length)

/-- Source: `scion2ip`, `parse_hex`. Kind: D -/
def parseHex (raw : Text) (length : ℕ) : Py ℕ := do
  let parts := splitDouble raw
  if parts.length > 2 then throw (.ValueError ":: may appear only once")
  let lengthGroups := (length + 15) / 16
  let (nLo, _) ← parseSide (parts.getLast?.getD [])
  let (nHi, groupsHi) ← if parts.length > 1 then parseSide (parts.head?.getD []) else .ok (0, 0)
  if lengthGroups < groupsHi then throw (.ValueError "invalid number of groups")
  let n := (nHi <<< (16 * (lengthGroups - groupsHi))) ||| nLo
  if n.size > length then throw (.ValueError "number too large")
  return n

/-- The groups of a number, most significant first. Kind: D -/
def hexGroups (count n : ℕ) : List ℕ :=
  (List.range count).reverse.map fun i => (n >>> (16 * i)) &&& 0xffff

/-- Source: `scion2ip`, `format_hex`. Kind: D -/
def formatHex (n : ℕ) : Text :=
  [':'].intercalate (hexTexts (hexGroups (max 1 ((n.size + 15) / 16)) n))

/-! ## Reading groups back -/

/-- The text of a list of groups is cut at its colons. Kind: L -/
theorem splitOn_hexTexts {groups : List ℕ} (hne : groups ≠ []) :
    ([':'].intercalate (hexTexts groups)).splitOn ':' = hexTexts groups := by
  refine List.splitOn_intercalate ':' (fun part hpart hmem => ?_) ?_
  · exact ne_of_isDigitOf (isDigitOf_of_mem_hexTexts hpart hmem) (d := ':') (by decide) rfl
  · rwa [ne_eq, List.map_eq_nil_iff]

/-- The texts of groups are not empty. Kind: L -/
theorem nil_not_mem_hexTexts (groups : List ℕ) : [] ∉ hexTexts groups := by
  intro hmem
  obtain ⟨g, -, hg⟩ := List.mem_map.mp hmem
  exact Nat.toDigits_ne_nil hg

/-- Every group is read by `int(group, base=16)`. Kind: L -/
theorem mapM_pyInt_hexTexts (groups : List ℕ) :
    (hexTexts groups).mapM (pyInt 16) = .ok (groups.map (Nat.cast : ℕ → ℤ)) := by
  induction groups with
  | nil => rfl
  | cons g groups ih =>
      rw [hexTexts, List.map_cons, List.mapM_cons, pyInt_hex, ok_bind]
      rw [hexTexts] at ih
      rw [ih]
      rfl

/-- Groups in range are joined to a number. Kind: L -/
theorem joinGroups_cast {groups : List ℕ} (h : ∀ g ∈ groups, g < 2 ^ 16) (n : ℕ) :
    joinGroups n (groups.map (Nat.cast : ℕ → ℤ)) = .ok (groupsVal n groups) := by
  induction groups generalizing n with
  | nil => rfl
  | cons g groups ih =>
      have hg := h g List.mem_cons_self
      have hstep : (n <<< 16) ||| (g : ℤ).toNat = n * 2 ^ 16 + g := by
        rw [Int.toNat_natCast]
        exact or_shiftLeft hg n
      have hrange : (0 : ℤ) ≤ g ∧ (g : ℤ) ≤ 0xffff := by omega
      have hrest := ih (fun d hd => h d (List.mem_cons_of_mem g hd)) (n * 2 ^ 16 + g)
      rw [joinGroups] at hrest
      rw [joinGroups, List.map_cons, List.foldlM_cons, if_pos hrange, ok_bind, hstep, hrest]
      rfl

/-- **A text of groups is read as their number.** Kind: L -/
theorem parseSide_hexTexts {groups : List ℕ} (hne : groups ≠ []) (h : ∀ g ∈ groups, g < 2 ^ 16) :
    parseSide ([':'].intercalate (hexTexts groups))
      = .ok (groupsVal 0 groups, groups.length) := by
  have hempty : ¬ ([':'].intercalate (hexTexts groups)).isEmpty = true := by
    intro hnil
    rw [List.isEmpty_iff] at hnil
    have hsplit := splitOn_hexTexts hne
    rw [hnil] at hsplit
    apply nil_not_mem_hexTexts groups
    rw [← hsplit]
    exact List.mem_singleton_self []
  rw [parseSide, if_neg hempty, splitOn_hexTexts hne, mapM_pyInt_hexTexts, ok_bind,
    joinGroups_cast h, ok_bind, List.length_map]
  rfl

/-! ## Numbers in groups -/

/-- The groups of a number are its fields of 16 bits. Kind: L -/
theorem hexGroups_eq_fields (count n : ℕ) :
    hexGroups count n = (List.range count).reverse.map fun i => bitField n (16 * i) 16 :=
  List.map_congr_left fun i _ => shiftRight_and_ones n (16 * i) 16

/-- The groups are in range. Kind: L -/
theorem hexGroups_lt {count n g : ℕ} (h : g ∈ hexGroups count n) : g < 2 ^ 16 := by
  rw [hexGroups_eq_fields] at h
  obtain ⟨i, -, rfl⟩ := List.mem_map.mp h
  exact bitField_lt _ _ _

/-- There is always a group. Kind: L -/
theorem hexGroups_ne_nil {count : ℕ} (h : 0 < count) (n : ℕ) : hexGroups count n ≠ [] := by
  apply List.ne_nil_of_length_pos
  rwa [hexGroups, List.length_map, List.length_reverse, List.length_range]

/-- The groups `format_hex` writes are those of the whole number. Kind: L -/
theorem groupsVal_formatHex (n : ℕ) :
    groupsVal 0 (hexGroups (max 1 ((n.size + 15) / 16)) n) = n := by
  have hfit : n < 2 ^ (16 * max 1 ((n.size + 15) / 16)) :=
    lt_of_lt_of_le (Nat.lt_size_self n) (Nat.pow_le_pow_right (by norm_num) (by omega))
  rw [hexGroups_eq_fields, groupsVal_fields, Nat.zero_mul, Nat.zero_add, bitField_of_lt hfit]

/-- **A number of at most the given width is read back.** Kind: P -/
theorem parseHex_formatHex {n length : ℕ} (h : n < 2 ^ length) :
    parseHex (formatHex n) length = .ok n := by
  have hgroups := hexGroups_ne_nil (show 0 < max 1 ((n.size + 15) / 16) by omega) n
  have hsplit : splitDouble (formatHex n) = [formatHex n] := by
    apply splitDouble_of_splitOn
    rw [formatHex, splitOn_hexTexts hgroups]
    exact nil_not_mem_hexTexts _
  have hside : parseSide (formatHex n)
      = .ok (n, (hexGroups (max 1 ((n.size + 15) / 16)) n).length) := by
    rw [formatHex, parseSide_hexTexts hgroups (fun g hg => hexGroups_lt hg), groupsVal_formatHex]
  have hsize : ¬ n.size > length := not_lt.mpr (Nat.size_le.mpr h)
  have hzero : (0 <<< (16 * ((length + 15) / 16 - 0))) ||| n = n := by
    rw [Nat.zero_shiftLeft, Nat.zero_or]
  simp only [parseHex, hsplit, List.length_singleton, List.getLast?_singleton, Option.getD_some,
    hside, ok_bind, if_neg (show ¬ 1 > 2 by norm_num), if_neg (show ¬ 1 > 1 by norm_num),
    if_neg (Nat.not_lt_zero _), hzero, if_neg hsize]
  rfl

end ScionIp.Scion2Ip
