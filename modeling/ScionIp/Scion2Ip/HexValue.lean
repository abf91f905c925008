import ScionIp.Scion2Ip.Hex

/-!
# What a text of hexadecimal groups denotes

`parse_hex` shifts the groups before `::` to the top of the field and puts the groups behind it at
the bottom. `hexValue` says what number the text stands for: `::` stands for the zero groups that
are missing. A text with more groups than the field has (`Overfull`) stands for none.

* `parseHex_one`, `parseHex_two` — `parse_hex` by the number of double colons, and what it accepts
  then (`parseHex_one_eq_ok_iff`, `parseHex_two_eq_ok_iff`).
* `hexValue_of_parseHex` — a text that is accepted and not overfull denotes the number computed.
* `hexValue_of_overfull` — an overfull text denotes no number, whatever is computed for it.
-/

namespace ScionIp.Scion2Ip

open ScionIp.Lib ScionIp.Python

/-! ## The number of a text -/

/-- A group, in range. Kind: D -/
def readGroup (group : Text) : Option ℕ :=
  match pyInt 16 group with
  | .ok v => if 0 ≤ v ∧ v ≤ 0xffff then some v.toNat else none
  | .error _ => none

/-- The groups on one side of a double colon. Kind: D -/
def sideGroups (raw : Text) : Option (List ℕ) :=
  if raw.isEmpty then some [] else (raw.splitOn ':').mapM readGroup

/-- The number of groups of a field. Kind: D -/
def groupCount (length : ℕ) : ℕ := (length + 15) / 16

/-- **The number a text stands for** in a field of `length` bits: its groups one after the other,
with the missing zero groups in place of a double colon. Kind: D -/
def hexValue (raw : Text) (length : ℕ) : Option ℕ :=
  match splitDouble raw with
  | [raw] => groupsVal 0 <$> sideGroups raw
  | [hi, lo] => do
      let hi ← sideGroups hi
      let lo ← sideGroups lo
      if hi.length + lo.length ≤ groupCount length then
        some (groupsVal 0
          (hi ++ List.replicate (groupCount length - (hi.length + lo.length)) 0 ++ lo))
      else none
  | _ => none

/-- The text has a double colon, and more groups around it than the field has. Kind: D -/
def Overfull (raw : Text) (length : ℕ) : Prop :=
  ∃ hi lo before after, splitDouble raw = [hi, lo] ∧ sideGroups hi = some before ∧
    sideGroups lo = some after ∧ groupCount length < before.length + after.length

/-- A text without a double colon is not overfull. Kind: L -/
theorem not_overfull {raw part : Text} {length : ℕ} (h : splitDouble raw = [part]) :
    ¬ Overfull raw length := by
  rintro ⟨hi, lo, before, after, hsplit, -⟩
  rw [h] at hsplit
  cases hsplit

/-! ## Groups -/

/-- A group that is read is a number in range. Kind: L -/
theorem readGroup_eq_some_iff {group : Text} {g : ℕ} :
    readGroup group = some g ↔ pyInt 16 group = .ok (g : ℤ) ∧ g < 2 ^ 16 := by
  unfold readGroup
  cases hread : pyInt 16 group with
  | error exc => simp
  | ok v =>
      by_cases hrange : 0 ≤ v ∧ v ≤ 0xffff
      · simp only [if_pos hrange, Option.some.injEq, Except.ok.injEq]
        omega
      · simp only [if_neg hrange, reduceCtorEq, Except.ok.injEq, false_iff]
        omega

/-- Groups that are read are a list of numbers in range. Kind: L -/
theorem mapM_readGroup_eq_some_iff {texts : List Text} {groups : List ℕ} :
    texts.mapM readGroup = some groups ↔
      texts.mapM (pyInt 16) = .ok (groups.map (Nat.cast : ℕ → ℤ)) ∧ ∀ g ∈ groups, g < 2 ^ 16 := by
  induction texts generalizing groups with
  | nil =>
      constructor
      · intro h
        obtain rfl : [] = groups := Option.some.inj h
        exact ⟨rfl, fun g hg => absurd hg List.not_mem_nil⟩
      · rintro ⟨h, -⟩
        rw [List.map_eq_nil_iff.mp (Except.ok.inj h).symm]
        rfl
  | cons text texts ih =>
      rw [List.mapM_cons, List.mapM_cons]
      constructor
      · intro h
        obtain ⟨g, hg, h⟩ := Option.bind_eq_some_iff.mp h
        obtain ⟨gs, hgs, h⟩ := Option.bind_eq_some_iff.mp h
        obtain rfl : g :: gs = groups := Option.some.inj h
        obtain ⟨hread, hlt⟩ := readGroup_eq_some_iff.mp hg
        obtain ⟨hreads, hall⟩ := ih.mp hgs
        rw [hread, ok_bind, hreads]
        exact ⟨rfl, List.forall_mem_cons.mpr ⟨hlt, hall⟩⟩
      · rintro ⟨h, hall⟩
        obtain ⟨v, hread, h⟩ := bind_eq_ok_iff.mp h
        obtain ⟨vs, hreads, h⟩ := bind_eq_ok_iff.mp h
        have hcons : v :: vs = groups.map (Nat.cast : ℕ → ℤ) := Except.ok.inj h
        obtain ⟨g, gs, rfl, rfl, rfl⟩ := List.map_eq_cons_iff.mp hcons.symm
        obtain ⟨hlt, hrest⟩ := List.forall_mem_cons.mp hall
        rw [readGroup_eq_some_iff.mpr ⟨hread, hlt⟩, ih.mpr ⟨hreads, hrest⟩]
        rfl

/-- The loop over the groups accepts numbers in range only. Kind: L -/
theorem joinGroups_eq_ok_iff {n r : ℕ} {vs : List ℤ} :
    joinGroups n vs = .ok r ↔
      ∃ groups : List ℕ, vs = groups.map (Nat.cast : ℕ → ℤ) ∧ (∀ g ∈ groups, g < 2 ^ 16) ∧
        r = groupsVal n groups := by
  constructor
  · intro h
    induction vs generalizing n with
    | nil => exact ⟨[], rfl, fun g hg => absurd hg List.not_mem_nil, (Except.ok.inj h).symm⟩
    | cons v vs ih =>
        rw [joinGroups, List.foldlM_cons] at h
        by_cases hrange : 0 ≤ v ∧ v ≤ 0xffff
        · rw [if_pos hrange, ok_bind] at h
          obtain ⟨groups, rfl, hall, rfl⟩ := ih h
          have hv : v.toNat < 2 ^ 16 := by omega
          have hcast : ((v.toNat : ℕ) : ℤ) = v := Int.toNat_of_nonneg hrange.1
          refine ⟨v.toNat :: groups, ?_, List.forall_mem_cons.mpr ⟨hv, hall⟩, ?_⟩
          · rw [List.map_cons, hcast]
          · rw [or_shiftLeft hv]
            rfl
        · rw [if_neg hrange] at h
          cases h
  · rintro ⟨groups, rfl, hall, rfl⟩
    exact joinGroups_cast hall n

/-- **One side of a double colon**, as the source reads it. Kind: P -/
theorem parseSide_eq_ok_iff {raw : Text} {r : ℕ × ℕ} :
    parseSide raw = .ok r ↔
      ∃ groups, sideGroups raw = some groups ∧ r = (groupsVal 0 groups, groups.length) := by
  unfold parseSide sideGroups
  by_cases hempty : raw.isEmpty = true
  · rw [if_pos hempty, if_pos hempty]
    constructor
    · intro h
      exact ⟨[], rfl, (Except.ok.inj h).symm⟩
    · rintro ⟨groups, hgroups, rfl⟩
      obtain rfl : [] = groups := Option.some.inj hgroups
      rfl
  · rw [if_neg hempty, if_neg hempty]
    constructor
    · intro h
      obtain ⟨vs, hreads, h⟩ := bind_eq_ok_iff.mp h
      obtain ⟨n, hjoin, h⟩ := bind_eq_ok_iff.mp h
      obtain rfl : (n, vs.length) = r := Except.ok.inj h
      obtain ⟨groups, rfl, hall, rfl⟩ := joinGroups_eq_ok_iff.mp hjoin
      refine ⟨groups, mapM_readGroup_eq_some_iff.mpr ⟨hreads, hall⟩, ?_⟩
      rw [List.length_map]
    · rintro ⟨groups, hgroups, rfl⟩
      obtain ⟨hreads, hall⟩ := mapM_readGroup_eq_some_iff.mp hgroups
      rw [hreads, ok_bind, joinGroups_cast hall, ok_bind, List.length_map]
      rfl

/-- The groups of a side are in range. Kind: L -/
theorem lt_of_mem_sideGroups {raw : Text} {groups : List ℕ} (h : sideGroups raw = some groups) :
    ∀ g ∈ groups, g < 2 ^ 16 := by
  unfold sideGroups at h
  split_ifs at h
  · obtain rfl : [] = groups := Option.some.inj h
    exact fun g hg => absurd hg List.not_mem_nil
  · exact (mapM_readGroup_eq_some_iff.mp h).2

/-- Groups on top of a number. Kind: L -/
theorem groupsVal_eq (m : ℕ) (groups : List ℕ) :
    groupsVal m groups = m * 2 ^ (16 * groups.length) + groupsVal 0 groups := by
  induction groups generalizing m with
  | nil => simp [groupsVal]
  | cons g groups ih =>
      have hm : groupsVal m (g :: groups) = groupsVal (m * 2 ^ 16 + g) groups := rfl
      have h0 : groupsVal 0 (g :: groups) = groupsVal (0 * 2 ^ 16 + g) groups := rfl
      rw [hm, h0, ih, ih (0 * 2 ^ 16 + g), List.length_cons,
        show 16 * (groups.length + 1) = 16 + 16 * groups.length by ring, pow_add]
      ring

/-- The number of a list of groups fits their width. Kind: L -/
theorem groupsVal_lt {groups : List ℕ} (h : ∀ g ∈ groups, g < 2 ^ 16) :
    groupsVal 0 groups < 2 ^ (16 * groups.length) := by
  induction groups with
  | nil => exact Nat.one_pos
  | cons g groups ih =>
      obtain ⟨hg, hrest⟩ := List.forall_mem_cons.mp h
      have hlow := ih hrest
      have h0 : groupsVal 0 (g :: groups) = groupsVal (0 * 2 ^ 16 + g) groups := rfl
      rw [h0, groupsVal_eq, List.length_cons,
        show 16 * (groups.length + 1) = 16 + 16 * groups.length by ring, pow_add]
      have hg' : g + 1 ≤ 2 ^ 16 := hg
      calc (0 * 2 ^ 16 + g) * 2 ^ (16 * groups.length) + groupsVal 0 groups
          < g * 2 ^ (16 * groups.length) + 2 ^ (16 * groups.length) := by
            rw [Nat.zero_mul, Nat.zero_add]
            exact Nat.add_lt_add_left hlow _
        _ = (g + 1) * 2 ^ (16 * groups.length) := by ring
        _ ≤ 2 ^ 16 * 2 ^ (16 * groups.length) := Nat.mul_le_mul_right _ hg'

/-! ## `parse_hex` by the number of double colons -/

/-- The checks on the number put together from both sides of a double colon. Kind: D -/
def finishHex (length : ℕ) (lo hi : ℕ × ℕ) : Py ℕ :=
  let n := (hi.1 <<< (16 * (groupCount length - hi.2))) ||| lo.1
  if groupCount length < hi.2 then .error (.ValueError "invalid number of groups")
  else if n.size > length then .error (.ValueError "number too large")
  else .ok n

/-- The checks as the source spells them. Kind: L -/
theorem finishHex_eq (length : ℕ) (lo hi : ℕ × ℕ) :
    finishHex length lo hi = (do
      if (length + 15) / 16 < hi.2 then throw (.ValueError "invalid number of groups")
      let n := (hi.1 <<< (16 * ((length + 15) / 16 - hi.2))) ||| lo.1
      if n.size > length then throw (.ValueError "number too large")
      return n : Py ℕ) := by
  unfold finishHex groupCount
  by_cases hcount : (length + 15) / 16 < hi.2
  · simp only [if_pos hcount]
    rfl
  · simp only [if_neg hcount]
    by_cases hsize : ((hi.1 <<< (16 * ((length + 15) / 16 - hi.2))) ||| lo.1).size > length
    · simp only [if_pos hsize]
      rfl
    · simp only [if_neg hsize]
      rfl

/-- A text without a double colon is all below one. Kind: L -/
theorem parseHex_one {raw side : Text} (hs : splitDouble raw = [side]) (length : ℕ) :
    parseHex raw length = parseSide side >>= fun lo => finishHex length lo (0, 0) := by
  unfold parseHex
  simp only [hs, List.length_singleton, List.getLast?_singleton, Option.getD_some,
    if_neg (show ¬ 1 > 2 by norm_num), if_neg (show ¬ 1 > 1 by norm_num), ok_bind]
  cases parseSide side with
  | error exc => rfl
  | ok lo =>
      exact (finishHex_eq length lo (0, 0)).symm

/-- A text with one double colon. Kind: L -/
theorem parseHex_two {raw hi lo : Text} (hs : splitDouble raw = [hi, lo]) (length : ℕ) :
    parseHex raw length =
      parseSide lo >>= fun lo => parseSide hi >>= fun hi => finishHex length lo hi := by
  have hlast : [hi, lo].getLast?.getD [] = lo := rfl
  have hhead : [hi, lo].head?.getD [] = hi := rfl
  unfold parseHex
  simp only [hs, hlast, hhead, List.length_cons, List.length_nil, Nat.reduceAdd,
    if_neg (show ¬ 2 > 2 by norm_num), if_pos (show 2 > 1 by norm_num)]
  cases parseSide lo with
  | error exc => rfl
  | ok lo =>
      cases parseSide hi with
      | error exc => rfl
      | ok hi =>
          exact (finishHex_eq length lo hi).symm

/-- A text with more than one double colon. Kind: L -/
theorem parseHex_many {raw : Text} (hs : 2 < (splitDouble raw).length) (length : ℕ) :
    parseHex raw length = .error (.ValueError ":: may appear only once") := by
  unfold parseHex
  simp only [if_pos hs]
  rfl

/-- A text always has a part in front of its first double colon. Kind: L -/
theorem splitDouble_ne_nil (cs : Text) : splitDouble cs ≠ [] := by
  unfold splitDouble
  split
  · exact List.cons_ne_nil _ _
  · split
    · exact List.cons_ne_nil _ _
    · exact List.cons_ne_nil _ _
  · exact List.cons_ne_nil _ _

/-- A number that passes the checks. Kind: L -/
theorem finishHex_eq_ok_iff {length n : ℕ} {lo hi : ℕ × ℕ} :
    finishHex length lo hi = .ok n ↔ hi.2 ≤ groupCount length ∧
      n = (hi.1 <<< (16 * (groupCount length - hi.2))) ||| lo.1 ∧ n < 2 ^ length := by
  unfold finishHex
  by_cases hcount : groupCount length < hi.2
  · rw [if_pos hcount]
    exact iff_of_false (fun h => by cases h) (fun h => absurd h.1 (not_le.mpr hcount))
  · rw [if_neg hcount]
    by_cases hsize : ((hi.1 <<< (16 * (groupCount length - hi.2))) ||| lo.1).size > length
    · rw [if_pos hsize]
      apply iff_of_false (fun h => by cases h)
      rintro ⟨-, rfl, hlt⟩
      exact absurd (Nat.size_le.mpr hlt) (not_le.mpr hsize)
    · rw [if_neg hsize]
      constructor
      · intro h
        obtain rfl := Except.ok.inj h
        exact ⟨not_lt.mp hcount, rfl, Nat.size_le.mp (not_lt.mp hsize)⟩
      · rintro ⟨-, rfl, -⟩
        rfl

/-! ## Accepted texts -/

/-- What is accepted without a double colon. Kind: L -/
theorem parseHex_one_eq_ok_iff {raw side : Text} {length : ℕ} (hs : splitDouble raw = [side])
    (n : ℕ) :
    parseHex raw length = .ok n ↔
      ∃ groups, sideGroups side = some groups ∧ n = groupsVal 0 groups ∧ n < 2 ^ length := by
  rw [parseHex_one hs]
  constructor
  · intro h
    obtain ⟨low, hlow, hfinish⟩ := bind_eq_ok_iff.mp h
    obtain ⟨groups, hgroups, rfl⟩ := parseSide_eq_ok_iff.mp hlow
    obtain ⟨-, hn, hlt⟩ := finishHex_eq_ok_iff.mp hfinish
    rw [Nat.zero_shiftLeft, Nat.zero_or] at hn
    exact ⟨groups, hgroups, hn, hlt⟩
  · rintro ⟨groups, hgroups, hn, hlt⟩
    apply bind_eq_ok_iff.mpr
    refine ⟨_, parseSide_eq_ok_iff.mpr ⟨groups, hgroups, rfl⟩, ?_⟩
    refine finishHex_eq_ok_iff.mpr ⟨Nat.zero_le _, ?_, hlt⟩
    rw [Nat.zero_shiftLeft, Nat.zero_or]
    exact hn

/-- **What is accepted around a double colon.** Kind: L -/
theorem parseHex_two_eq_ok_iff {raw hi lo : Text} {length : ℕ} (hs : splitDouble raw = [hi, lo])
    (n : ℕ) :
    parseHex raw length = .ok n ↔
      ∃ before after, sideGroups hi = some before ∧ sideGroups lo = some after ∧
        before.length ≤ groupCount length ∧
        n = (groupsVal 0 before <<< (16 * (groupCount length - before.length)))
          ||| groupsVal 0 after ∧ n < 2 ^ length := by
  rw [parseHex_two hs]
  constructor
  · intro h
    obtain ⟨low, hlow, h⟩ := bind_eq_ok_iff.mp h
    obtain ⟨high, hhigh, hfinish⟩ := bind_eq_ok_iff.mp h
    obtain ⟨after, hafter, rfl⟩ := parseSide_eq_ok_iff.mp hlow
    obtain ⟨before, hbefore, rfl⟩ := parseSide_eq_ok_iff.mp hhigh
    obtain ⟨hcount, hn, hlt⟩ := finishHex_eq_ok_iff.mp hfinish
    exact ⟨before, after, hbefore, hafter, hcount, hn, hlt⟩
  · rintro ⟨before, after, hbefore, hafter, hcount, hn, hlt⟩
    apply bind_eq_ok_iff.mpr
    refine ⟨_, parseSide_eq_ok_iff.mpr ⟨after, hafter, rfl⟩, ?_⟩
    apply bind_eq_ok_iff.mpr
    refine ⟨_, parseSide_eq_ok_iff.mpr ⟨before, hbefore, rfl⟩, ?_⟩
    exact finishHex_eq_ok_iff.mpr ⟨hcount, hn, hlt⟩

/-- **A text that is accepted and not overfull denotes the number computed for it.** Kind: P -/
theorem hexValue_of_parseHex {raw : Text} {length n : ℕ} (h : parseHex raw length = .ok n)
    (hfull : ¬ Overfull raw length) : hexValue raw length = some n := by
  unfold hexValue
  rcases hs : splitDouble raw with _ | ⟨hi, _ | ⟨lo, _ | ⟨third, rest⟩⟩⟩
  · exact absurd hs (splitDouble_ne_nil raw)
  · obtain ⟨groups, hgroups, rfl, -⟩ := (parseHex_one_eq_ok_iff hs n).mp h
    simp only [hgroups]
    rfl
  · obtain ⟨before, after, hbefore, hafter, -, rfl, -⟩ := (parseHex_two_eq_ok_iff hs n).mp h
    have hcount : before.length + after.length ≤ groupCount length := by
      by_contra hmore
      exact hfull ⟨hi, lo, before, after, hs, hbefore, hafter, not_le.mp hmore⟩
    -- the missing groups move the upper part to where the source shifts it
    have hlt : groupsVal 0 after < 2 ^ (16 * after.length) :=
      groupsVal_lt (lt_of_mem_sideGroups hafter)
    have hshift : 16 * (groupCount length - before.length)
        = 16 * (groupCount length - (before.length + after.length)) + 16 * after.length := by omega
    simp only [hbefore, hafter, Option.bind_eq_bind, Option.bind_some, if_pos hcount]
    rw [groupsVal_zeros, groupsVal_eq, hshift, Nat.shiftLeft_add, or_shiftLeft hlt]
  · rw [parseHex_many (by rw [hs]; simp)] at h
    cases h

/-- An accepted number fits its field. Kind: L -/
theorem parseHex_lt {raw : Text} {length n : ℕ} (h : parseHex raw length = .ok n) :
    n < 2 ^ length := by
  rcases hs : splitDouble raw with _ | ⟨hi, _ | ⟨lo, _ | ⟨third, rest⟩⟩⟩
  · exact absurd hs (splitDouble_ne_nil raw)
  · obtain ⟨groups, -, -, hlt⟩ := (parseHex_one_eq_ok_iff hs n).mp h
    exact hlt
  · obtain ⟨before, after, -, -, -, -, hlt⟩ := (parseHex_two_eq_ok_iff hs n).mp h
    exact hlt
  · rw [parseHex_many (by rw [hs]; simp)] at h
    cases h

/-- One side of a double colon raises `ValueError`. Kind: L -/
theorem parseSide_raises (raw : Text) : OnlyValueError (parseSide raw) := by
  unfold parseSide
  split_ifs
  · exact RaisesOnly.ok _
  · apply RaisesOnly.bind (RaisesOnly.mapM fun group _ => pyInt_raises 16 group)
    intro groups _
    have hjoin : OnlyValueError (joinGroups 0 groups) := by
      unfold joinGroups
      apply RaisesOnly.foldlM
      intro n group _
      split_ifs
      · exact RaisesOnly.ok _
      · exact RaisesOnly.error rfl
    apply RaisesOnly.bind hjoin
    intro n _
    exact RaisesOnly.ok _

/-- `parse_hex` raises `ValueError`. Kind: L -/
theorem parseHex_raises (raw : Text) (length : ℕ) : OnlyValueError (parseHex raw length) := by
  have hfinish : ∀ lo hi, OnlyValueError (finishHex length lo hi) := by
    intro lo hi
    simp only [finishHex]
    split_ifs
    · exact RaisesOnly.error rfl
    · exact RaisesOnly.error rfl
    · exact RaisesOnly.ok _
  rcases hs : splitDouble raw with _ | ⟨hi, _ | ⟨lo, _ | ⟨third, rest⟩⟩⟩
  · exact absurd hs (splitDouble_ne_nil raw)
  · rw [parseHex_one hs]
    exact RaisesOnly.bind (parseSide_raises hi) fun r _ => hfinish r (0, 0)
  · rw [parseHex_two hs]
    apply RaisesOnly.bind (parseSide_raises lo)
    intro low _
    exact RaisesOnly.bind (parseSide_raises hi) fun high _ => hfinish low high
  · rw [parseHex_many (by rw [hs]; simp)]
    exact RaisesOnly.error rfl

/-- **An overfull text denotes no number.** Kind: P -/
theorem hexValue_of_overfull {raw : Text} {length : ℕ} (h : Overfull raw length) :
    hexValue raw length = none := by
  obtain ⟨hi, lo, before, after, hs, hbefore, hafter, hcount⟩ := h
  unfold hexValue
  simp only [hs, hbefore, hafter, Option.bind_eq_bind, Option.bind_some,
    if_neg (not_le.mpr hcount)]

end ScionIp.Scion2Ip
