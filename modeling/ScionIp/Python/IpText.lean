import ScionIp.Python.Int

/-!
# Python: the texts of `ipaddress`

Printing and parsing of both address families, after the library's own algorithms: a dotted quad
without leading zeros, and eight hexadecimal groups of which the longest run of at least two zeros
(the first one, if there are several) is written `::`.

* `IPv4Address.parse_str`, `IPv6Address.parse_str` — the text of an address is read back.
* The search for the run is a loop with four variables; `ZeroRuns.Ok` says what they mean after any
  number of iterations. Nothing in the round trip depends on the run being the longest one.
-/

namespace ScionIp.Python

open ScionIp.Lib

/-- A character of joined parts is the separator or belongs to a part. Kind: L -/
theorem mem_intercalate {x c : Char} {parts : List Text} (h : c ∈ [x].intercalate parts) :
    c = x ∨ ∃ part ∈ parts, c ∈ part := by
  induction parts with
  | nil => cases h
  | cons part parts ih =>
      by_cases hne : parts = []
      · subst hne
        rw [List.intercalate_singleton] at h
        exact Or.inr ⟨part, List.mem_singleton_self part, h⟩
      · rw [List.intercalate_cons_of_ne_nil hne] at h
        simp only [List.mem_append, List.mem_singleton] at h
        rcases h with (h | rfl) | h
        · exact Or.inr ⟨part, List.mem_cons_self, h⟩
        · exact Or.inl rfl
        · rcases ih h with rfl | ⟨part', hmem, hc⟩
          · exact Or.inl rfl
          · exact Or.inr ⟨part', List.mem_cons_of_mem part hmem, hc⟩

/-! ## IPv4 -/

/-- `str(a)` for an IPv4 address. Kind: D -/
def IPv4Address.str (a : IPv4Address) : Text :=
  ['.'].intercalate (a.packed.map fun b => Nat.toDigits 10 b.toNat)

/-- One number of a dotted quad. Source: `ipaddress`, `_parse_octet`. Kind: D -/
def parseOctet (octet : Text) : Py ℕ :=
  if octet.isEmpty then .error .AddressValueError
  else if ¬ octet.all (isDigitOf 10) then .error .AddressValueError
  else if octet.length > 3 then .error .AddressValueError
  else if octet ≠ ['0'] ∧ octet.head? = some '0' then .error .AddressValueError
  else if valOf 10 octet > 255 then .error .AddressValueError
  else .ok (valOf 10 octet)

/-- `IPv4Address(text)`. Kind: D -/
def IPv4Address.parse (text : Text) : Py IPv4Address := do
  if '/' ∈ text then throw .AddressValueError
  if text.isEmpty then throw .AddressValueError
  let octets := text.splitOn '.'
  if octets.length ≠ 4 then throw .AddressValueError
  let bytes ← octets.mapM parseOctet
  IPv4Address.ofInt (bytes.foldl (fun n b => n * 256 + b) 0)

/-- One number of a dotted quad raises `AddressValueError`. Kind: L -/
theorem parseOctet_raises (octet : Text) : OnlyValueError (parseOctet octet) := by
  unfold parseOctet
  split_ifs
  all_goals first | exact RaisesOnly.error rfl | exact RaisesOnly.ok _

/-- `IPv4Address(text)` raises `AddressValueError`. Kind: L -/
theorem IPv4Address.parse_raises (text : Text) : OnlyValueError (IPv4Address.parse text) := by
  have hoctets : OnlyValueError (do
      let bytes ← (text.splitOn '.').mapM parseOctet
      IPv4Address.ofInt (bytes.foldl (fun n b => n * 256 + b) 0)) := by
    apply RaisesOnly.bind (RaisesOnly.mapM fun octet _ => parseOctet_raises octet)
    intro bytes _
    unfold IPv4Address.ofInt
    split_ifs
    · exact RaisesOnly.ok _
    · exact RaisesOnly.error (isValueError_notPermitted _)
  simp only [IPv4Address.parse]
  split_ifs
  all_goals first | exact RaisesOnly.error rfl | exact hoctets

/-- Every byte is read back. Kind: L -/
theorem parseOctet_toDigits (b : UInt8) : parseOctet (Nat.toDigits 10 b.toNat) = .ok b.toNat := by
  have h : ∀ b : UInt8, parseOctet (Nat.toDigits 10 b.toNat) = .ok b.toNat := by decide +kernel
  exact h b

/-- A number in decimal has no dot, slash or colon. Kind: L -/
theorem not_mem_decimal (n : ℕ) : '.' ∉ Nat.toDigits 10 n ∧ '/' ∉ Nat.toDigits 10 n ∧
    ':' ∉ Nat.toDigits 10 n :=
  ⟨not_mem_toDigits (by norm_num) (by norm_num) n (by decide),
    not_mem_toDigits (by norm_num) (by norm_num) n (by decide),
    not_mem_toDigits (by norm_num) (by norm_num) n (by decide)⟩

/-- The bytes of the numbers of a dotted quad. Kind: L -/
theorem mapM_parseOctet (bs : Bytes) :
    (bs.map fun b => Nat.toDigits 10 b.toNat).mapM parseOctet = .ok (bs.map UInt8.toNat) := by
  induction bs with
  | nil => rfl
  | cons b bs ih =>
      rw [List.map_cons, List.mapM_cons, parseOctet_toDigits, ih]
      rfl

/-- **The text of an IPv4 address is read back.** Kind: P -/
theorem IPv4Address.parse_str (a : IPv4Address) : IPv4Address.parse a.str = .ok a := by
  have hne : a.packed.map (fun b => Nat.toDigits 10 b.toNat) ≠ [] := by
    intro hnil
    have hlen := congrArg List.length hnil
    rw [List.length_map, a.length_packed] at hlen
    cases hlen
  have hsplit : a.str.splitOn '.' = a.packed.map fun b => Nat.toDigits 10 b.toNat := by
    refine List.splitOn_intercalate '.' (fun l hl => ?_) hne
    obtain ⟨b, -, rfl⟩ := List.mem_map.mp hl
    exact (not_mem_decimal b.toNat).1
  have hslash : '/' ∉ a.str := by
    intro hmem
    rcases mem_intercalate hmem with hdot | ⟨part, hpart, hc⟩
    · cases hdot
    · obtain ⟨b, -, rfl⟩ := List.mem_map.mp hpart
      exact (not_mem_decimal b.toNat).2.1 hc
  have hempty : ¬ a.str.isEmpty = true := by
    intro hnil
    rw [List.isEmpty_iff] at hnil
    rw [hnil] at hsplit
    have hlen := congrArg List.length hsplit
    rw [List.length_map, a.length_packed] at hlen
    cases hlen
  have hfour : ¬ (a.packed.map fun b => Nat.toDigits 10 b.toNat).length ≠ 4 := by
    rw [List.length_map, a.length_packed]
    exact not_not.mpr rfl
  have hnum : (a.packed.map UInt8.toNat).foldl (fun n b => n * 256 + b) 0 = a.ip := by
    rw [List.foldl_map]
    exact a.ofBE_packed
  simp only [IPv4Address.parse, hslash, if_false, hempty, hsplit, if_neg hfour, mapM_parseOctet]
  show IPv4Address.ofInt ((a.packed.map UInt8.toNat).foldl (fun n b => n * 256 + b) 0) = _
  rw [hnum, IPv4Address.ofInt_of_lt a.ip_lt]

/-! ## Printing IPv6 -/

/-- The eight 16-bit groups of an address, most significant first. Kind: D -/
def IPv6Address.groups (a : IPv6Address) : List ℕ :=
  [7, 6, 5, 4, 3, 2, 1, 0].map fun i => bitField a.ip (16 * i) 16

/-- The variables of the search for the longest run of zeros; `start` is `none` for the source's
`-1`. Source: `ipaddress`, `_compress_hextets`. Kind: D -/
structure ZeroRuns where
  bestStart : ℕ
  bestLen : ℕ
  start : Option ℕ
  len : ℕ

/-- One iteration of the search. Kind: D -/
def ZeroRuns.step (s : ZeroRuns) (index : ℕ) (hextet : Text) : ZeroRuns :=
  if hextet = ['0'] then
    let len := s.len + 1
    let start := s.start.getD index
    if len > s.bestLen then ⟨start, len, some start, len⟩
    else ⟨s.bestStart, s.bestLen, some start, len⟩
  else ⟨s.bestStart, s.bestLen, none, 0⟩

/-- The search over the remaining groups, of which the first has the given index. Kind: D -/
def zeroRuns : ZeroRuns → ℕ → List Text → ZeroRuns
  | s, _, [] => s
  | s, index, hextet :: hextets => zeroRuns (s.step index hextet) (index + 1) hextets

/-- Source: `ipaddress`, `_compress_hextets`. Kind: D -/
def compressHextets (hextets : List Text) : List Text :=
  let s := zeroRuns ⟨0, 0, none, 0⟩ 0 hextets
  if s.bestLen > 1 then
    let stop := s.bestStart + s.bestLen
    let tail := if stop = hextets.length then [[]] else []
    let hextets := hextets.take s.bestStart ++ [[]] ++ (hextets.drop stop ++ tail)
    if s.bestStart = 0 then [] :: hextets else hextets
  else hextets

/-- `str(a)` for an IPv6 address without zone. Kind: D -/
def IPv6Address.str (a : IPv6Address) : Text :=
  [':'].intercalate (compressHextets (a.groups.map (Nat.toDigits 16)))

/-! ### The run found -/

/-- **The invariant of the search**, after the groups `done`: the best run and the current run are
runs of zeros, the latter at the end. Kind: D -/
structure ZeroRuns.Ok (s : ZeroRuns) (done : List Text) : Prop where
  best : ∃ before after, done = before ++ List.replicate s.bestLen ['0'] ++ after ∧
    (0 < s.bestLen → before.length = s.bestStart)
  current : ∃ before, done = before ++ List.replicate s.len ['0'] ∧
    s.start = if s.len = 0 then none else some before.length

/-- One iteration keeps the invariant. Kind: L -/
theorem ZeroRuns.Ok.step {s : ZeroRuns} {done : List Text} (h : s.Ok done) (hextet : Text) :
    (s.step done.length hextet).Ok (done ++ [hextet]) := by
  obtain ⟨before, after, hbest, hstart⟩ := h.best
  obtain ⟨front, hcurrent, hsome⟩ := h.current
  have hold : ∃ before after, done ++ [hextet]
      = before ++ List.replicate s.bestLen ['0'] ++ after ∧
      (0 < s.bestLen → before.length = s.bestStart) :=
    ⟨before, after ++ [hextet], by rw [hbest, List.append_assoc _ after], hstart⟩
  by_cases hzero : hextet = ['0']
  · subst hzero
    have hrun : done ++ [['0']] = front ++ List.replicate (s.len + 1) ['0'] := by
      rw [List.replicate_succ', ← List.append_assoc, ← hcurrent]
    have hfront : s.start.getD done.length = front.length := by
      rw [hsome]
      by_cases hlen : s.len = 0
      · rw [if_pos hlen, hcurrent, hlen]
        simp
      · rw [if_neg hlen]
        rfl
    rw [ZeroRuns.step, if_pos rfl, hfront]
    by_cases hlonger : s.len + 1 > s.bestLen
    · rw [if_pos hlonger]
      exact ⟨⟨front, [], by rw [List.append_nil]; exact hrun, fun _ => rfl⟩,
        ⟨front, hrun, by rw [if_neg (Nat.succ_ne_zero _)]⟩⟩
    · rw [if_neg hlonger]
      exact ⟨hold, ⟨front, hrun, by rw [if_neg (Nat.succ_ne_zero _)]⟩⟩
  · rw [ZeroRuns.step, if_neg hzero]
    exact ⟨hold, ⟨done ++ [hextet], by simp, by simp⟩⟩

/-- The whole search keeps the invariant. Kind: L -/
theorem ZeroRuns.Ok.run {s : ZeroRuns} {done : List Text} (h : s.Ok done) (hextets : List Text) :
    (zeroRuns s done.length hextets).Ok (done ++ hextets) := by
  induction hextets generalizing s done with
  | nil => rwa [List.append_nil]
  | cons hextet hextets ih =>
      have hnext := ih (h.step hextet)
      rw [List.append_assoc, List.length_append] at hnext
      exact hnext

/-- What compression does: nothing, or one run of at least two zeros is replaced by one empty
part, with a second one wherever the run touches an end. Kind: L -/
theorem compressHextets_cases (hextets : List Text) :
    compressHextets hextets = hextets ∨
      ∃ (before after : List Text) (n : ℕ), 1 < n ∧
        hextets = before ++ List.replicate n ['0'] ++ after ∧
        compressHextets hextets = (if before = [] then [[]] else []) ++ before ++ [[]] ++ after ++
          (if after = [] then [[]] else []) := by
  have hstart : ZeroRuns.Ok ⟨0, 0, none, 0⟩ [] := ⟨⟨[], [], rfl, fun _ => rfl⟩, ⟨[], rfl, rfl⟩⟩
  obtain ⟨before, after, hbest, hlen⟩ := (hstart.run hextets).best
  rw [List.nil_append] at hbest
  rw [List.length_nil] at hbest hlen
  generalize hs : zeroRuns ⟨0, 0, none, 0⟩ 0 hextets = s at hbest hlen
  by_cases hlong : s.bestLen > 1
  · right
    refine ⟨before, after, s.bestLen, hlong, hbest, ?_⟩
    have hb : before.length = s.bestStart := hlen (by omega)
    have hstop : s.bestStart + s.bestLen = (before ++ List.replicate s.bestLen ['0']).length := by
      rw [List.length_append, List.length_replicate, hb]
    have htake : hextets.take s.bestStart = before := by
      rw [hbest, List.append_assoc, ← hb, List.take_left']
      rfl
    have hdrop : hextets.drop (s.bestStart + s.bestLen) = after := by
      rw [hbest, hstop, List.drop_left']
      rfl
    have hend : s.bestStart + s.bestLen = hextets.length ↔ after = [] := by
      have hlen : hextets.length = s.bestStart + s.bestLen + after.length := by
        rw [hstop, hbest, List.length_append]
      rw [hlen, ← List.length_eq_zero_iff]
      omega
    have hfirst : s.bestStart = 0 ↔ before = [] := by
      rw [← hb, List.length_eq_zero_iff]
    rw [compressHextets]
    simp only [hs, if_pos hlong, htake, hdrop, hend, hfirst]
    by_cases hbefore : before = []
    · simp [hbefore]
    · simp [hbefore]
  · left
    rw [compressHextets]
    simp only [hs, if_neg hlong]

/-! ## Parsing IPv6 -/

/-- One group. Source: `ipaddress`, `_parse_hextet`. Kind: D -/
def parseHextet (hextet : Text) : Py ℕ :=
  if ¬ hextet.all (isDigitOf 16) then .error .AddressValueError
  else if hextet.length > 4 then .error .AddressValueError
  else if hextet.isEmpty then .error .AddressValueError
  else .ok (valOf 16 hextet)

/-- The loop over groups, on top of the number read so far. Kind: D -/
def parseHextets (n : ℕ) (hextets : List Text) : Py ℕ :=
  hextets.foldlM (fun n hextet => do return (n <<< 16) ||| (← parseHextet hextet)) n

/-- The search for an empty part between the ends: `i` is the index of the next part, `skip` the
index found. Kind: D -/
def skipIndex : ℕ → Option ℕ → List Text → Py (Option ℕ)
  | _, skip, [] => .ok skip
  | i, skip, part :: parts =>
      if part.isEmpty then
        if skip.isSome then .error .AddressValueError else skipIndex (i + 1) (some i) parts
      else skipIndex (i + 1) skip parts

/-- The number of groups in front of or behind `::` that are to be read: an empty part at the end
counts as part of `::` and must be the only one on its side. Kind: D -/
def sideCount (outer : Text) (count : ℕ) : Py ℕ :=
  if outer.isEmpty then if count - 1 ≠ 0 then .error .AddressValueError else .ok (count - 1)
  else .ok count

/-- The number of a list of parts. Source: `ipaddress`, `_ip_int_from_string`. Kind: D -/
def ipIntOfParts (parts : List Text) : Py ℕ := do
  let first := parts.head?.getD []
  let last := parts.getLast?.getD []
  match ← skipIndex 1 none (parts.drop 1).dropLast with
  | some skip =>
      let partsHi ← sideCount first skip
      let partsLo ← sideCount last (parts.length - skip - 1)
      if 8 < partsHi + partsLo + 1 then throw .AddressValueError
      let n ← parseHextets 0 (parts.take partsHi)
      parseHextets (n <<< (16 * (8 - (partsHi + partsLo)))) (parts.drop (parts.length - partsLo))
  | none =>
      if parts.length ≠ 8 ∨ first.isEmpty ∨ last.isEmpty then throw .AddressValueError
      parseHextets 0 parts

/-- A dotted quad as last part becomes two groups. Source: `ipaddress`, `_ip_int_from_string`.
Kind: D -/
def expandIpv4Suffix (parts : List Text) : Py (List Text) :=
  let last := parts.getLast?.getD []
  if '.' ∈ last then do
    let v4 ← IPv4Address.parse last
    return parts.dropLast ++
      [Nat.toDigits 16 ((v4.ip >>> 16) &&& 0xffff), Nat.toDigits 16 (v4.ip &&& 0xffff)]
  else .ok parts

/-- The number of a text without zone. Source: `ipaddress`, `_ip_int_from_string`. Kind: D -/
def ipIntFromString (text : Text) : Py ℕ := do
  if text.isEmpty then throw .AddressValueError
  let parts := text.splitOn ':'
  if parts.length < 3 then throw .AddressValueError
  let parts ← expandIpv4Suffix parts
  if parts.length > 9 then throw .AddressValueError
  ipIntOfParts parts

/-- The text is cut at its only percent sign; the zone behind it is not empty.
Source: `ipaddress`, `_split_scope_id`. Kind: D -/
def splitScopeId (text : Text) : Py (Text × Option Text) :=
  match text.splitOn '%' with
  | [addr] => .ok (addr, none)
  | [addr, scopeId] =>
      if scopeId.isEmpty then .error .AddressValueError else .ok (addr, some scopeId)
  | _ => .error .AddressValueError

/-- `IPv6Address(text)` with its zone. Kind: D -/
def IPv6Address.parseScoped (text : Text) : Py (IPv6Address × Option Text) := do
  if '/' ∈ text then throw .AddressValueError
  let (text, scopeId) ← splitScopeId text
  let ip ← IPv6Address.ofInt (← ipIntFromString text)
  return (ip, scopeId)

/-- `IPv6Address(text)` where the zone is not used again. Kind: D -/
def IPv6Address.parse (text : Text) : Py IPv6Address := Prod.fst <$> IPv6Address.parseScoped text

/-! ### Groups read back -/

/-- The number of a list of groups, on top of a number. Kind: D -/
def groupsVal (n : ℕ) (groups : List ℕ) : ℕ := groups.foldl (fun n g => n * 2 ^ 16 + g) n

/-- The texts of groups. Kind: D -/
abbrev hexTexts (groups : List ℕ) : List Text := groups.map (Nat.toDigits 16)

/-- A group in hexadecimal is read back. Kind: L -/
theorem parseHextet_toDigits {g : ℕ} (h : g < 2 ^ 16) :
    parseHextet (Nat.toDigits 16 g) = .ok g := by
  have hall : (Nat.toDigits 16 g).all (isDigitOf 16) = true :=
    List.all_eq_true.mpr fun c hc => isDigitOf_of_mem_toDigits (by norm_num) le_rfl hc
  have hlen : ¬ (Nat.toDigits 16 g).length > 4 :=
    not_lt.mpr ((Nat.length_toDigits_le_iff (by norm_num) (by norm_num)).mpr (by omega))
  have hne : ¬ (Nat.toDigits 16 g).isEmpty = true := by
    rw [List.isEmpty_iff]
    exact Nat.toDigits_ne_nil
  rw [parseHextet, if_neg (not_not.mpr hall), if_neg hlen, if_neg hne,
    valOf_toDigits (by norm_num) le_rfl]

/-- A list of groups in hexadecimal is read back. Kind: L -/
theorem parseHextets_hexTexts {groups : List ℕ} (h : ∀ g ∈ groups, g < 2 ^ 16) (n : ℕ) :
    parseHextets n (hexTexts groups) = .ok (groupsVal n groups) := by
  induction groups generalizing n with
  | nil => rfl
  | cons g groups ih =>
      have hg := h g List.mem_cons_self
      have hstep : (n <<< 16) ||| g = n * 2 ^ 16 + g := or_shiftLeft hg n
      have hrest := ih (fun d hd => h d (List.mem_cons_of_mem g hd)) (n * 2 ^ 16 + g)
      rw [parseHextets] at hrest
      rw [parseHextets, hexTexts, List.map_cons, List.foldlM_cons, parseHextet_toDigits hg]
      show ((hexTexts groups).foldlM _ ((n <<< 16) ||| g) : Py ℕ) = _
      rw [hstep, hrest]
      rfl

/-- Zeros in the middle shift what is in front of them. Kind: L -/
theorem groupsVal_zeros (n : ℕ) (before after : List ℕ) (k : ℕ) :
    groupsVal n (before ++ List.replicate k 0 ++ after)
      = groupsVal (groupsVal n before <<< (16 * k)) after := by
  have hzeros : ∀ m, groupsVal m (List.replicate k 0) = m <<< (16 * k) := by
    intro m
    induction k generalizing m with
    | zero => rfl
    | succ k ih =>
        have hfirst : groupsVal m (List.replicate (k + 1) 0)
            = groupsVal (m * 2 ^ 16 + 0) (List.replicate k 0) := rfl
        rw [hfirst, ih, Nat.shiftLeft_eq, Nat.shiftLeft_eq, Nat.mul_add, pow_add]
        ring
  rw [groupsVal, List.foldl_append, List.foldl_append]
  show groupsVal (groupsVal (groupsVal n before) (List.replicate k 0)) after = _
  rw [hzeros]

/-- The lowest groups of a number, on top of another one. Kind: L -/
theorem groupsVal_fields (m count n : ℕ) :
    groupsVal m ((List.range count).reverse.map fun i => bitField n (16 * i) 16)
      = m * 2 ^ (16 * count) + bitField n 0 (16 * count) := by
  induction count generalizing m with
  | zero => simp [groupsVal]
  | succ count ih =>
      have hcut := bitField_add n 0 (16 * count) 16
      rw [Nat.zero_add] at hcut
      rw [List.range_succ, List.reverse_append, List.reverse_singleton, List.singleton_append,
        List.map_cons, groupsVal, List.foldl_cons]
      show groupsVal _ _ = _
      rw [ih, show 16 * (count + 1) = 16 * count + 16 by ring, hcut, pow_add]
      ring

/-- The groups of an address spell its number. Kind: L -/
theorem IPv6Address.groupsVal_groups (a : IPv6Address) : groupsVal 0 a.groups = a.ip := by
  have hfields := groupsVal_fields 0 8 a.ip
  rw [Nat.zero_mul, Nat.zero_add, bitField_of_lt a.ip_lt] at hfields
  exact hfields

/-- The text of a group is not empty. Kind: L -/
theorem isEmpty_toDigits (g : ℕ) : (Nat.toDigits 16 g).isEmpty = false := by
  rw [List.isEmpty_eq_false_iff]
  exact Nat.toDigits_ne_nil

/-- The search passes over groups. Kind: L -/
theorem skipIndex_hexTexts (i : ℕ) (skip : Option ℕ) (groups : List ℕ) (rest : List Text) :
    skipIndex i skip (hexTexts groups ++ rest) = skipIndex (i + groups.length) skip rest := by
  induction groups generalizing i with
  | nil => rfl
  | cons g groups ih =>
      rw [hexTexts, List.map_cons, List.cons_append, skipIndex, isEmpty_toDigits,
        if_neg Bool.false_ne_true, ih, List.length_cons]
      congr 1
      omega

/-- The search in eight groups finds nothing. Kind: L -/
theorem skipIndex_none (groups : List ℕ) : skipIndex 1 none (hexTexts groups) = .ok none := by
  have h := skipIndex_hexTexts 1 none groups []
  rwa [List.append_nil] at h

/-- The search finds the only empty part between groups. Kind: L -/
theorem skipIndex_some (before after : List ℕ) :
    skipIndex 1 none (hexTexts before ++ [] :: hexTexts after)
      = .ok (some (before.length + 1)) := by
  have h := skipIndex_hexTexts (1 + before.length + 1) (some (1 + before.length)) after []
  rw [List.append_nil] at h
  rw [skipIndex_hexTexts, skipIndex, if_pos (show ([] : Text).isEmpty = true from rfl),
    if_neg (by simp), h, skipIndex, Nat.add_comm]

/-! ### The text of an address read back -/

/-- The empty part that is added where the run of zeros touches an end. Kind: D -/
def endPart (groups : List ℕ) : List Text := if groups = [] then [[]] else []

/-- A side with groups has no added end part. Kind: L -/
theorem endPart_of_ne_nil {groups : List ℕ} (h : groups ≠ []) : endPart groups = [] := if_neg h

/-- A side has at least one part, and at most one more than it has groups. Kind: L -/
theorem length_endPart_bounds (groups : List ℕ) :
    1 ≤ (endPart groups).length + groups.length ∧
      (endPart groups).length + groups.length ≤ groups.length + 1 := by
  by_cases hnil : groups = []
  · simp [endPart, hnil]
  · rw [endPart_of_ne_nil hnil, List.length_nil, Nat.zero_add]
    exact ⟨List.length_pos_iff.mpr hnil, Nat.le_succ _⟩

/-- The parts of a text with `::` between the two lists of groups. Kind: D -/
def doubleColonParts (before after : List ℕ) : List Text :=
  (endPart before ++ hexTexts before) ++ [] :: (hexTexts after ++ endPart after)

/-- The left side: its first part is empty exactly if there is no group. Kind: L -/
theorem leftParts_eq (before : List ℕ) :
    ∃ first : Text, endPart before ++ hexTexts before = first :: hexTexts before.tail ∧
      (first.isEmpty = true ↔ before = []) := by
  cases before with
  | nil => exact ⟨[], rfl, by simp⟩
  | cons g before => exact ⟨Nat.toDigits 16 g, rfl, by simp⟩

/-- The right side: its last part is empty exactly if there is no group. Kind: L -/
theorem rightParts_eq (after : List ℕ) :
    ∃ last : Text, hexTexts after ++ endPart after = hexTexts after.dropLast ++ [last] ∧
      (last.isEmpty = true ↔ after = []) := by
  rcases List.eq_nil_or_concat' after with rfl | ⟨after', g, rfl⟩
  · exact ⟨[], rfl, by simp⟩
  · exact ⟨Nat.toDigits 16 g, by simp [endPart], by simp⟩

/-- A side with an empty end part has no group to be read, the other sides all of theirs.
Kind: L -/
theorem sideCount_endPart {groups : List ℕ} {outer : Text}
    (h : outer.isEmpty = true ↔ groups = []) :
    sideCount outer (groups.length + (endPart groups).length) = .ok groups.length := by
  by_cases hnil : groups = []
  · rw [sideCount, if_pos (h.mpr hnil), hnil]
    rfl
  · rw [sideCount, if_neg (fun hempty => hnil (h.mp hempty)), endPart_of_ne_nil hnil]
    rfl

/-- The number of parts. Kind: L -/
theorem length_doubleColonParts (before after : List ℕ) :
    (doubleColonParts before after).length
      = (endPart before).length + before.length + 1 + (after.length + (endPart after).length) := by
  simp only [doubleColonParts, List.length_append, List.length_cons, List.length_map]
  omega

/-- The groups on the left side stand first. Kind: L -/
theorem take_doubleColonParts (before after : List ℕ) :
    (doubleColonParts before after).take before.length = hexTexts before := by
  by_cases hnil : before = []
  · rw [hnil]
    rfl
  · rw [doubleColonParts, endPart_of_ne_nil hnil, List.nil_append, List.take_left']
    exact List.length_map _

/-- The groups on the right side stand last. Kind: L -/
theorem drop_doubleColonParts (before after : List ℕ) :
    (doubleColonParts before after).drop ((doubleColonParts before after).length - after.length)
      = hexTexts after := by
  by_cases hnil : after = []
  · rw [hnil, List.length_nil, Nat.sub_zero, List.drop_length]
    rfl
  · have hsplit : doubleColonParts before after
        = (endPart before ++ hexTexts before ++ [[]]) ++ hexTexts after := by
      simp [doubleColonParts, endPart_of_ne_nil hnil]
    rw [hsplit, List.length_append, List.length_map, Nat.add_sub_cancel, List.drop_left]

/-- **The parts of a text with `::` are read as the groups on its two sides.** Kind: L -/
theorem ipIntOfParts_doubleColon {before after : List ℕ} (hbefore : ∀ g ∈ before, g < 2 ^ 16)
    (hafter : ∀ g ∈ after, g < 2 ^ 16) (hlen : before.length + after.length < 8) :
    ipIntOfParts (doubleColonParts before after) =
      .ok (groupsVal (groupsVal 0 before <<< (16 * (8 - (before.length + after.length))))
        after) := by
  obtain ⟨first, hleft, hfirst⟩ := leftParts_eq before
  obtain ⟨last, hright, hlast⟩ := rightParts_eq after
  have hparts : doubleColonParts before after
      = first :: (hexTexts before.tail ++ [] :: hexTexts after.dropLast) ++ [last] := by
    rw [doubleColonParts, hleft, hright]
    simp
  have hskip : skipIndex 1 none ((doubleColonParts before after).drop 1).dropLast
      = .ok (some (before.tail.length + 1)) := by
    rw [hparts, List.cons_append, List.drop_succ_cons, List.drop_zero, List.dropLast_concat,
      skipIndex_some]
  have hskipLen : before.tail.length + 1 = before.length + (endPart before).length := by
    cases before with
    | nil => rfl
    | cons g before => simp [endPart]
  have hhi : sideCount first (before.tail.length + 1) = .ok before.length := by
    rw [hskipLen]
    exact sideCount_endPart hfirst
  have hlo : sideCount last ((doubleColonParts before after).length - (before.tail.length + 1) - 1)
      = .ok after.length := by
    rw [length_doubleColonParts, hskipLen, show (endPart before).length + before.length + 1
      + (after.length + (endPart after).length) - (before.length + (endPart before).length) - 1
      = after.length + (endPart after).length by omega]
    exact sideCount_endPart hlast
  have hhead : (doubleColonParts before after).head?.getD [] = first := by
    rw [hparts]
    rfl
  have htail : (doubleColonParts before after).getLast?.getD [] = last := by
    rw [hparts, List.getLast?_concat]
    rfl
  have hroom : ¬ 8 < before.length + after.length + 1 := by omega
  simp only [ipIntOfParts, hhead, htail, hskip, ok_bind, hhi, hlo, if_neg hroom,
    take_doubleColonParts, drop_doubleColonParts, parseHextets_hexTexts hbefore,
    parseHextets_hexTexts hafter]

/-- **Eight groups without `::` are read as they are.** Kind: L -/
theorem ipIntOfParts_hexTexts {groups : List ℕ} (h : ∀ g ∈ groups, g < 2 ^ 16)
    (hlen : groups.length = 8) : ipIntOfParts (hexTexts groups) = .ok (groupsVal 0 groups) := by
  have hmiddle : ((hexTexts groups).drop 1).dropLast = hexTexts (groups.drop 1).dropLast := by
    rw [hexTexts, ← List.map_drop, ← List.map_dropLast]
  have hpart : ∀ part ∈ hexTexts groups, part.isEmpty = false := by
    intro part hpart
    obtain ⟨g, -, rfl⟩ := List.mem_map.mp hpart
    exact isEmpty_toDigits g
  have hne : hexTexts groups ≠ [] := by
    intro hnil
    rw [List.map_eq_nil_iff] at hnil
    rw [hnil] at hlen
    cases hlen
  have hhead : ((hexTexts groups).head?.getD []).isEmpty = false := by
    rw [List.head?_eq_some_head hne]
    exact hpart _ (List.head_mem hne)
  have htail : ((hexTexts groups).getLast?.getD []).isEmpty = false := by
    rw [List.getLast?_eq_some_getLast hne]
    exact hpart _ (List.getLast_mem hne)
  have hok : ¬ ((hexTexts groups).length ≠ 8 ∨
      ((hexTexts groups).head?.getD []).isEmpty = true ∨
      ((hexTexts groups).getLast?.getD []).isEmpty = true) := by
    rw [List.length_map, hlen, hhead, htail]
    simp
  simp only [ipIntOfParts, hmiddle, skipIndex_none, ok_bind, if_neg hok,
    parseHextets_hexTexts h]

/-- A text without percent sign has no zone. Kind: L -/
theorem splitScopeId_of_not_mem {text : Text} (h : '%' ∉ text) :
    splitScopeId text = .ok (text, none) := by
  have hsplit : text.splitOn '%' = [text] := by
    have hjoined := List.splitOn_intercalate '%'
      (fun part hpart => List.mem_singleton.mp hpart ▸ h) (List.cons_ne_nil text [])
    rwa [List.intercalate_singleton] at hjoined
  rw [splitScopeId, hsplit]

/-- Joined parts of hexadecimal digits are read part by part. Kind: L -/
theorem IPv6Address.parse_intercalate {a : IPv6Address} {parts : List Text}
    (hdigits : ∀ part ∈ parts, ∀ c ∈ part, isDigitOf 16 c = true) (hmin : 3 ≤ parts.length)
    (hmax : parts.length ≤ 9) (hip : ipIntOfParts parts = .ok a.ip) :
    IPv6Address.parse ([':'].intercalate parts) = .ok a := by
  have hnot : ∀ c, isDigitOf 16 c = false → ∀ part ∈ parts, c ∉ part := by
    intro c hc part hpart hmem
    exact ne_of_isDigitOf (hdigits part hpart c hmem) hc rfl
  have hparts : parts ≠ [] := by
    rintro rfl
    cases hmin
  have hsplit : ([':'].intercalate parts).splitOn ':' = parts :=
    List.splitOn_intercalate ':' (hnot ':' (by decide)) hparts
  have hchar : ∀ c, c ≠ ':' → isDigitOf 16 c = false → c ∉ [':'].intercalate parts := by
    intro c hcolon hc hmem
    rcases mem_intercalate hmem with heq | ⟨part, hpart, hin⟩
    · exact hcolon heq
    · exact hnot c hc part hpart hin
  have hslash := hchar '/' (by decide) (by decide)
  have hzone := splitScopeId_of_not_mem (hchar '%' (by decide) (by decide))
  have hempty : ¬ ([':'].intercalate parts).isEmpty = true := by
    intro hnil
    rw [List.isEmpty_iff] at hnil
    rw [hnil] at hsplit
    rw [← hsplit] at hmin
    exact absurd hmin (by decide)
  have hsuffix : expandIpv4Suffix parts = .ok parts := by
    apply if_neg
    rw [List.getLast?_eq_some_getLast hparts]
    exact hnot '.' (by decide) _ (List.getLast_mem hparts)
  have hint : ipIntFromString ([':'].intercalate parts) = .ok a.ip := by
    simp only [ipIntFromString, if_neg hempty, hsplit, if_neg (not_lt.mpr hmin), hsuffix, ok_bind,
      if_neg (not_lt.mpr hmax), hip]
  simp only [IPv6Address.parse, IPv6Address.parseScoped, if_neg hslash, hzone, ok_bind, hint,
    IPv6Address.ofInt_of_lt a.ip_lt]
  rfl

/-- The parts written for groups are hexadecimal digits. Kind: L -/
theorem isDigitOf_of_mem_hexTexts {groups : List ℕ} {part : Text} (hpart : part ∈ hexTexts groups)
    {c : Char} (hc : c ∈ part) : isDigitOf 16 c = true := by
  obtain ⟨g, -, rfl⟩ := List.mem_map.mp hpart
  exact isDigitOf_of_mem_toDigits (by norm_num) le_rfl hc

/-- The parts written with `::` are hexadecimal digits. Kind: L -/
theorem isDigitOf_of_mem_doubleColonParts {before after : List ℕ} {part : Text}
    (hpart : part ∈ doubleColonParts before after) {c : Char} (hc : c ∈ part) :
    isDigitOf 16 c = true := by
  have hend : ∀ groups, part ∈ endPart groups → part = [] := by
    intro groups hmem
    unfold endPart at hmem
    split_ifs at hmem
    · exact List.mem_singleton.mp hmem
    · cases hmem
  simp only [doubleColonParts, List.mem_append, List.mem_cons] at hpart
  rcases hpart with (hpart | hpart) | hpart | hpart | hpart
  · rw [hend _ hpart] at hc
    cases hc
  · exact isDigitOf_of_mem_hexTexts hpart hc
  · rw [hpart] at hc
    cases hc
  · exact isDigitOf_of_mem_hexTexts hpart hc
  · rw [hend _ hpart] at hc
    cases hc

/-- A group written `0` is zero. Kind: L -/
theorem toDigits_eq_zero {g : ℕ} (h : Nat.toDigits 16 g = ['0']) : g = 0 := by
  have hval := valOf_toDigits (by norm_num) (le_refl 16) g
  rw [h] at hval
  exact hval.symm

/-- The run that compression replaces is a run of zero groups. Kind: L -/
theorem groups_of_hexTexts {groups : List ℕ} {before after : List Text} {n : ℕ}
    (h : hexTexts groups = before ++ List.replicate n ['0'] ++ after) :
    ∃ gb ga, groups = gb ++ List.replicate n 0 ++ ga ∧ before = hexTexts gb ∧
      after = hexTexts ga := by
  obtain ⟨front, ga, rfl, hfront, rfl⟩ := List.map_eq_append_iff.mp h
  obtain ⟨gb, zeros, rfl, rfl, hzeros⟩ := List.map_eq_append_iff.mp hfront
  have hlen : zeros.length = n := by
    have := congrArg List.length hzeros
    rwa [List.length_map, List.length_replicate] at this
  have hrep : zeros = List.replicate n 0 := by
    refine List.eq_replicate_iff.mpr ⟨hlen, fun g hg => toDigits_eq_zero ?_⟩
    have hmem : Nat.toDigits 16 g ∈ List.replicate n ['0'] := by
      rw [← hzeros]
      exact List.mem_map_of_mem hg
    exact List.eq_of_mem_replicate hmem
  exact ⟨gb, ga, by rw [hrep], rfl, rfl⟩

/-- The parts printed for groups: their texts, or `::` in place of a run of zero groups. Kind: L -/
theorem compressHextets_hexTexts (groups : List ℕ) :
    compressHextets (hexTexts groups) = hexTexts groups ∨
      ∃ before after n, 1 < n ∧ groups = before ++ List.replicate n 0 ++ after ∧
        compressHextets (hexTexts groups) = doubleColonParts before after := by
  have hend : ∀ groups : List ℕ, (if hexTexts groups = [] then [[]] else [] : List Text)
      = endPart groups := by
    intro groups
    simp only [endPart, List.map_eq_nil_iff]
  rcases compressHextets_cases (hexTexts groups) with heq | ⟨before, after, n, hn, hrun, heq⟩
  · exact Or.inl heq
  · right
    obtain ⟨gb, ga, hgroups, rfl, rfl⟩ := groups_of_hexTexts hrun
    refine ⟨gb, ga, n, hn, hgroups, ?_⟩
    rw [heq, hend, hend]
    simp [doubleColonParts]

/-- **The text of an IPv6 address is read back.** Kind: P -/
theorem IPv6Address.parse_str (a : IPv6Address) : IPv6Address.parse a.str = .ok a := by
  have hlen : a.groups.length = 8 := rfl
  have hlt : ∀ g ∈ a.groups, g < 2 ^ 16 := by
    intro g hg
    obtain ⟨i, -, rfl⟩ := List.mem_map.mp hg
    exact bitField_lt _ _ _
  rw [IPv6Address.str]
  rcases compressHextets_hexTexts a.groups with heq | ⟨before, after, n, hn, hgroups, heq⟩
  · rw [heq]
    refine parse_intercalate (fun part hpart c hc => isDigitOf_of_mem_hexTexts hpart hc) ?_ ?_ ?_
    · rw [List.length_map, hlen]
      norm_num
    · rw [List.length_map, hlen]
      norm_num
    · rw [ipIntOfParts_hexTexts hlt hlen, a.groupsVal_groups]
  · have hcount : before.length + n + after.length = 8 := by
      rw [hgroups, List.length_append, List.length_append, List.length_replicate] at hlen
      exact hlen
    have hleft := length_endPart_bounds before
    have hright := length_endPart_bounds after
    have htotal := length_doubleColonParts before after
    have hbefore : ∀ g ∈ before, g < 2 ^ 16 := fun g hg => hlt g (by simp [hgroups, hg])
    have hafter : ∀ g ∈ after, g < 2 ^ 16 := fun g hg => hlt g (by simp [hgroups, hg])
    have hval : groupsVal (groupsVal 0 before <<< (16 * (8 - (before.length + after.length)))) after
        = a.ip := by
      rw [show 8 - (before.length + after.length) = n by omega, ← groupsVal_zeros, ← hgroups,
        a.groupsVal_groups]
    rw [heq]
    refine parse_intercalate
      (fun part hpart c hc => isDigitOf_of_mem_doubleColonParts hpart hc) ?_ ?_ ?_
    · omega
    · omega
    · rw [ipIntOfParts_doubleColon hbefore hafter (by omega), hval]

/-! ## Either family -/

/-- `str(a)` for an address of either family. Kind: D -/
def IPAddress.str : IPAddress → Text
  | .v4 a => a.str
  | .v6 a => a.str

/-- `ipaddress.ip_address(text)` with the zone of an IPv6 address. Kind: D -/
def ipAddress (text : Text) : Py (IPAddress × Option Text) :=
  match IPv4Address.parse text with
  | .ok a => .ok (.v4 a, none)
  | .error _ =>
      match IPv6Address.parseScoped text with
      | .ok (a, scopeId) => .ok (.v6 a, scopeId)
      | .error _ => .error (.ValueError "does not appear to be an IPv4 or IPv6 address")

end ScionIp.Python
