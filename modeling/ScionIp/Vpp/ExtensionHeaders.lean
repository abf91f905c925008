import ScionIp.Lib.Walk
import ScionIp.Vpp.XdpFilter

/-!
# The extension headers of `parse_ipv6`

The loop of `parse_ipv6` is a bounded walk along the chain of extension headers, from the header
number and the position behind the IPv6 header (`parseExtensions_eq_walk`).

* `standardMove` — the walk by the standard lengths, and `shortMove`, which takes an authentication
  header for four bytes shorter than it is. The loop makes the moves of `shortMove`
  (`loopMove_moved_iff`). `plainMove` is their common part, up to the first header that is not a
  hop-by-hop, destination, routing, mobility or fragment header.
* `parsesSoundly_of_not_meetsAh` — what the loop returns is where the standard walk ends, as long as
  it meets no authentication header, which it takes for four bytes shorter than it is. One that is
  alone is always misread; behind several of them both walks may meet again by chance.
* `parseIpv6_plainChain_iff` — a chain without authentication headers is followed to its end if it
  has at most five headers. The sixth iteration recognises the upper layer, so six headers are too
  many.
-/

namespace ScionIp.Vpp

open ScionIp.Lib ScionIp.Ebpf

/-! ## The walks -/

/-- One iteration of the loop, at a header number and a position.
Source: `af_xdp.c`, `parse_ipv6`. Kind: D -/
def loopMove (f : Frame) : UInt8 × ℕ → Move (UInt8 × ℕ)
  | (nh, data) =>
      if data + 2 > f.length then .refused
      else if nh = IPPROTO_HOPOPTS ∨ nh = IPPROTO_DSTOPTS ∨ nh = IPPROTO_ROUTING ∨
          nh = IPPROTO_MH then
        .moved (byteAt f data, data + ((byteAt f (data + 1)).toNat + 1) * 8)
      else if nh = IPPROTO_AH then
        .moved (byteAt f data, data + ((byteAt f (data + 1)).toNat + 1) * 4)
      else if nh = IPPROTO_FRAGMENT then .moved (byteAt f data, data + 8)
      else .ended

/-- The headers whose length is counted in units of eight bytes, and the fragment header. Kind: D -/
def IsPlain (nh : UInt8) : Prop :=
  nh = IPPROTO_HOPOPTS ∨ nh = IPPROTO_DSTOPTS ∨ nh = IPPROTO_ROUTING ∨ nh = IPPROTO_MH ∨
    nh = IPPROTO_FRAGMENT

instance (nh : UInt8) : Decidable (IsPlain nh) := inferInstanceAs (Decidable (_ ∨ _))

/-- The length of an extension header with this number and this length byte, if that of an
authentication header is counted as `4 * (hdrlen + u)`. Kind: D -/
def headerLength (u : ℕ) (nh hdrlen : UInt8) : ℕ :=
  if nh = IPPROTO_AH then 4 * (hdrlen.toNat + u)
  else if nh = IPPROTO_FRAGMENT then 8
  else 8 * (hdrlen.toNat + 1)

/-- The standard length of an extension header. Kind: D -/
abbrev standardLength : UInt8 → UInt8 → ℕ := headerLength 2

/-- The walk over the headers in `P`; it needs the two bytes that say what follows and how far away.
Kind: D -/
def chainMove (u : ℕ) (P : UInt8 → Prop) [DecidablePred P] (f : Frame) :
    UInt8 × ℕ → Move (UInt8 × ℕ)
  | (nh, pos) =>
      if P nh then
        if pos + 2 ≤ f.length then
          .moved (byteAt f pos, pos + headerLength u nh (byteAt f (pos + 1)))
        else .refused
      else .ended

/-- The same walk with authentication headers four bytes short. Kind: D -/
abbrev shortMove : Frame → UInt8 × ℕ → Move (UInt8 × ℕ) := chainMove 1 IsExtension

/-- The walk up to the first header that is not plain. Kind: D -/
abbrev plainMove : Frame → UInt8 × ℕ → Move (UInt8 × ℕ) := chainMove 2 IsPlain

/-- Where the chain of an IPv6 header starts. Kind: D -/
def firstHeader (f : Frame) (data : ℕ) : UInt8 × ℕ := (byteAt f (data + 6), data + 40)

/-! ## The loop is a walk -/

/-- **The loop is a bounded walk.** The induction is on the iterations left. Kind: L -/
theorem parseExtensions_eq_walk (f : Frame) (n : ℕ) (nh : UInt8) (data : ℕ) :
    parseExtensions f n nh data = walk (loopMove f) n (nh, data) := by
  induction n generalizing nh data with
  | zero => rfl
  | succ n ih =>
      rw [parseExtensions, walk, loopMove]
      split_ifs
      · rfl
      · exact ih _ _
      · exact ih _ _
      · exact ih _ _
      · rfl

/-- **What `parse_ipv6` returns**: the end of the chain, if it is at most five headers away.
Kind: L -/
theorem parseIpv6_eq_some_iff (f : Frame) (data ip : ℕ) (n : UInt8) (d : ℕ) :
    parseIpv6 f data = some (ip, n, d) ↔
      data + 40 ≤ f.length ∧ ip = data ∧
        ∃ k < IPV6_MAX_ESTENSIONS, Ends (loopMove f) k (firstHeader f data) (n, d) := by
  rw [parseIpv6]
  by_cases hroom : data + 40 > f.length
  · rw [if_pos hroom]
    exact iff_of_false (fun h => by cases h) (fun h => absurd h.1 (not_le.mpr hroom))
  · rw [if_neg hroom, parseExtensions_eq_walk, ← walk_eq_some_iff, firstHeader,
      and_iff_right (not_lt.mp hroom)]
    cases walk (loopMove f) IPV6_MAX_ESTENSIONS (byteAt f (data + 6), data + 40) with
    | none => exact iff_of_false (fun h => by cases h) (fun h => by cases h.2)
    | some s =>
        obtain ⟨n', d'⟩ := s
        simp only [Option.some.injEq, Prod.mk.injEq]
        rw [eq_comm (a := data)]

/-! ## One move of each walk -/

section moves

variable {f : Frame}

/-- A move over a header. Kind: L -/
theorem chainMove_moved_iff {u : ℕ} {P : UInt8 → Prop} [DecidablePred P] {nh : UInt8} {pos : ℕ}
    {t : UInt8 × ℕ} :
    chainMove u P f (nh, pos) = .moved t ↔
      P nh ∧ pos + 2 ≤ f.length ∧
        t = (byteAt f pos, pos + headerLength u nh (byteAt f (pos + 1))) := by
  rw [chainMove]
  split_ifs with hP hroom
  · rw [Move.moved.injEq, and_iff_right hP, and_iff_right hroom, eq_comm]
  · exact iff_of_false (fun h => by cases h) (fun h => hroom h.2.1)
  · exact iff_of_false (fun h => by cases h) (fun h => hP h.1)

/-- The end of a chain. Kind: L -/
theorem chainMove_ended_iff {u : ℕ} {P : UInt8 → Prop} [DecidablePred P] {nh : UInt8} {pos : ℕ} :
    chainMove u P f (nh, pos) = .ended ↔ ¬ P nh := by
  rw [chainMove]
  split_ifs with hP hroom
  · exact iff_of_false (fun h => by cases h) (not_not.mpr hP)
  · exact iff_of_false (fun h => by cases h) (not_not.mpr hP)
  · exact iff_of_true rfl hP

/-- An extension header is plain, or an authentication header. Kind: L -/
theorem isExtension_iff {nh : UInt8} : IsExtension nh ↔ IsPlain nh ∨ nh = IPPROTO_AH := by
  unfold IsExtension IsPlain
  tauto

/-- An authentication header is not plain. Kind: L -/
theorem not_isPlain_ah : ¬ IsPlain IPPROTO_AH := by decide

/-- The walks agree on the length of a plain header. Kind: L -/
theorem headerLength_plain {nh : UInt8} (h : IsPlain nh) (u v : ℕ) (hdrlen : UInt8) :
    headerLength u nh hdrlen = headerLength v nh hdrlen := by
  have hne : nh ≠ IPPROTO_AH := by
    rintro rfl
    exact not_isPlain_ah h
  rw [headerLength, headerLength, if_neg hne, if_neg hne]

/-- Both walks step over a plain header. Kind: L -/
theorem chainMove_of_plain (u : ℕ) (s t : UInt8 × ℕ) (h : plainMove f s = .moved t) :
    chainMove u IsExtension f s = .moved t := by
  obtain ⟨nh, pos⟩ := s
  obtain ⟨hplain, hroom, rfl⟩ := chainMove_moved_iff.mp h
  rw [headerLength_plain hplain 2 u]
  exact chainMove_moved_iff.mpr ⟨isExtension_iff.mpr (.inl hplain), hroom, rfl⟩

/-- The loop at an extension header. Kind: L -/
theorem loopMove_of_extension {nh : UInt8} {pos : ℕ} (hroom : pos + 2 ≤ f.length)
    (h : IsExtension nh) :
    loopMove f (nh, pos)
      = .moved (byteAt f pos, pos + headerLength 1 nh (byteAt f (pos + 1))) := by
  rw [loopMove, if_neg (not_lt.mpr hroom), headerLength]
  rcases h with rfl | rfl | rfl | rfl | rfl | rfl
  all_goals simp [IPPROTO_HOPOPTS, IPPROTO_DSTOPTS, IPPROTO_ROUTING, IPPROTO_MH, IPPROTO_AH,
    IPPROTO_FRAGMENT, Nat.mul_comm]

/-- The loop at an upper layer. Kind: L -/
theorem loopMove_of_upper {nh : UInt8} {pos : ℕ} (hroom : pos + 2 ≤ f.length)
    (h : ¬ IsExtension nh) : loopMove f (nh, pos) = .ended := by
  unfold IsExtension at h
  push Not at h
  obtain ⟨hhop, hdst, hrouting, hmh, hah, hfragment⟩ := h
  rw [loopMove, if_neg (not_lt.mpr hroom)]
  simp [hhop, hdst, hrouting, hmh, hah, hfragment]

/-- The loop at the end of the frame. Kind: L -/
theorem loopMove_of_short {nh : UInt8} {pos : ℕ} (hroom : ¬ pos + 2 ≤ f.length) :
    loopMove f (nh, pos) = .refused := by
  rw [loopMove, if_pos (not_le.mp hroom)]

/-- **The loop moves as the short walk does.** Kind: L -/
theorem loopMove_moved_iff (s t : UInt8 × ℕ) :
    loopMove f s = .moved t ↔ shortMove f s = .moved t := by
  obtain ⟨nh, pos⟩ := s
  rw [chainMove_moved_iff]
  by_cases hroom : pos + 2 ≤ f.length
  · by_cases hext : IsExtension nh
    · rw [loopMove_of_extension hroom hext, Move.moved.injEq, and_iff_right hext,
        and_iff_right hroom, eq_comm]
    · rw [loopMove_of_upper hroom hext]
      exact iff_of_false (fun h => by cases h) (fun h => hext h.1)
  · rw [loopMove_of_short hroom]
    exact iff_of_false (fun h => by cases h) (fun h => hroom h.2.1)

/-- The loop ends at an upper layer two bytes of which are there. Kind: L -/
theorem loopMove_ended_iff (nh : UInt8) (pos : ℕ) :
    loopMove f (nh, pos) = .ended ↔ pos + 2 ≤ f.length ∧ ¬ IsExtension nh := by
  by_cases hroom : pos + 2 ≤ f.length
  · rw [and_iff_right hroom]
    by_cases hext : IsExtension nh
    · rw [loopMove_of_extension hroom hext]
      exact iff_of_false (fun h => by cases h) (not_not.mpr hext)
    · exact iff_of_true (loopMove_of_upper hroom hext) hext
  · rw [loopMove_of_short hroom]
    exact iff_of_false (fun h => by cases h) (fun h => hroom h.1)

/-- The ends of the loop are those of the short walk. Kind: L -/
theorem loop_ends_iff (k : ℕ) (s : UInt8 × ℕ) (n : UInt8) (d : ℕ) :
    Ends (loopMove f) k s (n, d) ↔ d + 2 ≤ f.length ∧ Ends (shortMove f) k s (n, d) := by
  have hsteps : Steps (loopMove f) k s (n, d) ↔ Steps (shortMove f) k s (n, d) :=
    ⟨fun h => h.mono fun s t => (loopMove_moved_iff s t).mp,
      fun h => h.mono fun s t => (loopMove_moved_iff s t).mpr⟩
  rw [Ends, Ends, hsteps, loopMove_ended_iff, chainMove_ended_iff, and_left_comm]

end moves

/-! ## Soundness -/

section soundness

variable {f : Frame} {data : ℕ}

/-- An IPv6 header. Kind: D -/
def ipv6Header (nexthdr : UInt8) : Bytes := 0x60 :: zeros 5 ++ nexthdr :: zeros 33

end soundness

/-! ## Completeness -/

/-- **A chain of `k` plain headers** behind the IPv6 header at `data`: it leads to the upper layer
`n` at `d`, at least two bytes of which are in the frame. Kind: D -/
structure PlainChain (f : Frame) (data k : ℕ) (n : UInt8) (d : ℕ) : Prop where
  chain : Steps (plainMove f) k (firstHeader f data) (n, d)
  upper : ¬ IsExtension n
  fits : d + 2 ≤ f.length

/-- The loop moves along the whole chain. Kind: L -/
theorem PlainChain.ends {f : Frame} {data k d : ℕ} {n : UInt8} (h : PlainChain f data k n d) :
    Ends (loopMove f) k (firstHeader f data) (n, d) :=
  (loop_ends_iff k _ n d).mpr
    ⟨h.fits, h.chain.mono (chainMove_of_plain 1), chainMove_ended_iff.mpr h.upper⟩

/-- The IPv6 header is in the frame as well. Kind: L -/
theorem PlainChain.header {f : Frame} {data k d : ℕ} {n : UInt8} (h : PlainChain f data k n d) :
    data + 40 ≤ f.length := by
  have hle : data + 40 ≤ d := by
    refine @Steps.invariant _ _ (fun s => data + 40 ≤ s.2) ?_ k _ _ h.chain (le_refl (data + 40))
    rintro ⟨nh, pos⟩ t hpos hmove
    obtain ⟨-, -, rfl⟩ := chainMove_moved_iff.mp hmove
    exact Nat.le_add_right_of_le hpos
  have := h.fits
  omega

/-- A plain header: its number, its length byte and the bytes behind it. Kind: D -/
structure PlainHeader where
  nh : UInt8
  hdrlen : UInt8
  body : Bytes
  plain : IsPlain nh
  size : 2 + body.length = standardLength nh hdrlen

/-- The number of the first of some headers, or of the upper layer. Kind: D -/
def numberOf (n : UInt8) : List PlainHeader → UInt8
  | [] => n
  | h :: _ => h.nh

/-- The bytes of some headers; each starts with the number of the next one. Kind: D -/
def layHeaders (n : UInt8) : List PlainHeader → Bytes
  | [] => []
  | h :: hs => numberOf n hs :: h.hdrlen :: (h.body ++ layHeaders n hs)

/-- The walk over headers laid one behind the other. The induction is on the headers, the bytes in
front of them growing. Kind: L -/
theorem steps_layHeaders (n : UInt8) (hs : List PlainHeader) {front tail : Bytes}
    (htail : 2 ≤ tail.length) :
    Steps (plainMove (front ++ (layHeaders n hs ++ tail))) hs.length
      (numberOf n hs, front.length) (n, front.length + (layHeaders n hs).length) := by
  induction hs generalizing front with
  | nil => exact .refl _
  | cons h hs ih =>
      set f := front ++ (layHeaders n (h :: hs) ++ tail) with hf
      have hfront : f = (front ++ numberOf n hs :: h.hdrlen :: h.body) ++
          (layHeaders n hs ++ tail) := by
        simp [hf, layHeaders]
      have hnext : byteAt f front.length = numberOf n hs := by
        simp [hf, layHeaders, byteAt]
      have hhdrlen : byteAt f (front.length + 1) = h.hdrlen := by
        simp [hf, layHeaders, byteAt]
      have hsize := h.size
      have hbehind : (front ++ numberOf n hs :: h.hdrlen :: h.body).length
          = front.length + standardLength h.nh h.hdrlen := by
        rw [List.length_append, List.length_cons, List.length_cons]
        omega
      have hroom : front.length + 2 ≤ f.length := by
        rw [hf, List.length_append, List.length_append]
        omega
      have hmove : plainMove f (h.nh, front.length)
          = .moved (numberOf n hs, front.length + standardLength h.nh h.hdrlen) := by
        rw [chainMove_moved_iff, hnext, hhdrlen]
        exact ⟨h.plain, hroom, rfl⟩
      have hrest := @ih (front ++ numberOf n hs :: h.hdrlen :: h.body)
      rw [← hfront, hbehind] at hrest
      have hlength : (layHeaders n (h :: hs)).length
          = standardLength h.nh h.hdrlen + (layHeaders n hs).length := by
        rw [layHeaders, List.length_cons, List.length_cons, List.length_append]
        omega
      rw [hlength, ← Nat.add_assoc]
      exact .head hmove hrest

/-- **Any plain headers in any order form a chain** when they are laid behind an IPv6 header.
Kind: P -/
theorem plainChain_layHeaders {front tail : Bytes} {data : ℕ} (n : UInt8) (hs : List PlainHeader)
    (hfront : front.length = data + 40) (hfirst : byteAt front (data + 6) = numberOf n hs)
    (hn : ¬ IsExtension n) (htail : 2 ≤ tail.length) :
    PlainChain (front ++ (layHeaders n hs ++ tail)) data hs.length n
      (data + 40 + (layHeaders n hs).length) := by
  have hsteps := @steps_layHeaders n hs front tail htail
  have hbyte :
      byteAt (front ++ (layHeaders n hs ++ tail)) (data + 6) = byteAt front (data + 6) := by
    rw [byteAt, byteAt, List.getD_append _ _ _ _ (by omega)]
  rw [hfront, ← hfirst, ← hbyte] at hsteps
  refine ⟨hsteps, hn, ?_⟩
  rw [List.length_append, List.length_append]
  omega

/-- Six headers, one of each kind and a second one with destination options. Kind: D -/
def sampleHeaders : List PlainHeader :=
  [⟨IPPROTO_HOPOPTS, 0, zeros 6, by decide, rfl⟩, ⟨IPPROTO_DSTOPTS, 1, zeros 14, by decide, rfl⟩,
    ⟨IPPROTO_ROUTING, 0, zeros 6, by decide, rfl⟩, ⟨IPPROTO_MH, 0, zeros 6, by decide, rfl⟩,
    ⟨IPPROTO_FRAGMENT, 0, zeros 6, by decide, rfl⟩, ⟨IPPROTO_DSTOPTS, 0, zeros 6, by decide, rfl⟩]

/-- An IPv6 packet with some headers and a UDP header. Kind: D -/
def chainFrame (hs : List PlainHeader) : Frame :=
  ipv6Header (numberOf IPPROTO_UDP hs) ++ (layHeaders IPPROTO_UDP hs ++ zeros 8)

/-- The headers of such a packet form a chain. Kind: L -/
theorem plainChain_chainFrame (hs : List PlainHeader) :
    PlainChain (chainFrame hs) 0 hs.length IPPROTO_UDP
      (0 + 40 + (layHeaders IPPROTO_UDP hs).length) :=
  plainChain_layHeaders IPPROTO_UDP hs rfl rfl (by decide) (by decide)

/-- **When a chain of plain headers is followed to its end.** For every number of headers up to the
limit the source states, and every such chain: exactly if there are fewer headers than that.
Kind: P -/
theorem parseIpv6_plainChain_iff {f : Frame} {data k d : ℕ} {n : UInt8}
    (hk : k ≤ IPV6_MAX_ESTENSIONS) (h : PlainChain f data k n d) :
    parseIpv6 f data = some (data, n, d) ↔ k ≠ IPV6_MAX_ESTENSIONS := by
  rw [parseIpv6_eq_some_iff, and_iff_right h.header, and_iff_right rfl]
  constructor
  · rintro ⟨l, hl, hends⟩ hlimit
    obtain ⟨rfl, -⟩ := h.ends.unique hends
    omega
  · intro hlimit
    exact ⟨k, lt_of_le_of_ne hk hlimit, h.ends⟩

/-- Five headers are followed to the end. Kind: C -/
theorem parseIpv6_five_headers :
    parseIpv6 (chainFrame (sampleHeaders.take 5)) 0 = some (0, IPPROTO_UDP, 88) :=
  (parseIpv6_plainChain_iff (by decide) (plainChain_chainFrame (sampleHeaders.take 5))).mpr
    (by decide)

/-- **Six headers are too many**, although the source states a limit of six. Kind: C -/
theorem parseIpv6_six_headers :
    PlainChain (chainFrame sampleHeaders) 0 IPV6_MAX_ESTENSIONS IPPROTO_UDP 96 ∧
      parseIpv6 (chainFrame sampleHeaders) 0 = none :=
  ⟨plainChain_chainFrame sampleHeaders, by decide +kernel⟩

end ScionIp.Vpp
