import ScionIp.Scion2Ip.HexValue

/-!
# Where `parse_hex` puts the groups

The groups before a double colon are counted against the size of the field, those behind it are not.
If both together are too many, the groups behind are or-ed into the ones before, and the number that
comes out can still fit.

* `placesGroups_iff` — it puts every group where the text says, unless the groups merge (`Merges`).
* `parseHex_formatHex_iff` — the text of a number is read back exactly if the field is wide enough.
-/

namespace ScionIp.Scion2Ip

open ScionIp.Lib ScionIp.Python

/-! ## The groups of a text -/

/-- A group of hexadecimal digits is the number they spell, if it has 16 bits. Kind: P -/
theorem readGroup_digits {group : Text} (hne : group ≠ [])
    (hdigits : ∀ c ∈ group, isDigitOf 16 c = true) (g : ℕ) :
    readGroup group = some g ↔ valOf 16 group = g ∧ g < 2 ^ 16 := by
  have hread := pyInt_digits le_rfl hne hdigits (fun h => absurd h (by norm_num))
  rw [readGroup_eq_some_iff, hread, Except.ok.injEq, Nat.cast_inj]

/-! ## Around a double colon -/

section Around

variable {raw : Text} {length : ℕ}

/-- **The texts whose groups merge**: too many groups around a double colon, though not too many
before it, and either side on its own fits the field. Kind: D -/
def Merges (raw : Text) (length : ℕ) : Prop :=
  ∃ hi lo before after, splitDouble raw = [hi, lo] ∧ sideGroups hi = some before ∧
    sideGroups lo = some after ∧ before.length ≤ groupCount length ∧
    groupCount length < before.length + after.length ∧
    groupsVal 0 before * 2 ^ (16 * (groupCount length - before.length)) < 2 ^ length ∧
    groupsVal 0 after < 2 ^ length

/-- Texts whose groups merge are overfull. Kind: L -/
theorem Merges.overfull (h : Merges raw length) : Overfull raw length := by
  obtain ⟨hi, lo, before, after, hs, hbefore, hafter, -, hmore, -⟩ := h
  exact ⟨hi, lo, before, after, hs, hbefore, hafter, hmore⟩

/-- **The overfull texts that are accepted** are those whose groups merge. Kind: L -/
theorem exists_parseHex_iff_merges (hfull : Overfull raw length) :
    (∃ n, parseHex raw length = .ok n) ↔ Merges raw length := by
  obtain ⟨hi, lo, before, after, hs, hbefore, hafter, hmore⟩ := hfull
  simp only [parseHex_two_eq_ok_iff hs]
  constructor
  · rintro ⟨n, before', after', hbefore', hafter', hcount, rfl, hlt⟩
    rw [hbefore] at hbefore'
    rw [hafter] at hafter'
    obtain rfl := Option.some.inj hbefore'
    obtain rfl := Option.some.inj hafter'
    rw [or_lt_two_pow_iff, Nat.shiftLeft_eq] at hlt
    exact ⟨hi, lo, before, after, hs, hbefore, hafter, hcount, hmore, hlt⟩
  · rintro ⟨hi', lo', before', after', hs', hbefore', hafter', hcount, -, hlt⟩
    rw [hs] at hs'
    obtain ⟨rfl, hlo⟩ := List.cons.inj hs'
    obtain rfl := List.head_eq_of_cons_eq hlo
    rw [← Nat.shiftLeft_eq, ← or_lt_two_pow_iff] at hlt
    exact ⟨_, before', after', hbefore', hafter', hcount, rfl, hlt⟩

end Around

/-- **Every group is where the text says**: an accepted text stands for the number it gives, which
fits the field, and a text that stands for no such number raises `ValueError`. Kind: D -/
def PlacesGroups (raw : Text) (length : ℕ) : Prop :=
  (∀ n, parseHex raw length = .ok n → hexValue raw length = some n ∧ n < 2 ^ length) ∧
    ((¬ ∃ n, hexValue raw length = some n ∧ n < 2 ^ length) →
      ∃ exc, parseHex raw length = .error exc ∧ exc.isValueError = true)

/-- **When every group is where the text says.** For every text and every length: exactly if the
groups do not merge. Kind: P -/
theorem placesGroups_iff (raw : Text) (length : ℕ) :
    PlacesGroups raw length ↔ ¬ Merges raw length := by
  constructor
  · rintro ⟨haccepts, -⟩ hmerges
    obtain ⟨n, hn⟩ := (exists_parseHex_iff_merges hmerges.overfull).mpr hmerges
    have hvalue := (haccepts n hn).1
    rw [hexValue_of_overfull hmerges.overfull] at hvalue
    cases hvalue
  · intro hno
    have haccepts : ∀ n, parseHex raw length = .ok n →
        hexValue raw length = some n ∧ n < 2 ^ length := by
      intro n hn
      refine ⟨hexValue_of_parseHex hn ?_, parseHex_lt hn⟩
      intro hfull
      exact hno ((exists_parseHex_iff_merges hfull).mp ⟨n, hn⟩)
    refine ⟨haccepts, fun hnone => ?_⟩
    cases hread : parseHex raw length with
    | ok n => exact absurd ⟨n, haccepts n hread⟩ hnone
    | error exc => exact ⟨exc, rfl, parseHex_raises raw length exc hread⟩

/-- **Groups can merge**: `1::2` in a field of 16 bits is read as 3. Kind: C -/
theorem parseHex_merges :
    parseHex "1::2".toList 16 = .ok 3 ∧ hexValue "1::2".toList 16 = none ∧
      ¬ PlacesGroups "1::2".toList 16 := by
  have hread : parseHex "1::2".toList 16 = .ok 3 := by decide +kernel
  have hvalue : hexValue "1::2".toList 16 = none := by decide +kernel
  refine ⟨hread, hvalue, ?_⟩
  rintro ⟨haccepts, -⟩
  have hthree := (haccepts 3 hread).1
  rw [hvalue] at hthree
  cases hthree

/-! ## The round trip -/

/-- **When the text of a number is read back.** For every number and every length: exactly if the
field is wide enough. Kind: P -/
theorem parseHex_formatHex_iff (n length : ℕ) :
    parseHex (formatHex n) length = .ok n ↔ n < 2 ^ length := by
  constructor
  · exact parseHex_lt
  · exact parseHex_formatHex

end ScionIp.Scion2Ip
