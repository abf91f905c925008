import Mathlib

/-!
# Tables in key order

A table is a list of entries with strictly increasing keys, so two tables with the same entries are
equal. `insertOrAssign` is the operation of the ordered maps of the standard libraries, and
`find_insertOrAssign` all that is needed about it: it changes one key.
-/

namespace ScionIp.Lib

variable {κ ν : Type} [LinearOrder κ]

/-! ## Lists of entries -/

/-- The value of the first entry with the key. Kind: D -/
def findEntry (key : κ) : List (κ × ν) → Option ν
  | [] => none
  | (k, v) :: entries => if key = k then some v else findEntry key entries

/-- The entry put in its place, over the one with the same key. Kind: D -/
def insertEntry (key : κ) (value : ν) : List (κ × ν) → List (κ × ν)
  | [] => [(key, value)]
  | (k, v) :: entries =>
      if key = k then (key, value) :: entries
      else if key < k then (key, value) :: (k, v) :: entries
      else (k, v) :: insertEntry key value entries

/-- Insertion changes one key. Kind: L -/
theorem findEntry_insertEntry (k key : κ) (value : ν) (entries : List (κ × ν)) :
    findEntry k (insertEntry key value entries)
      = if k = key then some value else findEntry k entries := by
  induction entries with
  | nil => rfl
  | cons entry entries ih =>
      obtain ⟨k', v'⟩ := entry
      unfold insertEntry
      by_cases hk : key = k'
      · subst hk
        rw [if_pos rfl, findEntry, findEntry]
        by_cases h : k = key
        · rw [if_pos h, if_pos h]
        · rw [if_neg h, if_neg h, if_neg h]
      · rw [if_neg hk]
        by_cases hlt : key < k'
        · rw [if_pos hlt, findEntry]
        · rw [if_neg hlt, findEntry, ih, findEntry]
          by_cases h : k = key
          · rw [if_neg (fun hc => hk (h.symm.trans hc)), if_pos h, if_pos h]
          · rw [if_neg h, if_neg h]

/-- The keys after an insertion. Kind: L -/
theorem mem_insertEntry {key : κ} {value : ν} {entries : List (κ × ν)} {entry : κ × ν}
    (h : entry ∈ insertEntry key value entries) : entry = (key, value) ∨ entry ∈ entries := by
  induction entries with
  | nil => exact Or.inl (List.mem_singleton.mp h)
  | cons head entries ih =>
      unfold insertEntry at h
      split_ifs at h
      · rcases List.mem_cons.mp h with heq | hmem
        · exact Or.inl heq
        · exact Or.inr (List.mem_cons_of_mem head hmem)
      · exact List.mem_cons.mp h
      · rcases List.mem_cons.mp h with heq | hmem
        · exact Or.inr (heq ▸ List.mem_cons_self)
        · exact (ih hmem).imp id (List.mem_cons_of_mem head)

/-- Insertion keeps the order. Kind: L -/
theorem pairwise_insertEntry (key : κ) (value : ν) {entries : List (κ × ν)}
    (h : entries.Pairwise fun a b => a.1 < b.1) :
    (insertEntry key value entries).Pairwise fun a b => a.1 < b.1 := by
  induction entries with
  | nil => exact List.pairwise_singleton _ _
  | cons head entries ih =>
      obtain ⟨hhead, hrest⟩ := List.pairwise_cons.mp h
      unfold insertEntry
      split_ifs with heq hlt
      · refine List.pairwise_cons.mpr ⟨?_, hrest⟩
        intro entry hmem
        exact heq ▸ hhead entry hmem
      · refine List.pairwise_cons.mpr ⟨?_, h⟩
        intro entry hmem
        rcases List.mem_cons.mp hmem with rfl | hmem
        · exact hlt
        · exact hlt.trans (hhead entry hmem)
      · refine List.pairwise_cons.mpr ⟨?_, ih hrest⟩
        intro entry hmem
        rcases mem_insertEntry hmem with rfl | hmem
        · exact lt_of_le_of_ne (not_lt.mp hlt) (Ne.symm heq)
        · exact hhead entry hmem

/-! ## Tables -/

/-- A list of entries in key order. Kind: D -/
structure OrderedTable (κ ν : Type) [LinearOrder κ] where
  entries : List (κ × ν)
  sorted : entries.Pairwise fun a b => a.1 < b.1
  deriving DecidableEq

namespace OrderedTable

/-- The table without entries. Kind: D -/
def empty : OrderedTable κ ν := ⟨[], List.Pairwise.nil⟩

/-- The value of a key. Kind: D -/
def find (t : OrderedTable κ ν) (key : κ) : Option ν := findEntry key t.entries

/-- The key gets the value, whether it was there or not. Kind: D -/
def insertOrAssign (t : OrderedTable κ ν) (key : κ) (value : ν) : OrderedTable κ ν :=
  ⟨insertEntry key value t.entries, pairwise_insertEntry key value t.sorted⟩

/-- The table of a list of entries. Kind: D -/
def ofList (entries : List (κ × ν)) : OrderedTable κ ν :=
  entries.foldl (fun t entry => t.insertOrAssign entry.1 entry.2) empty

/-- **Insertion changes one key.** Kind: L -/
theorem find_insertOrAssign (t : OrderedTable κ ν) (k key : κ) (value : ν) :
    (t.insertOrAssign key value).find k = if k = key then some value else t.find k :=
  findEntry_insertEntry k key value t.entries

end OrderedTable

end ScionIp.Lib
