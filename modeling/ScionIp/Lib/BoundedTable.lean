import Mathlib

/-!
# Tables with room for a number of entries

A table is a partial function; entries are stored and replaced, and nothing is ever removed. An
entry under a new key is only stored while there is room.

* `keys`, `TableStep` — the keys of a table, and one access.
* `TableStep.bounded` — a table never gets more entries than it has room for.
* `TableStep.run_full` — **a full table keeps its keys**: what it does not know then, it never will.
-/

namespace ScionIp.Lib

variable {κ ν : Type*}

/-- The keys with an entry. Kind: D -/
def keys (m : κ → Option ν) : Set κ := {k | m k ≠ none}

@[simp] theorem mem_keys {m : κ → Option ν} {k : κ} : k ∈ keys m ↔ m k ≠ none := Iff.rfl

@[simp] theorem keys_empty : keys (fun _ : κ => (none : Option ν)) = ∅ := by
  ext k
  simp

variable [DecidableEq κ]

/-- The keys after an entry was stored. Kind: L -/
@[simp] theorem keys_update (m : κ → Option ν) (k : κ) (v : ν) :
    keys (Function.update m k (some v)) = insert k (keys m) := by
  ext k'
  by_cases hk : k' = k
  · subst hk
    simp
  · simp [hk]

/-- One access to a table with room for `n` entries. Kind: D -/
inductive TableStep (n : ℕ) : (κ → Option ν) → (κ → Option ν) → Prop
  | keep (m : κ → Option ν) : TableStep n m m
  | store (m : κ → Option ν) (k : κ) (v : ν) (hroom : k ∈ keys m ∨ (keys m).ncard < n) :
      TableStep n m (Function.update m k (some v))

namespace TableStep

variable {n : ℕ} {m m' : κ → Option ν}

/-- No more entries than there is room for. Kind: L -/
theorem bounded (h : TableStep n m m') (hm : (keys m).ncard ≤ n) : (keys m').ncard ≤ n := by
  cases h with
  | keep => exact hm
  | store k v hroom =>
    rw [keys_update]
    rcases hroom with hk | hlt
    · rwa [Set.insert_eq_of_mem hk]
    · exact (Set.ncard_insert_le k (keys m)).trans hlt

/-- A full table gets no key. Kind: L -/
theorem full (h : TableStep n m m') (hfull : n ≤ (keys m).ncard) : keys m' = keys m := by
  cases h with
  | keep => rfl
  | store k v hroom =>
    rw [keys_update, Set.insert_eq_of_mem (hroom.resolve_right (not_lt.mpr hfull))]

/-- **A full table keeps its keys.** Kind: P -/
theorem run_full (h : Relation.ReflTransGen (TableStep n) m m') (hfull : n ≤ (keys m).ncard) :
    keys m' = keys m := by
  induction h with
  | refl => rfl
  | tail _ hstep ih => rw [hstep.full (by rwa [ih]), ih]

end TableStep

end ScionIp.Lib
