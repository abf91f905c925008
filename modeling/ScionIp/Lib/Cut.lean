import Mathlib

/-!
# Cutting a list at a separator

A parser that looks for the first occurrence of a separator goes on with what stands before it and
what stands behind it.

* `cut_iff` — the part up to the first separator and the rest, as an equation of the whole list.
* `append_cons_inj` — a list is cut at its first separator in one way.
-/

namespace ScionIp.Lib

variable {α : Type*} [DecidableEq α] {sep : α}

/-- There is nothing behind a separator that does not occur. Kind: L -/
theorem dropWhile_ne_eq_nil_iff (xs : List α) : xs.dropWhile (· ≠ sep) = [] ↔ sep ∉ xs := by
  rw [List.dropWhile_eq_nil_iff]
  constructor
  · intro h hmem
    exact absurd (h sep hmem) (by simp)
  · intro h x hx
    rw [decide_eq_true_iff]
    rintro rfl
    exact h hx

/-- The rest starts with the separator. Kind: L -/
theorem head_of_dropWhile_ne {xs rest : List α} {x : α} (h : xs.dropWhile (· ≠ sep) = x :: rest) :
    x = sep := by
  have hhead := List.head?_dropWhile_not (· ≠ sep) xs
  rw [h, List.head?_cons] at hhead
  simpa using hhead

/-- **The first separator.** Kind: L -/
theorem cut_iff (xs before behind : List α) :
    xs.takeWhile (· ≠ sep) = before ∧ xs.dropWhile (· ≠ sep) = sep :: behind ↔
      xs = before ++ sep :: behind ∧ sep ∉ before := by
  constructor
  · rintro ⟨rfl, hdrop⟩
    refine ⟨?_, fun hmem => absurd (List.mem_takeWhile_imp hmem) (by simp)⟩
    rw [← hdrop, List.takeWhile_append_dropWhile]
  · rintro ⟨rfl, hnot⟩
    have hall : ∀ x ∈ before, (decide (x ≠ sep)) = true := by
      intro x hx
      rw [decide_eq_true_iff]
      rintro rfl
      exact hnot hx
    constructor
    · rw [List.takeWhile_append_of_pos hall, List.takeWhile_cons_of_neg (by simp), List.append_nil]
    · rw [List.dropWhile_append_of_pos hall, List.dropWhile_cons_of_neg (by simp)]

/-- **A list is cut in one way.** Kind: L -/
theorem append_cons_inj {before before' behind behind' : List α} (hnot : sep ∉ before)
    (hnot' : sep ∉ before') (h : before ++ sep :: behind = before' ++ sep :: behind') :
    before = before' ∧ behind = behind' := by
  obtain ⟨htake, hdrop⟩ := (cut_iff _ before behind).mpr ⟨rfl, hnot⟩
  obtain ⟨htake', hdrop'⟩ := (cut_iff _ before' behind').mpr ⟨h, hnot'⟩
  rw [htake] at htake'
  rw [hdrop] at hdrop'
  exact ⟨htake', (List.cons.inj hdrop').2⟩

end ScionIp.Lib
