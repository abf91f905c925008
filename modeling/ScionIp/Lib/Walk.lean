import Mathlib

/-!
# Bounded walks

A walk goes from state to state until it ends or is refused, as a parser does that follows a chain
of headers.

* `Steps step k s t` — `k` moves lead from `s` to `t`; `Ends` — and there the walk ends.
* `walk` — the loop of a program, which gives up after a fixed number of iterations;
  `walk_eq_some_iff` says which ends it finds. An iteration is spent on seeing that the end is
  reached, so the loop finds the ends that are fewer moves away than it has iterations.
* `Ends.unique`, `Ends.of_steps` — the end and every state on the way to it are determined.
* `ends_map_iff` — a walk that another one imitates, state by state.
-/

namespace ScionIp.Lib

/-- What the walk does in a state. Kind: D -/
inductive Move (σ : Type*) where
  | refused
  | ended
  | moved (t : σ)

variable {σ : Type*} {step step' : σ → Move σ}

/-- The end of a walk, if at most `n` iterations reach and recognise it. Kind: D -/
def walk (step : σ → Move σ) : ℕ → σ → Option σ
  | 0, _ => none
  | n + 1, s =>
      match step s with
      | .refused => none
      | .ended => some s
      | .moved t => walk step n t

/-- A number of moves leads from a state to another one. Kind: D -/
inductive Steps (step : σ → Move σ) : ℕ → σ → σ → Prop
  | refl (s : σ) : Steps step 0 s s
  | head {k : ℕ} {s t u : σ} : step s = .moved t → Steps step k t u → Steps step (k + 1) s u

/-- The walk ends after a number of moves. Kind: D -/
def Ends (step : σ → Move σ) (k : ℕ) (s t : σ) : Prop := Steps step k s t ∧ step t = .ended

/-! ## Moves -/

/-- Moves after moves. Kind: L -/
theorem Steps.trans {k l : ℕ} {s t u : σ} (h : Steps step k s t) (h' : Steps step l t u) :
    Steps step (k + l) s u := by
  induction h with
  | refl s =>
      rw [Nat.zero_add]
      exact h'
  | head hmove _ ih =>
      rw [Nat.add_right_comm]
      exact .head hmove (ih h')

/-- Another walk that makes the same moves. Kind: L -/
theorem Steps.mono (hstep : ∀ s t, step s = .moved t → step' s = .moved t) {k : ℕ} {s t : σ}
    (h : Steps step k s t) : Steps step' k s t := by
  induction h with
  | refl s => exact .refl s
  | head hmove _ ih => exact .head (hstep _ _ hmove) ih

/-- What every move keeps. Kind: L -/
theorem Steps.invariant {I : σ → Prop} (hI : ∀ s t, I s → step s = .moved t → I t) {k : ℕ}
    {s t : σ} (h : Steps step k s t) (hs : I s) : I t := by
  induction h with
  | refl s => exact hs
  | head hmove _ ih => exact ih (hI _ _ hs hmove)

/-! ## Ends -/

/-- The walk ends where it stands. Kind: L -/
theorem Ends.refl {s : σ} (h : step s = .ended) : Ends step 0 s s := ⟨.refl s, h⟩

/-- Moves, and then an end. Kind: L -/
theorem Steps.ends {k l : ℕ} {s t u : σ} (h : Steps step k s t) (h' : Ends step l t u) :
    Ends step (k + l) s u := ⟨h.trans h'.1, h'.2⟩

/-- **A walk that ends does so through every state it moves to.** The induction is on the moves
that are known. Kind: L -/
theorem Ends.of_steps {k l : ℕ} {s t u : σ} (h : Ends step k s u) (h' : Steps step l s t) :
    ∃ m, k = l + m ∧ Ends step m t u := by
  induction h' generalizing k with
  | refl s => exact ⟨k, (Nat.zero_add k).symm, h⟩
  | @head l s t' t hmove _ ih =>
      obtain ⟨hsteps, hend⟩ := h
      cases hsteps with
      | refl =>
          rw [hmove] at hend
          cases hend
      | @head k _ t'' _ hmove' hrest =>
          rw [hmove] at hmove'
          cases hmove'
          obtain ⟨m, rfl, hm⟩ := ih ⟨hrest, hend⟩
          exact ⟨m, Nat.add_right_comm l m 1, hm⟩

/-- **A walk has one end.** Kind: L -/
theorem Ends.unique {k l : ℕ} {s t u : σ} (h : Ends step k s t) (h' : Ends step l s u) :
    k = l ∧ t = u := by
  obtain ⟨m, rfl, hrest, -⟩ := h.of_steps h'.1
  cases hrest with
  | refl => exact ⟨rfl, rfl⟩
  | head hmove _ =>
      rw [h'.2] at hmove
      cases hmove

/-! ## Imitation -/

section map

variable {τ : Type*} {stepTo : τ → Move τ} {g : σ → τ}

/-- The move between other states. Kind: D -/
def Move.map (g : σ → τ) : Move σ → Move τ
  | .refused => .refused
  | .ended => .ended
  | .moved t => .moved (g t)

/-- The imitation ends where the walk does. Kind: L -/
theorem Move.map_eq_ended_iff {m : Move σ} : m.map g = .ended ↔ m = .ended := by
  cases m with
  | refused => exact iff_of_false (fun h => by cases h) (fun h => by cases h)
  | ended => exact iff_of_true rfl rfl
  | moved t => exact iff_of_false (fun h => by cases h) (fun h => by cases h)

/-- The imitation moves as the walk does. Kind: L -/
theorem Move.map_eq_moved_iff {m : Move σ} {u : τ} :
    m.map g = .moved u ↔ ∃ t, m = .moved t ∧ g t = u := by
  cases m with
  | refused => exact iff_of_false (fun h => by cases h) (fun ⟨_, h, _⟩ => by cases h)
  | ended => exact iff_of_false (fun h => by cases h) (fun ⟨_, h, _⟩ => by cases h)
  | moved t => simp [Move.map]

/-- **The ends of the imitation** are those of the walk. Both directions are by induction on the
moves. Kind: L -/
theorem ends_map_iff (hg : ∀ s, stepTo (g s) = (step s).map g) {k : ℕ} {s : σ} {u : τ} :
    Ends stepTo k (g s) u ↔ ∃ t, g t = u ∧ Ends step k s t := by
  constructor
  · rintro ⟨hsteps, hend⟩
    generalize hx : g s = x at hsteps
    induction hsteps generalizing s with
    | refl x =>
        subst hx
        rw [hg, Move.map_eq_ended_iff] at hend
        exact ⟨s, rfl, .refl hend⟩
    | head hmove _ ih =>
        subst hx
        rw [hg, Move.map_eq_moved_iff] at hmove
        obtain ⟨t, ht, hgt⟩ := hmove
        obtain ⟨v, hgv, hrest⟩ := ih hend hgt
        exact ⟨v, hgv, .head ht hrest.1, hrest.2⟩
  · rintro ⟨t, rfl, hsteps, hend⟩
    refine ⟨?_, by rw [hg, Move.map_eq_ended_iff]; exact hend⟩
    clear hend
    induction hsteps with
    | refl s => exact .refl _
    | @head k s t' u hmove _ ih =>
        exact .head (by rw [hg, Move.map_eq_moved_iff]; exact ⟨t', hmove, rfl⟩) ih

end map

/-! ## The loop -/

/-- **The ends a loop of `n` iterations finds**: those fewer than `n` moves away. Kind: P -/
theorem walk_eq_some_iff (n : ℕ) (s t : σ) :
    walk step n s = some t ↔ ∃ k < n, Ends step k s t := by
  induction n generalizing s with
  | zero =>
      refine iff_of_false (fun h => by cases h) ?_
      rintro ⟨k, hk, -⟩
      exact absurd hk (Nat.not_lt_zero k)
  | succ n ih =>
      rw [walk]
      cases hs : step s with
      | refused =>
          refine iff_of_false (fun h => by cases h) ?_
          rintro ⟨k, -, hsteps, hend⟩
          cases hsteps with
          | refl =>
              rw [hs] at hend
              cases hend
          | head hmove _ =>
              rw [hs] at hmove
              cases hmove
      | ended =>
          rw [Option.some.injEq]
          constructor
          · rintro rfl
            exact ⟨0, Nat.succ_pos n, .refl hs⟩
          · rintro ⟨k, -, hend⟩
            exact ((Ends.refl hs).unique hend).2
      | moved u =>
          simp only [ih]
          constructor
          · rintro ⟨k, hk, hend⟩
            exact ⟨k + 1, Nat.succ_lt_succ hk, .head hs hend.1, hend.2⟩
          · rintro ⟨k, hk, hend⟩
            obtain ⟨m, rfl, hm⟩ := hend.of_steps (.head hs (.refl u))
            exact ⟨m, by omega, hm⟩

end ScionIp.Lib
