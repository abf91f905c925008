import Mathlib

/-!
# Transition systems and their invariants

A system is a set of initial states and a step relation. `Reachable` is what any interleaving of
steps, of any length, leads to; `Reachable.invariant` is the one induction over runs: a predicate
that holds initially and is kept by every step holds in every reachable state.

Where a property is about what happened in a run, the steps are labelled (`LabelledSystem`), and the
labels are recorded beside the state. Recording them restricts nothing (`reachable_iff`).
-/

namespace ScionIp.Lib

/-- Initial states and steps. Kind: D -/
structure TransitionSystem (σ : Type*) where
  init : σ → Prop
  step : σ → σ → Prop

namespace TransitionSystem

variable {σ : Type*} (M : TransitionSystem σ)

/-- The states some run ends in. Kind: D -/
inductive Reachable : σ → Prop
  | init {s : σ} : M.init s → Reachable s
  | step {s t : σ} : Reachable s → M.step s t → Reachable t

/-- A predicate that holds initially and is kept by every step. Kind: D -/
structure Invariant (I : σ → Prop) : Prop where
  init : ∀ s, M.init s → I s
  step : ∀ s t, I s → M.step s t → I t

variable {M}

/-- **An invariant holds in every reachable state.** Kind: P -/
theorem Reachable.invariant {I : σ → Prop} (hI : M.Invariant I) {s : σ} (hs : M.Reachable s) :
    I s := by
  induction hs with
  | init h => exact hI.init _ h
  | step _ hst ih => exact hI.step _ _ ih hst

/-- What a run from a reachable state leads to is reachable. Kind: L -/
theorem Reachable.run {s t : σ} (hs : M.Reachable s) (h : Relation.ReflTransGen M.step s t) :
    M.Reachable t := by
  induction h with
  | refl => exact hs
  | tail _ hst ih => exact ih.step hst

end TransitionSystem

/-! ## What happened in a run -/

/-- Initial states and steps that say what happens in them. Kind: D -/
structure LabelledSystem (σ ℓ : Type*) where
  init : σ → Prop
  step : σ → ℓ → σ → Prop

namespace LabelledSystem

variable {σ ℓ : Type*} (M : LabelledSystem σ ℓ)

/-- The system without its labels. Kind: D -/
def unlabelled : TransitionSystem σ where
  init := M.init
  step s t := ∃ l, M.step s l t

/-- The system with the labels of the run so far, the latest one first. Kind: D -/
def recorded : TransitionSystem (σ × List ℓ) where
  init r := M.init r.1 ∧ r.2 = []
  step r r' := ∃ l, M.step r.1 l r'.1 ∧ r'.2 = l :: r.2

variable {M}

/-- **Every run can be recorded, and nothing else is.** Kind: P -/
theorem reachable_iff {s : σ} :
    M.unlabelled.Reachable s ↔ ∃ labels, M.recorded.Reachable (s, labels) := by
  constructor
  · intro hs
    induction hs with
    | init h => exact ⟨[], .init ⟨h, rfl⟩⟩
    | step _ hst ih =>
        obtain ⟨labels, hrec⟩ := ih
        obtain ⟨l, hl⟩ := hst
        exact ⟨l :: labels, hrec.step ⟨l, hl, rfl⟩⟩
  · rintro ⟨labels, hrec⟩
    have hinv : M.recorded.Invariant fun r => M.unlabelled.Reachable r.1 := by
      refine ⟨fun r hinit => .init hinit.1, ?_⟩
      rintro r r' hr ⟨l, hl, -⟩
      exact hr.step ⟨l, hl⟩
    exact hrec.invariant hinv

end LabelledSystem

end ScionIp.Lib
