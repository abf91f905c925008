import Mathlib

/-!
# Computations that change a state and may fail

`Post x s Q E` says what `x` does from `s`: its result and the state satisfy `Q`, or its failure and
the state satisfy `E`; a failure keeps the changes made before it. One rule for each way a
computation is put together.
-/

namespace ScionIp.Lib

variable {ε σ α β : Type}

/-! ## Running -/

/-- The state a computation ends in, with a result or without. Kind: D -/
def finalState : EStateM.Result ε σ α → σ
  | .ok _ s => s
  | .error _ s => s

/-- The computation from `s` ends as `Q` says, or fails as `E` says. Kind: D -/
def Post (x : EStateM ε σ α) (s : σ) (Q : α → σ → Prop) (E : ε → σ → Prop) : Prop :=
  match x s with
  | .ok a s' => Q a s'
  | .error e s' => E e s'

/-! ## Rules -/

variable {s : σ} {Q : α → σ → Prop} {R : β → σ → Prop} {E : ε → σ → Prop}

/-- A result. Kind: L -/
theorem post_pure (a : α) : Post (pure a) s Q E ↔ Q a s := Iff.rfl

/-- A failure. Kind: L -/
theorem post_throw (e : ε) : Post (throw e : EStateM ε σ α) s Q E ↔ E e s := Iff.rfl

/-- A read. Kind: L -/
theorem post_get {Q : σ → σ → Prop} : Post get s Q E ↔ Q s s := Iff.rfl

/-- A change of the state. Kind: L -/
theorem post_modify (f : σ → σ) {Q : PUnit → σ → Prop} :
    Post (modify f) s Q E ↔ Q ⟨⟩ (f s) := Iff.rfl

/-- One computation after another. Kind: L -/
theorem post_bind (x : EStateM ε σ α) (f : α → EStateM ε σ β) :
    Post (x >>= f) s R E ↔ Post x s (fun a s' => Post (f a) s' R E) E := by
  have hrun : (x >>= f) s = match x s with
      | .ok a s' => f a s'
      | .error e s' => .error e s' := rfl
  unfold Post
  rw [hrun]
  cases x s <;> rfl

/-- A computation that leaves the state alone, by its outcomes. Kind: L -/
theorem post_liftExcept (x : Except ε α) :
    Post (liftExcept x : EStateM ε σ α) s Q E ↔
      (∀ a, x = .ok a → Q a s) ∧ ∀ e, x = .error e → E e s := by
  cases x with
  | ok a =>
      constructor
      · intro h
        refine ⟨fun a' ha => Except.ok.inj ha ▸ h, ?_⟩
        intro e he
        cases he
      · intro h
        exact h.1 a rfl
  | error e =>
      constructor
      · intro h
        refine ⟨?_, fun e' he => Except.error.inj he ▸ h⟩
        intro a ha
        cases ha
      · intro h
        exact h.2 e rfl

/-- A handler around a computation. Kind: L -/
theorem post_tryCatch (x : EStateM ε σ α) (handle : ε → EStateM ε σ α) :
    Post (tryCatch x handle) s Q E ↔ Post x s Q fun e s' => Post (handle e) s' Q E := by
  have hrun : tryCatch x handle s = match x s with
      | .ok a s' => .ok a s'
      | .error e s' => handle e s' := by
    show EStateM.tryCatch x handle s = _
    unfold EStateM.tryCatch
    cases x s <;> rfl
  unfold Post
  rw [hrun]
  cases x s <;> rfl

/-- Weaker conditions. Kind: L -/
theorem Post.mono {x : EStateM ε σ α} {Q' : α → σ → Prop} {E' : ε → σ → Prop} (h : Post x s Q E)
    (hQ : ∀ a s', Q a s' → Q' a s') (hE : ∀ e s', E e s' → E' e s') : Post x s Q' E' := by
  unfold Post at h ⊢
  cases hx : x s with
  | ok a s' =>
      rw [hx] at h
      exact hQ a s' h
  | error e s' =>
      rw [hx] at h
      exact hE e s' h

/-- What holds on both ways out holds at the end. Kind: L -/
theorem Post.finalState {x : EStateM ε σ α} {P : σ → Prop}
    (h : Post x s (fun _ => P) fun _ => P) : P (finalState (x s)) := by
  unfold Post at h
  cases hx : x s with
  | ok a s' =>
      rw [hx] at h
      exact h
  | error e s' =>
      rw [hx] at h
      exact h

/-- A computation whose result is known. Kind: L -/
theorem post_of_ok {x : EStateM ε σ α} {a : α} {s' : σ} (hx : x s = .ok a s') :
    Post x s Q E ↔ Q a s' := by
  unfold Post
  rw [hx]

/-- A computation whose failure is known. Kind: L -/
theorem post_of_error {x : EStateM ε σ α} {e : ε} {s' : σ} (hx : x s = .error e s') :
    Post x s Q E ↔ E e s' := by
  unfold Post
  rw [hx]

/-- A computation ends as it ends. Kind: L -/
theorem post_self (x : EStateM ε σ α) (s : σ) :
    Post x s (fun a s' => x s = .ok a s') fun e s' => x s = .error e s' := by
  unfold Post
  cases x s with
  | ok a s' => rfl
  | error e s' => rfl

/-- What holds of a result. Kind: L -/
theorem Post.of_ok {x : EStateM ε σ α} {a : α} {s' : σ} (h : Post x s Q E)
    (hx : x s = .ok a s') : Q a s' := (post_of_ok hx).mp h

/-- What holds of a failure. Kind: L -/
theorem Post.of_error {x : EStateM ε σ α} {e : ε} {s' : σ} (h : Post x s Q E)
    (hx : x s = .error e s') : E e s' := (post_of_error hx).mp h

/-- A computation without a result fails. Kind: L -/
theorem Post.exists_error {x : EStateM ε σ α} (h : Post x s (fun _ _ => False) E) :
    ∃ e s', x s = .error e s' ∧ E e s' := by
  unfold Post at h
  cases hx : x s with
  | ok a s' =>
      rw [hx] at h
      exact h.elim
  | error e s' =>
      rw [hx] at h
      exact ⟨e, s', rfl, h⟩

/-- Two descriptions of the same computation. Kind: L -/
theorem Post.and {x : EStateM ε σ α} {Q' : α → σ → Prop} {E' : ε → σ → Prop} (h : Post x s Q E)
    (h' : Post x s Q' E') :
    Post x s (fun a s' => Q a s' ∧ Q' a s') fun e s' => E e s' ∧ E' e s' := by
  unfold Post at h h' ⊢
  cases hx : x s with
  | ok a s' =>
      rw [hx] at h h'
      exact ⟨h, h'⟩
  | error e s' =>
      rw [hx] at h h'
      exact ⟨h, h'⟩

end ScionIp.Lib
