import Mathlib

/-!
# Computations that may raise

* `ok_bind`, `error_bind`, `bind_eq_ok_iff`, `bind_eq_error_iff`, `mapM_eq_ok_iff` — one statement
  after another.
* `RaisesOnly P x` says that every exception of `x` satisfies `P`. One rule for each way a
  computation is put together.
-/

namespace ScionIp.Lib

variable {ε α β : Type} {P Q : ε → Prop}

/-! ## One statement after another -/

/-- A statement that raises nothing. Kind: L -/
@[simp] theorem ok_bind (a : α) (f : α → Except ε β) : ((.ok a : Except ε α) >>= f) = f a := rfl

/-- A statement that raises ends the function. Kind: L -/
@[simp] theorem error_bind (exc : ε) (f : α → Except ε β) :
    ((.error exc : Except ε α) >>= f) = .error exc := rfl

/-- An exception is no result. Kind: L -/
theorem not_exists_error_eq_ok (exc : ε) : ¬ ∃ a, (.error exc : Except ε α) = .ok a := by
  rintro ⟨a, h⟩
  cases h

/-- A result of two statements one after the other. Kind: L -/
theorem bind_eq_ok_iff {x : Except ε α} {f : α → Except ε β} {b : β} :
    (x >>= f) = .ok b ↔ ∃ a, x = .ok a ∧ f a = .ok b := by
  cases x with
  | error exc => exact iff_of_false (fun h => by cases h) (fun ⟨a, h, _⟩ => by cases h)
  | ok a =>
      rw [ok_bind]
      constructor
      · intro h
        exact ⟨a, rfl, h⟩
      · rintro ⟨a', h, hf⟩
        cases h
        exact hf

/-- An exception of two statements one after the other. Kind: L -/
theorem bind_eq_error_iff {x : Except ε α} {f : α → Except ε β} {exc : ε} :
    (x >>= f) = .error exc ↔ x = .error exc ∨ ∃ a, x = .ok a ∧ f a = .error exc := by
  cases x with
  | error exc' =>
      rw [error_bind, Except.error.injEq, Except.error.injEq, or_iff_left]
      rintro ⟨a, h, -⟩
      cases h
  | ok a =>
      rw [ok_bind, or_iff_right (fun h => by cases h)]
      constructor
      · intro h
        exact ⟨a, rfl, h⟩
      · rintro ⟨a', h, hf⟩
        cases h
        exact hf

/-- A result for each element of a list. Kind: L -/
theorem mapM_eq_ok_iff {f : α → Except ε β} {as : List α} {bs : List β} :
    as.mapM f = .ok bs ↔ List.Forall₂ (fun a b => f a = .ok b) as bs := by
  induction as generalizing bs with
  | nil =>
      rw [List.mapM_nil, List.forall₂_nil_left_iff]
      constructor
      · intro h
        exact (Except.ok.inj h).symm
      · rintro rfl
        rfl
  | cons a as ih =>
      rw [List.mapM_cons, bind_eq_ok_iff, List.forall₂_cons_left_iff]
      constructor
      · rintro ⟨b, hb, hrest⟩
        obtain ⟨bs', hbs', hok⟩ := bind_eq_ok_iff.mp hrest
        exact ⟨b, bs', hb, ih.mp hbs', (Except.ok.inj hok).symm⟩
      · rintro ⟨b, bs', hb, hbs', rfl⟩
        exact ⟨b, hb, bind_eq_ok_iff.mpr ⟨bs', ih.mpr hbs', rfl⟩⟩

/-- When there is a result for each element. Kind: L -/
theorem exists_mapM_eq_ok_iff {f : α → Except ε β} {as : List α} :
    (∃ bs, as.mapM f = .ok bs) ↔ ∀ a ∈ as, ∃ b, f a = .ok b := by
  simp only [mapM_eq_ok_iff]
  induction as with
  | nil => exact iff_of_true ⟨[], .nil⟩ fun a ha => absurd ha List.not_mem_nil
  | cons a as ih =>
      rw [List.forall_mem_cons, ← ih]
      constructor
      · rintro ⟨bs, hbs⟩
        obtain ⟨b, bs', hb, hbs', -⟩ := List.forall₂_cons_left_iff.mp hbs
        exact ⟨⟨b, hb⟩, bs', hbs'⟩
      · rintro ⟨⟨b, hb⟩, bs', hbs'⟩
        exact ⟨b :: bs', .cons hb hbs'⟩

/-! ## Exceptions -/

/-- Every exception of the computation satisfies `P`. Kind: D -/
def RaisesOnly (P : ε → Prop) (x : Except ε α) : Prop := ∀ exc, x = .error exc → P exc

namespace RaisesOnly

/-- A result raises nothing. Kind: L -/
theorem ok (a : α) : RaisesOnly P (.ok a : Except ε α) := by
  intro exc h
  cases h

/-- An exception raises itself. Kind: L -/
theorem error {exc : ε} (h : P exc) : RaisesOnly P (.error exc : Except ε α) := by
  intro exc' heq
  cases heq
  exact h

/-- A weaker condition. Kind: L -/
theorem mono {x : Except ε α} (hx : RaisesOnly P x) (h : ∀ exc, P exc → Q exc) : RaisesOnly Q x :=
  fun exc heq => h exc (hx exc heq)

/-- One computation after another. Kind: L -/
theorem bind {x : Except ε α} {f : α → Except ε β} (hx : RaisesOnly P x)
    (hf : ∀ a, x = .ok a → RaisesOnly P (f a)) : RaisesOnly P (x >>= f) := by
  cases x with
  | error exc => exact error (hx exc rfl)
  | ok a => exact hf a rfl

/-- A computation for each element of a list. Kind: L -/
theorem mapM {f : α → Except ε β} {as : List α} (hf : ∀ a ∈ as, RaisesOnly P (f a)) :
    RaisesOnly P (as.mapM f) := by
  induction as with
  | nil => exact ok []
  | cons a as ih =>
      rw [List.mapM_cons]
      apply bind (hf a List.mem_cons_self)
      intro b _
      apply bind (ih fun c hc => hf c (List.mem_cons_of_mem a hc))
      intro bs _
      exact ok (b :: bs)

/-- A loop over a list. Kind: L -/
theorem foldlM {f : β → α → Except ε β} {as : List α} (hf : ∀ b, ∀ a ∈ as, RaisesOnly P (f b a))
    (b : β) : RaisesOnly P (as.foldlM f b) := by
  induction as generalizing b with
  | nil => exact ok b
  | cons a as ih =>
      rw [List.foldlM_cons]
      apply bind (hf b a List.mem_cons_self)
      intro c _
      exact ih (fun d e he => hf d e (List.mem_cons_of_mem a he)) c

end RaisesOnly

end ScionIp.Lib
