import Mathlib

/-!
# Tables written once per key

A memo table asks for the value of a key it does not know and keeps the answer, if there is one.
`rememberAll_apply` says what such a table holds after any sequence of questions: for each key the
first answer that was given.
-/

namespace ScionIp.Lib

variable {κ ν : Type} [DecidableEq κ]

/-- The table after a question: an answer for an unknown key is kept. Kind: D -/
def remember (table : κ → Option ν) (key : κ) (answer : Option ν) : κ → Option ν :=
  match table key, answer with
  | none, some value => Function.update table key (some value)
  | _, _ => table

/-- The table after questions one after the other. Kind: D -/
def rememberAll (table : κ → Option ν) (asked : List (κ × Option ν)) : κ → Option ν :=
  asked.foldl (fun table question => remember table question.1 question.2) table

/-- What is known is not overwritten. Kind: L -/
theorem remember_of_known {table : κ → Option ν} {key : κ} {value : ν} (h : table key = some value)
    (answer : Option ν) : remember table key answer = table := by
  unfold remember
  rw [h]

/-- Without an answer nothing is kept. Kind: L -/
theorem remember_none (table : κ → Option ν) (key : κ) : remember table key none = table := by
  unfold remember
  cases table key <;> rfl

/-- An answer for an unknown key is kept. Kind: L -/
theorem remember_of_unknown {table : κ → Option ν} {key : κ} (h : table key = none) (value : ν) :
    remember table key (some value) = Function.update table key (some value) := by
  unfold remember
  rw [h]

/-- One question changes one key. Kind: L -/
theorem remember_apply (table : κ → Option ν) (key : κ) (answer : Option ν) (k : κ) :
    remember table key answer k = (table k).or (if key = k then answer else none) := by
  cases hknown : table key with
  | some value =>
      rw [remember_of_known hknown]
      by_cases hkey : key = k
      · rw [← hkey, hknown, Option.some_or]
      · rw [if_neg hkey, Option.or_none]
  | none =>
      cases answer with
      | none => rw [remember_none, ite_self, Option.or_none]
      | some value =>
          rw [remember_of_unknown hknown]
          by_cases hkey : key = k
          · rw [← hkey, Function.update_self, hknown, if_pos rfl, Option.none_or]
          · rw [Function.update_of_ne (Ne.symm hkey), if_neg hkey, Option.or_none]

/-- **After any sequence of questions the table holds the first answer for each key.** Kind: P -/
theorem rememberAll_apply (table : κ → Option ν) (asked : List (κ × Option ν)) (k : κ) :
    rememberAll table asked k = (table k).or
      (asked.findSome? fun question => if question.1 = k then question.2 else none) := by
  induction asked generalizing table with
  | nil => exact (Option.or_none).symm
  | cons question asked ih =>
      show rememberAll (remember table question.1 question.2) asked k = _
      rw [ih, remember_apply, Option.or_assoc]
      congr 1
      rw [List.findSome?_cons]
      cases (if question.1 = k then question.2 else none) with
      | none => rfl
      | some value => rfl

end ScionIp.Lib
