import Mathlib

/-!
# Numbers as text

* `digitVal`, `isDigitOf b` — the value of a digit, letters of either case counting from ten, and
  whether a character is a digit in base `b`.
* `valOf b` — the number a string of digits spells. `Nat.toDigits b` is the shortest text of a
  number, in lower case; `valOf_toDigits` reads it back.
* `valOf_lt`, `isDigitOf_of_mem_toDigits` — the bounds a parser of fixed width needs.
* `digitRun b` — the digits a text starts with, as far as they go.
-/

namespace ScionIp.Lib

/-- A string of characters. Kind: D -/
abbrev Text := List Char

/-- The value of a digit; 36 for a character that is no digit in any base up to 36. Kind: D -/
def digitVal (c : Char) : ℕ :=
  if '0' ≤ c ∧ c ≤ '9' then c.toNat - 48
  else if 'a' ≤ c ∧ c ≤ 'z' then c.toNat - 87
  else if 'A' ≤ c ∧ c ≤ 'Z' then c.toNat - 55
  else 36

/-- Is the character a digit in base `b`? Kind: D -/
def isDigitOf (b : ℕ) (c : Char) : Bool := digitVal c < b

/-- The number a string of digits spells in base `b`, most significant digit first. Kind: D -/
def valOf (b : ℕ) (cs : Text) : ℕ := cs.foldl (fun n c => n * b + digitVal c) 0

/-- The digits in base `b` a text starts with. Kind: D -/
def digitRun (b : ℕ) (cs : Text) : Text := cs.takeWhile (isDigitOf b)

/-! ## Reading digits -/

/-- The empty text spells zero. Kind: L -/
@[simp] theorem valOf_nil (b : ℕ) : valOf b [] = 0 := rfl

/-- One more digit at the end. Kind: L -/
@[simp] theorem valOf_concat (b : ℕ) (cs : Text) (c : Char) :
    valOf b (cs ++ [c]) = valOf b cs * b + digitVal c := by
  rw [valOf, List.foldl_append]
  rfl

/-- Digits spell a number below the power of the base. Kind: L -/
theorem valOf_lt {b : ℕ} {cs : Text} (h : ∀ c ∈ cs, isDigitOf b c = true) :
    valOf b cs < b ^ cs.length := by
  induction cs using List.reverseRecOn with
  | nil => simp
  | append_singleton cs c ih =>
      have hcs := ih fun d hd => h d (List.mem_append_left _ hd)
      have hc : digitVal c < b := by
        simpa [isDigitOf] using h c (List.mem_append_right _ (List.mem_singleton_self c))
      rw [valOf_concat, List.length_append, List.length_singleton, pow_succ]
      calc valOf b cs * b + digitVal c < valOf b cs * b + b := by omega
        _ = (valOf b cs + 1) * b := by ring
        _ ≤ b ^ cs.length * b := Nat.mul_le_mul_right b hcs

/-! ## Writing digits -/

/-- The value of the digit written for `d`. Kind: L -/
theorem digitVal_digitChar {d : ℕ} (h : d < 16) : digitVal (Nat.digitChar d) = d := by
  interval_cases d <;> decide

section toDigits

variable {b : ℕ} (hb : 1 < b) (hb16 : b ≤ 16)

include hb hb16

/-- **The text of a number spells it.** Kind: P -/
theorem valOf_toDigits (n : ℕ) : valOf b (Nat.toDigits b n) = n := by
  induction n using Nat.strongRecOn with
  | ind n ih =>
      by_cases hn : n < b
      · rw [Nat.toDigits_of_lt_base hn, ← List.nil_append [n.digitChar], valOf_concat, valOf_nil,
          digitVal_digitChar (by omega)]
        omega
      · have hdiv : n / b < n := Nat.div_lt_self (by omega) hb
        rw [Nat.toDigits_of_base_le hb (not_lt.mp hn), valOf_concat, ih _ hdiv,
          digitVal_digitChar (by have := Nat.mod_lt n (show 0 < b by omega); omega),
          Nat.div_add_mod']

/-- The text of a number consists of digits. Kind: L -/
theorem isDigitOf_of_mem_toDigits {n : ℕ} {c : Char} (hc : c ∈ Nat.toDigits b n) :
    isDigitOf b c = true := by
  induction n using Nat.strongRecOn with
  | ind n ih =>
      have hdigit : ∀ d < b, isDigitOf b (Nat.digitChar d) = true := by
        intro d hd
        rw [isDigitOf, digitVal_digitChar (by omega), decide_eq_true_iff]
        exact hd
      by_cases hn : n < b
      · rw [Nat.toDigits_of_lt_base hn, List.mem_singleton] at hc
        rw [hc]
        exact hdigit n hn
      · rw [Nat.toDigits_of_base_le hb (not_lt.mp hn), List.mem_append, List.mem_singleton] at hc
        rcases hc with hc | rfl
        · exact ih _ (Nat.div_lt_self (by omega) hb) hc
        · exact hdigit _ (Nat.mod_lt _ (by omega))

/-- A character that is no digit does not occur in the text of a number. Kind: L -/
theorem not_mem_toDigits (n : ℕ) {c : Char} (hc : isDigitOf b c = false) :
    c ∉ Nat.toDigits b n := by
  intro hmem
  rw [isDigitOf_of_mem_toDigits hb hb16 hmem] at hc
  cases hc

/-- The run of digits of a number ends where the number ends. Kind: L -/
theorem digitRun_toDigits_append (n : ℕ) {rest : Text} (hrest : digitRun b rest = []) :
    digitRun b (Nat.toDigits b n ++ rest) = Nat.toDigits b n := by
  rw [digitRun, List.takeWhile_append_of_pos
    (fun c hc => isDigitOf_of_mem_toDigits hb hb16 hc)]
  rw [digitRun] at hrest
  rw [hrest, List.append_nil]

end toDigits

/-! ## Runs of digits -/

/-- A run consists of digits. Kind: L -/
theorem isDigitOf_of_mem_digitRun {b : ℕ} {cs : Text} {c : Char} (hc : c ∈ digitRun b cs) :
    isDigitOf b c = true := List.mem_takeWhile_imp hc

/-- A run is no longer than the text. Kind: L -/
theorem length_digitRun_le (b : ℕ) (cs : Text) : (digitRun b cs).length ≤ cs.length :=
  (List.takeWhile_sublist _).length_le

/-- A character that is no digit ends every run. Kind: L -/
theorem digitRun_append_cons {b : ℕ} (cs : Text) {c : Char} (hc : isDigitOf b c = false)
    (rest : Text) : digitRun b (cs ++ c :: rest) = digitRun b cs := by
  induction cs with
  | nil => simp [digitRun, hc]
  | cons d cs ih =>
      rw [digitRun] at ih
      by_cases hd : isDigitOf b d = true
      · simp only [digitRun, List.cons_append, List.takeWhile_cons, hd, if_true] at ih ⊢
        rw [ih]
      · simp only [digitRun, List.cons_append, List.takeWhile_cons, hd, if_false,
          Bool.false_eq_true]

end ScionIp.Lib
