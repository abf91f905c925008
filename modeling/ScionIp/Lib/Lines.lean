import ScionIp.Lib.Raises

/-!
# Programs that work line by line

A filter reads lines, writes something for each of them, and stops at the first one it cannot
handle. What one filter writes is read by the next one.

* `unlines`, `readLines` — a text of lines that each have an end, and the lines of any text;
  `readLines_unlines` reads back what was written.
* `words`, `strip` — what is between the separators of a line, and a line without its margins.
* `feed` — a filter; `feed_eq_none_iff` when it reaches the end, `feed_eq_some_iff` where it stops,
  `feed_bind` for the second step of a handler that cannot fail.
* `feed_flatMap` — a filter that is fed what another one has written.
-/

namespace ScionIp.Lib

/-! ## Lines -/

section Lines

variable {α : Type}

/-- A text of lines, each with its end. Kind: D -/
def unlines (nl : α) (ls : List (List α)) : List α := ls.flatMap (· ++ [nl])

@[simp] theorem unlines_cons (nl : α) (l : List α) (ls : List (List α)) :
    unlines nl (l :: ls) = l ++ nl :: unlines nl ls := by
  simp [unlines]

variable [DecidableEq α]

/-- The lines of a text with their ends; the last one may have none. Kind: D -/
def readLines (nl : α) : List α → List (List α)
  | [] => []
  | c :: cs =>
      if c = nl then [c] :: readLines nl cs
      else
        match readLines nl cs with
        | [] => [[c]]
        | l :: ls => (c :: l) :: ls

/-- The first line of a text. Kind: L -/
theorem readLines_append {nl : α} {l : List α} (h : nl ∉ l) (rest : List α) :
    readLines nl (l ++ nl :: rest) = (l ++ [nl]) :: readLines nl rest := by
  induction l with
  | nil => simp [readLines]
  | cons c l ih =>
    have hc : c ≠ nl := fun hc => h (by simp [hc])
    have hl : nl ∉ l := fun hl => h (List.mem_cons_of_mem _ hl)
    simp [readLines, hc, ih hl]

/-- **Lines that were written are read back.** Kind: P -/
theorem readLines_unlines {nl : α} {ls : List (List α)} (h : ∀ l ∈ ls, nl ∉ l) :
    readLines nl (unlines nl ls) = ls.map (· ++ [nl]) := by
  induction ls with
  | nil => rfl
  | cons l ls ih =>
    rw [unlines_cons, readLines_append (h l List.mem_cons_self),
      ih fun l' hl' => h l' (List.mem_cons_of_mem _ hl'), List.map_cons]

end Lines

/-! ## Words -/

section Words

variable {α : Type} {p : α → Bool}

/-- What stands between separators. Kind: D -/
def words (p : α → Bool) (line : List α) : List (List α) :=
  (line.splitOnP p).filter fun word => !word.isEmpty

/-- A line without separators at its ends. Kind: D -/
def strip (p : α → Bool) (line : List α) : List α := (line.dropWhile p).rdropWhile p

@[simp] theorem words_nil : words p [] = [] := by
  simp [words, List.splitOnP_nil]

/-- The first word. Kind: L -/
theorem words_cons {word : List α} (hp : ∀ c ∈ word, p c = false) (hne : word ≠ []) {sep : α}
    (hsep : p sep = true) (rest : List α) :
    words p (word ++ sep :: rest) = word :: words p rest := by
  unfold words
  rw [List.splitOnP_append_cons _ _ hsep, List.splitOnP_eq_singleton hp]
  simp [hne]

/-- **The words of a line** that has one separator between them, and one at its end. Kind: P -/
theorem words_intercalate {sep stop : α} (hsep : p sep = true) (hstop : p stop = true)
    {ws : List (List α)} (hne : ∀ w ∈ ws, w ≠ []) (hp : ∀ w ∈ ws, ∀ c ∈ w, p c = false) :
    words p ([sep].intercalate ws ++ [stop]) = ws := by
  induction ws with
  | nil =>
    show words p [stop] = []
    simp [words, List.splitOnP_cons_eq_if_modifyHead, hstop]
  | cons w ws ih =>
    have hfirst := @words_cons α p w (hp w List.mem_cons_self) (hne w List.mem_cons_self)
    have hrest := ih (fun w hw => hne w (List.mem_cons_of_mem _ hw))
      (fun w hw => hp w (List.mem_cons_of_mem _ hw))
    cases ws with
    | nil => rw [List.intercalate_singleton, hfirst hstop, words_nil]
    | cons w' ws =>
      rw [List.intercalate_cons_cons]
      simp only [List.append_assoc, List.cons_append, List.nil_append]
      rw [hfirst hsep, hrest]

/-- Nothing is stripped off a word but what follows it. Kind: L -/
theorem strip_word {word : List α} (hp : ∀ c ∈ word, p c = false) (hne : word ≠ []) {stop : α}
    (hstop : p stop = true) : strip p (word ++ [stop]) = word := by
  obtain ⟨c, rest, rfl⟩ := List.exists_cons_of_ne_nil hne
  have hc : p c = false := hp c List.mem_cons_self
  rw [strip, List.cons_append, List.dropWhile_cons_of_neg (by simp [hc]), ← List.cons_append,
    List.rdropWhile_concat_pos _ _ _ hstop, List.rdropWhile_eq_self_iff]
  intro hl
  simp [hp _ (List.getLast_mem hl)]

end Words

/-! ## Filters -/

section Filters

variable {α β γ ε : Type}

/-- What is written for the items up to the first one that cannot be handled, and why that one
cannot. Kind: D -/
def feed (handle : α → Except ε (List β)) : List α → List β × Option ε
  | [] => ([], none)
  | x :: xs =>
      match handle x with
      | .error exc => ([], some exc)
      | .ok out => (out ++ (feed handle xs).1, (feed handle xs).2)

variable {handle : α → Except ε (List β)}

/-- One item more. Kind: L -/
theorem feed_cons_ok {x : α} {ys : List β} (h : handle x = .ok ys) (xs : List α) :
    feed handle (x :: xs) = (ys ++ (feed handle xs).1, (feed handle xs).2) := by
  simp [feed, h]

/-- One item that cannot be handled. Kind: L -/
theorem feed_cons_error {x : α} {exc : ε} (h : handle x = .error exc) (xs : List α) :
    feed handle (x :: xs) = ([], some exc) := by
  simp [feed, h]

/-- The filter reaches the end exactly if all items can be handled. Kind: P -/
theorem feed_eq_none_iff (handle : α → Except ε (List β)) (xs : List α) :
    (feed handle xs).2 = none ↔ ∀ x ∈ xs, ∃ ys, handle x = .ok ys := by
  induction xs with
  | nil => simp [feed]
  | cons x xs ih =>
    cases hx : handle x with
    | error exc => simp [feed_cons_error hx, hx]
    | ok ys => simp [feed_cons_ok hx, hx, ih]

/-- **It stops at the first item that cannot be handled.** Kind: P -/
theorem feed_eq_some_iff (handle : α → Except ε (List β)) (xs : List α) (exc : ε) :
    (feed handle xs).2 = some exc ↔ ∃ before x after, xs = before ++ x :: after ∧
      (∀ y ∈ before, ∃ ys, handle y = .ok ys) ∧ handle x = .error exc := by
  induction xs with
  | nil => simp [feed]
  | cons x xs ih =>
    cases hx : handle x with
    | error exc' =>
      rw [feed_cons_error hx]
      constructor
      · intro h
        obtain rfl := Option.some.inj h
        exact ⟨[], x, xs, rfl, by simp, hx⟩
      · rintro ⟨_ | ⟨y, before⟩, z, after, heq, hok, hz⟩
        · obtain ⟨rfl, -⟩ := List.cons.inj heq
          exact congrArg some (Except.error.inj (hx.symm.trans hz))
        · obtain ⟨rfl, -⟩ := List.cons.inj heq
          obtain ⟨ys, hys⟩ := hok x List.mem_cons_self
          cases hx.symm.trans hys
    | ok ys =>
      rw [feed_cons_ok hx, ih]
      constructor
      · rintro ⟨before, z, after, rfl, hok, hz⟩
        exact ⟨x :: before, z, after, rfl, List.forall_mem_cons.mpr ⟨⟨ys, hx⟩, hok⟩, hz⟩
      · rintro ⟨_ | ⟨y, before⟩, z, after, heq, hok, hz⟩
        · obtain ⟨rfl, -⟩ := List.cons.inj heq
          cases hx.symm.trans hz
        · obtain ⟨rfl, rfl⟩ := List.cons.inj heq
          exact ⟨before, z, after, rfl, fun y hy => hok y (List.mem_cons_of_mem _ hy), hz⟩

/-- What holds of all that the handler writes. Kind: L -/
theorem feed_forall {P : β → Prop} (hP : ∀ x ys, handle x = .ok ys → ∀ y ∈ ys, P y)
    (xs : List α) : ∀ y ∈ (feed handle xs).1, P y := by
  induction xs with
  | nil => simp [feed]
  | cons x xs ih =>
    cases hx : handle x with
    | error exc => simp [feed_cons_error hx]
    | ok ys =>
      intro y hy
      rw [feed_cons_ok hx] at hy
      exact (List.mem_append.mp hy).elim (hP x ys hx y) (ih y)

/-- **A second step that cannot fail** works on what the first one reads. Kind: P -/
theorem feed_bind (read : α → Except ε β) (write : β → List γ) (xs : List α) :
    feed (fun x => write <$> read x) xs
      = ((feed (fun x => ([·]) <$> read x) xs).1.flatMap write,
        (feed (fun x => ([·]) <$> read x) xs).2) := by
  induction xs with
  | nil => rfl
  | cons x xs ih =>
    cases hx : read x with
    | error exc =>
      simp [feed, hx]
    | ok b =>
      simp [feed, hx, ih]

/-- What follows is handled if everything in front of it was. Kind: L -/
theorem feed_append (handle : α → Except ε (List β)) (xs rest : List α) :
    feed handle (xs ++ rest) =
      match (feed handle xs).2 with
      | none => ((feed handle xs).1 ++ (feed handle rest).1, (feed handle rest).2)
      | some exc => ((feed handle xs).1, some exc) := by
  induction xs with
  | nil => rfl
  | cons x xs ih =>
    cases hx : handle x with
    | error exc => simp [feed_cons_error hx]
    | ok ys =>
      rw [List.cons_append, feed_cons_ok hx, feed_cons_ok hx, ih]
      cases (feed handle xs).2 <;> simp

/-- **A filter behind a filter**: the second one gets as far as it accepts what the first one has
written for an item. Kind: P -/
theorem feed_flatMap {write : γ → List α} {good : γ → Prop} [DecidablePred good]
    {made : γ → List β} {P : ε → Prop}
    (hgood : ∀ c, good c → feed handle (write c) = (made c, none))
    (hbad : ∀ c, ¬ good c → ∃ exc, P exc ∧ feed handle (write c) = ([], some exc)) (cs : List γ) :
    (feed handle (cs.flatMap write)).1 = (cs.takeWhile good).flatMap made ∧
      ((∀ c ∈ cs, good c) ∧ (feed handle (cs.flatMap write)).2 = none ∨
        (∃ c ∈ cs, ¬ good c) ∧ ∃ exc, P exc ∧ (feed handle (cs.flatMap write)).2 = some exc) := by
  induction cs with
  | nil => simp [feed]
  | cons c cs ih =>
    rw [List.flatMap_cons]
    by_cases hc : good c
    · obtain ⟨hmade, hend⟩ := ih
      rw [feed_append, hgood c hc]
      refine ⟨by simp [hc, hmade], hend.imp ?_ ?_⟩
      · rintro ⟨hall, hnone⟩
        exact ⟨List.forall_mem_cons.mpr ⟨hc, hall⟩, hnone⟩
      · rintro ⟨⟨c', hc', hbad'⟩, hstop⟩
        exact ⟨⟨c', List.mem_cons_of_mem _ hc', hbad'⟩, hstop⟩
    · obtain ⟨exc, hP, hexc⟩ := hbad c hc
      rw [feed_append, hexc]
      exact ⟨by simp [hc], .inr ⟨⟨c, List.mem_cons_self, hc⟩, exc, hP, rfl⟩⟩

end Filters

end ScionIp.Lib
