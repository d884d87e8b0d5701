import Mathlib.Data.List.Basic
import TaskBoard.Text.Split

/-!
# Splitting and joining

Pieces that were joined by a separator come apart again, as long as the separator is in none of
them.
-/

namespace TaskBoard.Text

variable {α : Type} [DecidableEq α] {sep c : α} {u s : List α}

theorem splitAll_ne_nil (sep : α) (s : List α) : splitAll sep s ≠ [] := by
  fun_cases splitAll sep s <;> simp

theorem splitAll_cons_self (sep : α) (s : List α) :
    splitAll sep (sep :: s) = [] :: splitAll sep s := by
  rw [splitAll, if_pos rfl]

theorem splitAll_cons_of_ne (h : c ≠ sep) (s : List α) :
    splitAll sep (c :: s) = (splitAll sep s).modifyHead (c :: ·) := by
  rw [splitAll, if_neg h]
  cases hs : splitAll sep s with
  | nil => exact absurd hs (splitAll_ne_nil sep s)
  | cons piece pieces => rfl

theorem splitAll_append_of_not_mem (h : sep ∉ u) (s : List α) :
    splitAll sep (u ++ s) = (splitAll sep s).modifyHead (u ++ ·) := by
  induction u with
  | nil =>
    rw [List.nil_append]
    cases splitAll sep s <;> rfl
  | cons c u ih =>
    rw [List.mem_cons, not_or] at h
    rw [List.cons_append, splitAll_cons_of_ne (Ne.symm h.1), ih h.2, List.modifyHead_modifyHead]
    rfl

theorem splitAll_of_not_mem (h : sep ∉ u) : splitAll sep u = [u] := by
  have hsplit := splitAll_append_of_not_mem h []
  simpa [splitAll] using hsplit

theorem splitAll_intercalate {pieces : List (List α)} (hne : pieces ≠ [])
    (h : ∀ piece ∈ pieces, sep ∉ piece) : splitAll sep ([sep].intercalate pieces) = pieces := by
  induction pieces with
  | nil => exact absurd rfl hne
  | cons piece pieces ih =>
    rw [List.forall_mem_cons] at h
    cases pieces with
    | nil => simpa using splitAll_of_not_mem h.1
    | cons next pieces =>
      rw [List.intercalate_cons_cons, List.append_assoc, splitAll_append_of_not_mem h.1,
        List.singleton_append, splitAll_cons_self, ih (by simp) h.2]
      simp

theorem splitFirst?_append_cons (h : sep ∉ u) (s : List α) :
    splitFirst? sep (u ++ sep :: s) = some (u, s) := by
  induction u with
  | nil => rw [List.nil_append, splitFirst?, if_pos rfl]
  | cons c u ih =>
    rw [List.mem_cons, not_or] at h
    rw [List.cons_append, splitFirst?, if_neg (Ne.symm h.1), ih h.2]
    rfl

end TaskBoard.Text
