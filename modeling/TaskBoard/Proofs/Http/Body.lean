import TaskBoard.Http.Response
import Mathlib.Data.List.Basic

/-!
# Bodies that are read to the end

A client knows the end of a body only if the body does not fail and the client asks for one piece
more than there are.
-/

namespace TaskBoard.Http.Body

/-- A client that reads `limit` pieces, or all of them, comes to the clean end of the body. -/
def Completes (limit : Option Nat) (body : Body) : Prop :=
  body.failure? = none ∧ ∀ n, limit = some n → body.length < n

theorem bytes_cons_ok (chunk : Bytes) (body : Body) :
    bytes (.ok chunk :: body) = chunk ++ bytes body := rfl

theorem bytes_fixed (bytes : Bytes) : (fixed bytes).bytes = bytes := by
  unfold fixed
  split
  · next h => rw [List.isEmpty_iff.mp h]; rfl
  · simp [Body.bytes]

theorem failure?_visible (body : Body) : failure? (visible body) = failure? body := by
  induction body with
  | nil => rfl
  | cons item body ih =>
    cases item with
    | ok chunk => exact ih
    | error e => rfl

theorem visible_of_clean {body : Body} (h : body.failure? = none) : body.visible = body := by
  induction body with
  | nil => rfl
  | cons item body ih =>
    cases item with
    | ok chunk => exact congrArg (.ok chunk :: ·) (ih h)
    | error e => cases h

theorem read_of_completes {limit : Option Nat} {body : Body} (h : body.Completes limit) :
    body.read limit = ⟨body, true⟩ := by
  obtain ⟨hclean, hlimit⟩ := h
  unfold read
  cases limit with
  | none => simp only [visible_of_clean hclean, hclean, Option.isNone_none]
  | some n =>
    have hlt := hlimit n rfl
    simp only [visible_of_clean hclean, hclean, List.take_of_length_le (Nat.le_of_lt hlt), hlt,
      decide_true, Option.isNone_none, Bool.and_true]

theorem completes_of_ended {limit : Option Nat} {body : Body}
    (h : (body.read limit).ended = true) : body.Completes limit := by
  unfold read at h
  cases limit with
  | none =>
    simp only [failure?_visible, Option.isNone_iff_eq_none] at h
    exact ⟨h, fun n hn => by cases hn⟩
  | some n =>
    simp only [failure?_visible, Bool.and_eq_true, decide_eq_true_eq,
      Option.isNone_iff_eq_none] at h
    obtain ⟨hlt, hclean⟩ := h
    rw [visible_of_clean hclean] at hlt
    exact ⟨hclean, fun m hm => by cases hm; exact hlt⟩

end TaskBoard.Http.Body
