import TaskBoard.Proofs.Glob.Machine

/-!
# Escaped text in a pattern

An escaped text takes itself off the front of what is matched, and the pattern after it matches
what is left. Neither of the two changes what the other one stands for.
-/

namespace TaskBoard.Text.Glob

theorem isMatch_escape_append (a p s : List Char) :
    isMatch (escape a ++ p) s = true ↔ ∃ u, s = a ++ u ∧ isMatch p u = true := by
  rw [isMatch_iff_reads, tokens_escape_append, reads_chars_append]
  simp only [isMatch_iff_reads]

theorem isMatch_nil (s : List Char) : isMatch [] s = true ↔ s = [] := by
  rw [isMatch_iff_reads]
  rfl

theorem isMatch_star (s : List Char) : isMatch ['*'] s = true := by
  rw [isMatch_iff_reads]
  exact reads_run_alone s

theorem isMatch_escape (a s : List Char) : isMatch (escape a) s = true ↔ s = a := by
  have h := isMatch_escape_append a [] s
  simpa only [List.append_nil, isMatch_nil, exists_eq_right] using h

theorem isMatch_colon_cons (p s : List Char) :
    isMatch (':' :: p) s = true ↔ ∃ u, s = ':' :: u ∧ isMatch p u = true := by
  -- A colon means nothing in a pattern, so it is its own escape.
  have hcolon : ':' :: p = escape [':'] ++ p := rfl
  rw [hcolon, isMatch_escape_append]
  rfl

/-- An escaped text in front of any pattern matches exactly the texts that begin with it and go on
as the pattern has it. So it matches itself and nothing else, and a text is matched by both exactly
if it falls into a part for each. The last two are the forms in which components are joined. -/
theorem escaped_text_is_literal (a : List Char) :
    (∀ p s, isMatch (escape a ++ p) s = true ↔ ∃ u, s = a ++ u ∧ isMatch p u = true) ∧
    (∀ s, isMatch (escape a) s = true ↔ s = a) ∧
    (∀ p s, isMatch (escape a ++ p) s = true ↔
      ∃ u v, s = u ++ v ∧ isMatch (escape a) u = true ∧ isMatch p v = true) ∧
    (∀ s, isMatch (escape a ++ [':', '*']) s = true ↔ ∃ u, s = a ++ ':' :: u) ∧
    ∀ b p s, isMatch (escape a ++ ':' :: (escape b ++ p)) s = true ↔
      ∃ u, s = a ++ ':' :: (b ++ u) ∧ isMatch p u = true := by
  refine ⟨isMatch_escape_append a, isMatch_escape a, fun p s => ?_, fun s => ?_, fun b p s => ?_⟩
  · rw [isMatch_escape_append]
    simp only [isMatch_escape]
    constructor
    · rintro ⟨v, hs, hv⟩
      exact ⟨a, v, hs, rfl, hv⟩
    · rintro ⟨_, v, hs, rfl, hv⟩
      exact ⟨v, hs, hv⟩
  · simp [isMatch_escape_append, isMatch_colon_cons, isMatch_star]
  · simp only [isMatch_escape_append, isMatch_colon_cons]
    constructor
    · rintro ⟨_, rfl, _, rfl, u, rfl, hu⟩
      exact ⟨u, rfl, hu⟩
    · rintro ⟨u, rfl, hu⟩
      exact ⟨_, rfl, _, rfl, u, rfl, hu⟩

end TaskBoard.Text.Glob
