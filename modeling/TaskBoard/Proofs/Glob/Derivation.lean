import TaskBoard.Proofs.Glob.Machine

/-!
# Texts derived from a pattern

A pattern is a rule for making texts: it is read from the left, and whatever stands at its front
gives the next part of the text. The matcher accepts a text exactly if it can be made in this way.
-/

namespace TaskBoard.Text.Glob

/-- The pattern gives the text. -/
inductive Derives : List Char → List Char → Prop
  | nil : Derives [] []
  | star (u : List Char) {p s : List Char} : Derives p s → Derives ('*' :: p) (u ++ s)
  | question (c : Char) {p s : List Char} : Derives p s → Derives ('?' :: p) (c :: s)
  | escaped (c : Char) {p s : List Char} : Derives p s → Derives ('\\' :: c :: p) (c :: s)
  | lastBackslash : Derives ['\\'] ['\\']
  | literal {c : Char} {p s : List Char} : c ≠ '*' → c ≠ '?' → c ≠ '\\' → Derives p s →
    Derives (c :: p) (c :: s)

theorem reads_of_derives {p s : List Char} (h : Derives p s) : Reads (tokens p) s := by
  induction h with
  | nil => rfl
  | star u _ ih => exact ⟨_, List.suffix_append u _, ih⟩
  | question c _ ih => exact ⟨c, _, rfl, ih⟩
  | escaped c _ ih => exact ⟨_, rfl, ih⟩
  | lastBackslash => exact ⟨[], rfl, rfl⟩
  | literal hs hq hb _ ih =>
    rw [tokens_literal hs hq hb]
    exact ⟨_, rfl, ih⟩

theorem derives_of_reads {p s : List Char} (h : Reads (tokens p) s) : Derives p s := by
  induction p using tokens.induct generalizing s with
  | case1 =>
    obtain rfl : s = [] := h
    exact .nil
  | case2 p ih =>
    obtain ⟨u, ⟨v, rfl⟩, hu⟩ := h
    exact .star v (ih hu)
  | case3 p ih =>
    obtain ⟨c, u, rfl, hu⟩ := h
    exact .question c (ih hu)
  | case4 =>
    obtain ⟨u, rfl, hu⟩ := h
    obtain rfl : u = [] := hu
    exact .lastBackslash
  | case5 c p ih =>
    obtain ⟨u, rfl, hu⟩ := h
    exact .escaped c (ih hu)
  | case6 c p hs hq hlast hescape ih =>
    have hb : c ≠ '\\' := ne_backslash hlast hescape
    rw [tokens_literal hs hq hb] at h
    obtain ⟨u, rfl, hu⟩ := h
    exact .literal hs hq hb (ih hu)

/-- The matcher accepts the texts that the pattern gives, and no others. -/
theorem isMatch_iff_derives (pattern text : List Char) :
    isMatch pattern text = true ↔ Derives pattern text := by
  rw [isMatch_iff_reads]
  exact ⟨derives_of_reads, reads_of_derives⟩

end TaskBoard.Text.Glob
