import TaskBoard.Proofs.Glob.Language

/-!
# The matching machine decides the language

At each point of a run the machine still owes an answer to two questions: whether the rest of the
pattern reads the rest of the text, and whether the last star could have taken up more. A step
keeps the answer.
-/

namespace TaskBoard.Text.Glob

variable {pattern text : Array Char}

def tokensAt (pattern : Array Char) (p : Nat) : List Token := tokens (pattern.toList.drop p)

def textAt (text : Array Char) (t : Nat) : List Char := text.toList.drop t

/-- What the last star may still do: take up the text up to a later position. -/
def Cursor.Resumes (pattern text : Array Char) (c : Cursor) : Prop :=
  ∃ star absorbed, c.back = some (star, absorbed) ∧
    ∃ t, absorbed < t ∧ t ≤ text.size ∧ Reads (tokensAt pattern (star + 1)) (textAt text t)

/-- The machine can reach a match from here. -/
def Cursor.Succeeds (pattern text : Array Char) (c : Cursor) : Prop :=
  Reads (tokensAt pattern c.p) (textAt text c.t) ∨ c.Resumes pattern text

/-- Since the last star the machine has taken one character for each token: a text that the
pattern after the star reads is read from here on once as many characters are gone. -/
def Cursor.Sound (pattern : Array Char) (c : Cursor) : Prop :=
  ∀ star absorbed, c.back = some (star, absorbed) → ∀ s, Reads (tokensAt pattern (star + 1)) s →
    c.t - absorbed ≤ s.length ∧ Reads (tokensAt pattern c.p) (s.drop (c.t - absorbed))

/-! ## Reading the pattern -/

theorem drop_eq_cons {a : Array Char} {i : Nat} {c : Char} (h : a[i]? = some c) :
    a.toList.drop i = c :: a.toList.drop (i + 1) := by
  rw [← Array.getElem?_toList, List.getElem?_eq_some_iff] at h
  obtain ⟨hi, rfl⟩ := h
  exact List.drop_eq_getElem_cons hi

theorem drop_eq_nil {a : Array Char} {i : Nat} (h : a[i]? = none) : a.toList.drop i = [] := by
  rw [List.drop_eq_nil_iff, Array.length_toList]
  exact Array.getElem?_eq_none_iff.mp h

theorem tokensAt_star {p : Nat} (h : pattern[p]? = some '*') :
    tokensAt pattern p = .run :: tokensAt pattern (p + 1) := by
  unfold tokensAt
  rw [drop_eq_cons h]
  rfl

theorem tokensAt_question {p : Nat} (h : pattern[p]? = some '?') :
    tokensAt pattern p = .any :: tokensAt pattern (p + 1) := by
  unfold tokensAt
  rw [drop_eq_cons h]
  rfl

theorem tokensAt_escaped {p : Nat} {y : Char} (h : pattern[p]? = some '\\')
    (hy : pattern[p + 1]? = some y) :
    tokensAt pattern p = .char y :: tokensAt pattern (p + 2) := by
  unfold tokensAt
  rw [drop_eq_cons h, drop_eq_cons hy]
  rfl

theorem tokensAt_backslash {p : Nat} (h : pattern[p]? = some '\\') (hy : pattern[p + 1]? = none) :
    tokensAt pattern p = .char '\\' :: tokensAt pattern (p + 1) := by
  unfold tokensAt
  rw [drop_eq_cons h, drop_eq_nil hy]
  rfl

theorem tokensAt_literal {p : Nat} {y : Char} (h : pattern[p]? = some y) (hs : y ≠ '*')
    (hq : y ≠ '?') (hb : y ≠ '\\') :
    tokensAt pattern p = .char y :: tokensAt pattern (p + 1) := by
  unfold tokensAt
  rw [drop_eq_cons h, tokens_literal hs hq hb]

theorem tokens_all_run (p : List Char) :
    (∀ tk ∈ tokens p, tk = .run) ↔ p.all (· = '*') = true := by
  induction p using tokens.induct with
  | case1 => simp [tokens]
  | case2 p ih => simpa [tokens] using ih
  | case3 p ih => simp [tokens]
  | case4 => simp [tokens]
  | case5 c p ih => simp [tokens]
  | case6 c p hs hq hlast hescape ih =>
    have hs : c ≠ '*' := hs
    simp [tokens_literal hs hq (ne_backslash hlast hescape), hs]

/-! ## Steps -/

/-- After a mismatch all that is left is what the last star may still do. -/
theorem retry_succeeds {c : Cursor} (ht : c.t < text.size) (hv : c.Valid pattern text)
    (hno : ¬ Reads (tokensAt pattern c.p) (textAt text c.t)) {c' : Cursor}
    (h : retry c = .next c') :
    c'.Sound pattern ∧ (c'.Succeeds pattern text ↔ c.Succeeds pattern text) := by
  unfold retry at h
  split at h
  · next star absorbed hb =>
    have hle := (hv.2.2 star absorbed hb).2
    cases h
    refine ⟨?_, ?_⟩
    · intro s a hsa u hu
      cases hsa
      simpa using hu
    · simp only [Cursor.Succeeds, Cursor.Resumes, hb, hno, false_or]
      constructor
      · rintro (hnow | ⟨s, a, hsa, t, hat, htn, hr⟩)
        · exact ⟨star, absorbed, rfl, absorbed + 1, by omega, by omega, hnow⟩
        · cases hsa
          exact ⟨star, absorbed, rfl, t, by omega, htn, hr⟩
      · rintro ⟨s, a, hsa, t, hat, htn, hr⟩
        cases hsa
        by_cases heq : t = absorbed + 1
        · subst heq
          exact Or.inl hr
        · exact Or.inr ⟨star, absorbed + 1, rfl, t, by omega, htn, hr⟩
  · cases h

theorem retry_done {c : Cursor} (hno : ¬ Reads (tokensAt pattern c.p) (textAt text c.t))
    {found : Bool} (h : retry c = .done found) : found = true ↔ c.Succeeds pattern text := by
  unfold retry at h
  split at h
  · cases h
  · next hb =>
    cases h
    simp [Cursor.Succeeds, Cursor.Resumes, hno, hb]

theorem forward_succeeds {c : Cursor} {tk : Token} {n : Nat} {x : Char}
    (hv : c.Valid pattern text) (hs : c.Sound pattern) (hx : text[c.t]? = some x)
    (htk : tokensAt pattern c.p = tk :: tokensAt pattern (c.p + n)) (hfit : tk.Fits x) :
    Cursor.Sound pattern ⟨c.p + n, c.t + 1, c.back⟩ ∧
      (Cursor.Succeeds pattern text ⟨c.p + n, c.t + 1, c.back⟩ ↔ c.Succeeds pattern text) := by
  have hrun : tk ≠ .run := by
    rintro rfl
    exact hfit
  refine ⟨?_, ?_⟩
  · intro star absorbed hb s hr
    have hle := (hv.2.2 star absorbed hb).2
    obtain ⟨hlen, hnow⟩ := hs star absorbed hb s hr
    rw [htk] at hnow
    obtain ⟨hone, hnext⟩ := reads_cons_drop hrun hnow
    rw [List.length_drop] at hone
    have hsub : c.t + 1 - absorbed = (c.t - absorbed) + 1 := by omega
    rw [List.drop_drop] at hnext
    exact ⟨by simp only; omega, by simpa only [hsub] using hnext⟩
  · have htext : textAt text c.t = x :: textAt text (c.t + 1) := drop_eq_cons hx
    simp only [Cursor.Succeeds, Cursor.Resumes]
    rw [htk, htext, reads_cons_of_fits hfit]

/-- Passing a star forgets the one before it: what that one could still do, this one can too. -/
theorem star_succeeds {c : Cursor} {x : Char} (hv : c.Valid pattern text) (hs : c.Sound pattern)
    (hx : text[c.t]? = some x) (hp : pattern[c.p]? = some '*') :
    Cursor.Sound pattern ⟨c.p + 1, c.t, some (c.p, c.t)⟩ ∧
      (Cursor.Succeeds pattern text ⟨c.p + 1, c.t, some (c.p, c.t)⟩ ↔
        c.Succeeds pattern text) := by
  have htk := tokensAt_star hp
  refine ⟨?_, ?_⟩
  · intro star absorbed hb s hr
    cases hb
    simpa using hr
  -- The old star at a later position leads past this star at a later position.
  have hold : c.Resumes pattern text → Reads (tokensAt pattern c.p) (textAt text c.t) := by
    rintro ⟨star, absorbed, hb, t, hat, htn, hr⟩
    have hle := (hv.2.2 star absorbed hb).2
    have hlater := (hs star absorbed hb _ hr).2
    rw [textAt, List.drop_drop] at hlater
    rw [htk] at hlater ⊢
    refine reads_run_of_suffix ?_ hlater
    have hsum : t + (c.t - absorbed) = c.t + (t - absorbed) := by omega
    rw [hsum, ← List.drop_drop]
    exact List.drop_suffix _ _
  have hnow : c.Succeeds pattern text ↔ Reads (tokensAt pattern c.p) (textAt text c.t) :=
    ⟨fun h => h.elim id hold, Or.inl⟩
  rw [hnow, htk]
  simp only [Cursor.Succeeds, Cursor.Resumes, Reads]
  constructor
  · rintro (h | ⟨star, absorbed, hb, t, hat, htn, hr⟩)
    · exact ⟨_, List.suffix_rfl, h⟩
    · cases hb
      refine ⟨_, ?_, hr⟩
      obtain ⟨k, rfl⟩ := Nat.exists_eq_add_of_lt hat
      rw [textAt, show c.t + k + 1 = c.t + (k + 1) by omega, ← List.drop_drop]
      exact List.drop_suffix _ _
  · rintro ⟨u, hu, hr⟩
    have hlen : (textAt text c.t).length = text.size - c.t := by simp [textAt]
    have hul := hu.length_le
    rw [List.suffix_iff_eq_drop] at hu
    by_cases heq : u.length = text.size - c.t
    · rw [hlen, heq, Nat.sub_self, List.drop_zero] at hu
      exact Or.inl (hu ▸ hr)
    · have ht := getElem?_lt hx
      refine Or.inr ⟨c.p, c.t, rfl, c.t + (text.size - c.t - u.length), by omega, by omega, ?_⟩
      rw [hlen, textAt, List.drop_drop] at hu
      rw [textAt, ← hu]
      exact hr

/-! ## Runs -/

theorem succeeds_at_end {c : Cursor} (hv : c.Valid pattern text) (hs : c.Sound pattern)
    (hx : text[c.t]? = none) :
    c.Succeeds pattern text ↔ Reads (tokensAt pattern c.p) (textAt text c.t) := by
  refine ⟨fun h => h.elim id ?_, Or.inl⟩
  rintro ⟨star, absorbed, hb, t, hat, htn, hr⟩
  have hend := Array.getElem?_eq_none_iff.mp hx
  have hle := (hv.2.2 star absorbed hb).2
  have hlen := (hs star absorbed hb _ hr).1
  rw [textAt, List.length_drop, Array.length_toList] at hlen
  have ht := hv.2.1
  omega

theorem mismatch {c : Cursor} {tk : Token} {n : Nat} {x : Char} (hx : text[c.t]? = some x)
    (htk : tokensAt pattern c.p = tk :: tokensAt pattern (c.p + n)) (hrun : tk ≠ .run)
    (hfit : ¬ tk.Fits x) : ¬ Reads (tokensAt pattern c.p) (textAt text c.t) := by
  rw [htk, show textAt text c.t = x :: textAt text (c.t + 1) from drop_eq_cons hx]
  exact not_reads_cons hrun hfit

/-- What a step of the machine means: it gives the answer, or leaves it to where it goes. -/
def Step.Keeps (pattern text : Array Char) (c : Cursor) : Step → Prop
  | .done found => found = true ↔ c.Succeeds pattern text
  | .next c' => c'.Sound pattern ∧ (c'.Succeeds pattern text ↔ c.Succeeds pattern text)

theorem retry_keeps {c : Cursor} (ht : c.t < text.size) (hv : c.Valid pattern text)
    (hno : ¬ Reads (tokensAt pattern c.p) (textAt text c.t)) :
    (retry c).Keeps pattern text c := by
  cases h : retry c with
  | next c' => exact retry_succeeds ht hv hno h
  | done found => exact retry_done hno h

/-- A token of one character: the machine moves on if it fits, and goes back if it does not. -/
theorem single_keeps {c : Cursor} {y x : Char} {n : Nat} (hv : c.Valid pattern text)
    (hs : c.Sound pattern) (hx : text[c.t]? = some x)
    (htk : tokensAt pattern c.p = .char y :: tokensAt pattern (c.p + n)) :
    Step.Keeps pattern text c
      (if y = x then .next ⟨c.p + n, c.t + 1, c.back⟩ else retry c) := by
  by_cases h : y = x
  · rw [if_pos h]
    exact forward_succeeds hv hs hx htk h
  · rw [if_neg h]
    exact retry_keeps (getElem?_lt hx) hv (mismatch hx htk (by simp) h)

theorem step_keeps {c : Cursor} (hv : c.Valid pattern text) (hs : c.Sound pattern) :
    (step pattern text c).Keeps pattern text c := by
  unfold step
  split
  · next hx =>
    have htext : textAt text c.t = [] := drop_eq_nil hx
    rw [Step.Keeps, succeeds_at_end hv hs hx, htext, reads_nil_iff, tokensAt, tokens_all_run]
  · next x hx =>
    split
    · next hp =>
      refine retry_keeps (getElem?_lt hx) hv ?_
      rw [tokensAt, drop_eq_nil hp, textAt, drop_eq_cons hx]
      simp [tokens, Reads]
    · next hp => exact star_succeeds hv hs hx hp
    · next hp => exact forward_succeeds hv hs hx (tokensAt_question hp) trivial
    · next hp =>
      split
      · next y hy => exact single_keeps hv hs hx (tokensAt_escaped hp hy)
      · next hy =>
        simpa only [eq_comm] using single_keeps hv hs hx (tokensAt_backslash hp hy)
    · next y hstar hq hb hp => exact single_keeps hv hs hx (tokensAt_literal hp hstar hq hb)

theorem run_eq_true_iff {c : Cursor} (hv : c.Valid pattern text) (hs : c.Sound pattern) :
    run pattern text c hv = true ↔ c.Succeeds pattern text := by
  induction c, hv using run.induct with
  | case1 c hv found h =>
    have hk := step_keeps hv hs
    rw [h] at hk
    rw [run]
    split
    · next found' h' =>
      rw [h] at h'
      cases h'
      exact hk
    · next c' h' =>
      rw [h] at h'
      cases h'
  | case2 c hv c' h ih =>
    have hk := step_keeps hv hs
    rw [h] at hk
    rw [run]
    split
    · next found' h' =>
      rw [h] at h'
      cases h'
    · next c'' h' =>
      rw [h] at h'
      cases h'
      rw [ih hk.1, hk.2]

/-- The matcher accepts exactly the texts that the tokens of the pattern stand for. -/
theorem isMatch_iff_reads (pattern text : List Char) :
    isMatch pattern text = true ↔ Reads (tokens pattern) text := by
  unfold isMatch
  rw [run_eq_true_iff _ (fun _ _ h => by cases h)]
  simp [Cursor.Succeeds, Cursor.Resumes, Cursor.start, tokensAt, textAt]

end TaskBoard.Text.Glob
