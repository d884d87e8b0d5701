/-!
# Glob patterns

Matching a text against a pattern in which `*` stands for any run of characters, `?` for one, and a
backslash takes away the meaning of the character after it. The matcher is a machine with two
positions and one point to go back to; a run of it ends because each step moves that point on, or
leaves it and moves on in the pattern.
-/

namespace TaskBoard.Text.Glob

/-- The characters that mean something in a pattern. -/
def isMeta (c : Char) : Bool := c = '*' || c = '?' || c = '[' || c = ']' || c = '\\'

/-- The pattern that matches `s` itself. -/
def escape (s : List Char) : List Char := s.flatMap fun c => if isMeta c then ['\\', c] else [c]

/-- A position in the pattern, one in the text, and where to go back to after a mismatch: the
last star passed, and how much of the text there was before it or taken up by it. -/
structure Cursor where
  p : Nat
  t : Nat
  back : Option (Nat × Nat)
deriving DecidableEq, Repr

inductive Step where
  | next (c : Cursor)
  | done (found : Bool)
deriving DecidableEq, Repr

/-- After a mismatch the last star takes up one more character. -/
def retry (c : Cursor) : Step :=
  match c.back with
  | some (star, absorbed) => .next ⟨star + 1, absorbed + 1, some (star, absorbed + 1)⟩
  | none => .done false

/-- One step of the machine. -/
def step (pattern text : Array Char) (c : Cursor) : Step :=
  match text[c.t]? with
  | none => .done ((pattern.toList.drop c.p).all (· = '*'))
  | some x =>
    match pattern[c.p]? with
    | none => retry c
    | some '*' => .next ⟨c.p + 1, c.t, some (c.p, c.t)⟩
    | some '?' => .next ⟨c.p + 1, c.t + 1, c.back⟩
    | some '\\' =>
      match pattern[c.p + 1]? with
      | some y => if y = x then .next ⟨c.p + 2, c.t + 1, c.back⟩ else retry c
      | none => if x = '\\' then .next ⟨c.p + 1, c.t + 1, c.back⟩ else retry c
    | some y => if y = x then .next ⟨c.p + 1, c.t + 1, c.back⟩ else retry c

/-- The machine is inside its pattern and its text, and goes back to a star in the pattern and no
further on than it is in the text. -/
def Cursor.Valid (pattern text : Array Char) (c : Cursor) : Prop :=
  c.p ≤ pattern.size ∧ c.t ≤ text.size ∧
    ∀ star absorbed, c.back = some (star, absorbed) → pattern[star]? = some '*' ∧ absorbed ≤ c.t

/-- What is left to do: each character that the star may still take up, and for each of them the
pattern once more. -/
def Cursor.work (pattern text : Array Char) (c : Cursor) : Nat :=
  (text.size + 1 - (c.back.map (·.2 + 1)).getD 0) * (pattern.size + 1) + (pattern.size - c.p)

theorem getElem?_lt {a : Array Char} {i : Nat} {c : Char} (h : a[i]? = some c) : i < a.size := by
  by_cases hi : i < a.size
  · exact hi
  · simp [hi] at h

theorem retry_next {pattern text : Array Char} {c c' : Cursor} (hv : c.Valid pattern text)
    (ht : c.t < text.size) (h : retry c = .next c') :
    c'.Valid pattern text ∧ c'.work pattern text < c.work pattern text := by
  unfold retry at h
  split at h
  · next star absorbed hb =>
    obtain ⟨hs, ha⟩ := hv.2.2 star absorbed hb
    have hs' := getElem?_lt hs
    cases h
    refine ⟨⟨by simp only; omega, by simp only; omega, ?_⟩, ?_⟩
    · intro s a h
      simp only [Option.some.injEq, Prod.mk.injEq] at h
      exact ⟨h.1 ▸ hs, by simp only; omega⟩
    · simp only [Cursor.work, hb, Option.map_some, Option.getD_some]
      have : text.size + 1 - (absorbed + 1) = (text.size + 1 - (absorbed + 1 + 1)) + 1 := by omega
      rw [this, Nat.add_mul]
      omega
  · cases h

theorem forward_next {pattern text : Array Char} {c : Cursor} {n : Nat}
    (hv : c.Valid pattern text) (hn : 0 < n) (hp : c.p + n ≤ pattern.size) (ht : c.t < text.size) :
    Cursor.Valid pattern text ⟨c.p + n, c.t + 1, c.back⟩ ∧
      Cursor.work pattern text ⟨c.p + n, c.t + 1, c.back⟩ < c.work pattern text := by
  refine ⟨⟨hp, by simp only; omega, fun s a h => ?_⟩, ?_⟩
  · have := hv.2.2 s a h
    exact ⟨this.1, by simp only; omega⟩
  · simp only [Cursor.work]
    omega

theorem star_next {pattern text : Array Char} {c : Cursor} (hv : c.Valid pattern text)
    (hp : pattern[c.p]? = some '*') (ht : c.t < text.size) :
    Cursor.Valid pattern text ⟨c.p + 1, c.t, some (c.p, c.t)⟩ ∧
      Cursor.work pattern text ⟨c.p + 1, c.t, some (c.p, c.t)⟩ < c.work pattern text := by
  have hp' := getElem?_lt hp
  refine ⟨⟨by simp only; omega, by simp only; omega, fun s a h => ?_⟩, ?_⟩
  · simp only [Option.some.injEq, Prod.mk.injEq] at h
    exact ⟨h.1 ▸ hp, by simp only; omega⟩
  · have hle : text.size + 1 - (c.t + 1) ≤ text.size + 1 - (c.back.map (·.2 + 1)).getD 0 := by
      cases hb : c.back with
      | none => simp only [Option.map_none, Option.getD_none]; omega
      | some b =>
        have := (hv.2.2 b.1 b.2 hb).2
        simp only [Option.map_some, Option.getD_some]
        omega
    have := Nat.mul_le_mul_right (pattern.size + 1) hle
    simp only [Cursor.work, Option.map_some, Option.getD_some]
    omega

/-- A step keeps the machine in range and leaves less to do. -/
theorem step_next {pattern text : Array Char} {c c' : Cursor} (hv : c.Valid pattern text)
    (h : step pattern text c = .next c') :
    c'.Valid pattern text ∧ c'.work pattern text < c.work pattern text := by
  unfold step at h
  split at h
  · cases h
  · next x hx =>
    have ht := getElem?_lt hx
    split at h
    · exact retry_next hv ht h
    · next hp => cases h; exact star_next hv hp ht
    · next hp => cases h; exact forward_next hv (by omega) (getElem?_lt hp) ht
    · next hp =>
      split at h
      · next hy =>
        split at h
        · cases h; exact forward_next hv (by omega) (getElem?_lt hy) ht
        · exact retry_next hv ht h
      · split at h
        · cases h; exact forward_next hv (by omega) (getElem?_lt hp) ht
        · exact retry_next hv ht h
    · next hp =>
      split at h
      · cases h; exact forward_next hv (by omega) (getElem?_lt hp) ht
      · exact retry_next hv ht h

def run (pattern text : Array Char) (c : Cursor) (hv : c.Valid pattern text) : Bool :=
  match h : step pattern text c with
  | .done found => found
  | .next c' => run pattern text c' (step_next hv h).1
termination_by c.work pattern text
decreasing_by exact (step_next hv h).2

def Cursor.start : Cursor := ⟨0, 0, none⟩

theorem Cursor.start_valid (pattern text : Array Char) : start.Valid pattern text :=
  ⟨Nat.zero_le _, Nat.zero_le _, fun _ _ h => by cases h⟩

def isMatch (pattern text : List Char) : Bool :=
  run pattern.toArray text.toArray .start (Cursor.start_valid _ _)

end TaskBoard.Text.Glob
