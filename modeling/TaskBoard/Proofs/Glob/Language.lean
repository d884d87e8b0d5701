import TaskBoard.Text.Glob
import Mathlib.Data.List.Basic

/-!
# The language of a pattern

A pattern is read from left to right as tokens, and tokens stand for texts. Escaping a text gives
the pattern whose tokens are its characters, whatever comes after it.
-/

namespace TaskBoard.Text.Glob

/-- What a part of a pattern stands for: any run of characters, any one character, or one only. -/
inductive Token where
  | run
  | any
  | char (c : Char)
deriving DecidableEq, Repr

/-- The tokens of a pattern. A backslash at the very end stands for itself. -/
def tokens : List Char → List Token
  | [] => []
  | '*' :: p => .run :: tokens p
  | '?' :: p => .any :: tokens p
  | ['\\'] => [.char '\\']
  | '\\' :: c :: p => .char c :: tokens p
  | c :: p => .char c :: tokens p

/-- The texts that tokens stand for. -/
def Reads : List Token → List Char → Prop
  | [], s => s = []
  | .run :: ts, s => ∃ u, u <:+ s ∧ Reads ts u
  | .any :: ts, s => ∃ c u, s = c :: u ∧ Reads ts u
  | .char c :: ts, s => ∃ u, s = c :: u ∧ Reads ts u

/-- Whether a token stands for a text of this one character. A run is not asked for its length. -/
def Token.Fits : Token → Char → Prop
  | .run, _ => False
  | .any, _ => True
  | .char c, x => c = x

/-! ## Texts and tokens -/

theorem reads_cons_of_fits {tk : Token} {ts : List Token} {x : Char} {s : List Char}
    (h : tk.Fits x) : Reads (tk :: ts) (x :: s) ↔ Reads ts s := by
  cases tk with
  | run => exact h.elim
  | any => simp [Reads]
  | char c =>
    obtain rfl : c = x := h
    simp [Reads]

theorem not_reads_cons {tk : Token} {ts : List Token} {x : Char} {s : List Char}
    (hrun : tk ≠ .run) (h : ¬ tk.Fits x) : ¬ Reads (tk :: ts) (x :: s) := by
  cases tk with
  | run => exact absurd rfl hrun
  | any => exact absurd trivial h
  | char c =>
    rintro ⟨u, hu, -⟩
    exact h (List.cons.inj hu).1.symm

theorem reads_cons_drop {tk : Token} {ts : List Token} {s : List Char} (hrun : tk ≠ .run)
    (h : Reads (tk :: ts) s) : 1 ≤ s.length ∧ Reads ts (s.drop 1) := by
  cases tk with
  | run => exact absurd rfl hrun
  | any =>
    obtain ⟨c, u, rfl, hu⟩ := h
    exact ⟨by simp, hu⟩
  | char c =>
    obtain ⟨u, rfl, hu⟩ := h
    exact ⟨by simp, hu⟩

theorem reads_run_of_suffix {ts : List Token} {s u : List Char} (hs : u <:+ s)
    (h : Reads (.run :: ts) u) : Reads (.run :: ts) s := by
  obtain ⟨v, hv, hr⟩ := h
  exact ⟨v, hv.trans hs, hr⟩

theorem reads_nil_iff (ts : List Token) : Reads ts [] ↔ ∀ tk ∈ ts, tk = .run := by
  induction ts with
  | nil => simp [Reads]
  | cons tk ts ih => cases tk <;> simp [Reads, ih]

@[simp] theorem reads_run_alone (s : List Char) : Reads [.run] s :=
  ⟨[], List.nil_suffix, rfl⟩

theorem reads_chars_append (a : List Char) (ts : List Token) (s : List Char) :
    Reads (a.map .char ++ ts) s ↔ ∃ u, s = a ++ u ∧ Reads ts u := by
  induction a generalizing s with
  | nil => simp
  | cons c a ih =>
    simp only [List.map_cons, List.cons_append, Reads, ih]
    constructor
    · rintro ⟨_, rfl, u, rfl, hu⟩
      exact ⟨u, rfl, hu⟩
    · rintro ⟨u, rfl, hu⟩
      exact ⟨a ++ u, rfl, u, rfl, hu⟩

/-! ## Tokens of a pattern -/

/-- A backslash ends a pattern or goes with the next character. -/
theorem ne_backslash {c : Char} {p : List Char} (hlast : c = '\\' → p = [] → False)
    (hescape : ∀ y q, c = '\\' → p = y :: q → False) : c ≠ '\\' := by
  intro hb
  cases p with
  | nil => exact hlast hb rfl
  | cons y q => exact hescape y q hb rfl

theorem tokens_literal {c : Char} (hs : c ≠ '*') (hq : c ≠ '?') (hb : c ≠ '\\') (p : List Char) :
    tokens (c :: p) = .char c :: tokens p := by
  rw [tokens]
  · exact hs
  · exact hq
  · intro h _; exact hb h
  · intro _ _ h _; exact hb h

/-- Escaped text is read as its characters, and what follows it as if it stood alone. -/
theorem tokens_escape_append (a p : List Char) :
    tokens (escape a ++ p) = a.map .char ++ tokens p := by
  induction a with
  | nil => rfl
  | cons c a ih =>
    have hcons : escape (c :: a) = (if isMeta c then ['\\', c] else [c]) ++ escape a := rfl
    rw [hcons, List.map_cons, List.cons_append, ← ih]
    by_cases h : isMeta c
    · rw [if_pos h]
      rfl
    · rw [if_neg h]
      simp only [isMeta, Bool.or_eq_true, decide_eq_true_eq, not_or] at h
      obtain ⟨⟨⟨⟨hs, hq⟩, -⟩, -⟩, hb⟩ := h
      exact tokens_literal hs hq hb (escape a ++ p)

end TaskBoard.Text.Glob
