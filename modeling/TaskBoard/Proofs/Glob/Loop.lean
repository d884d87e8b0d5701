import TaskBoard.Text.Glob

/-!
# The loops of the matcher

The matcher turn by turn: a first loop goes through the text, and a second one passes the stars at
the end of the pattern. Each place of the pattern or of the text that a turn looks at exists, each
turn leaves less to do, and the answer at the end is that of the matcher.
-/

namespace TaskBoard.Text.Glob

variable {pattern text : Array Char} {found : Bool}

/-- Where the matcher stands: in the text, behind the text at a place in the pattern, or at its
answer. -/
inductive Phase where
  | search (c : Cursor)
  | stars (p : Nat)
  | done (found : Bool)
deriving DecidableEq, Repr

namespace Phase

/-! ## Turns

A turn fails if it looks at a place that does not exist. -/

/-- Where the search goes on after a mismatch. -/
def resumed (c : Cursor) : Phase :=
  match c.back with
  | some (star, absorbed) => search ⟨star + 1, absorbed + 1, some (star, absorbed + 1)⟩
  | none => done false

/-- Compares the text with a character that takes up so much of the pattern. -/
def compare? (text : Array Char) (c : Cursor) (y : Char) (width : Nat) : Option Phase :=
  text[c.t]?.map fun x =>
    if y = x then search ⟨c.p + width, c.t + 1, c.back⟩ else resumed c

def searchTurn? (pattern text : Array Char) (c : Cursor) : Option Phase :=
  if c.t < text.size then
    if c.p < pattern.size then
      match pattern[c.p]? with
      | none => none
      | some '*' => some (search ⟨c.p + 1, c.t, some (c.p, c.t)⟩)
      | some '?' => some (search ⟨c.p + 1, c.t + 1, c.back⟩)
      | some '\\' =>
        if c.p + 1 < pattern.size then pattern[c.p + 1]?.bind fun y => compare? text c y 2
        else compare? text c '\\' 1
      | some y => compare? text c y 1
    else some (resumed c)
  else some (stars c.p)

def starsTurn? (pattern : Array Char) (p : Nat) : Option Phase :=
  if p < pattern.size then
    pattern[p]?.map fun y => if y = '*' then stars (p + 1) else done (p = pattern.size)
  else some (done (p = pattern.size))

def turn? (pattern text : Array Char) : Phase → Option Phase
  | search c => searchTurn? pattern text c
  | stars p => starsTurn? pattern p
  | done found => some (done found)

/-- Where the matcher stands after so many turns, if none of them has failed. -/
def after? (pattern text : Array Char) : Nat → Option Phase
  | 0 => some (search .start)
  | n + 1 => (after? pattern text n).bind (turn? pattern text)

/-! ## One turn -/

/-- The places are in the pattern and in the text, or right behind them, and a place to go back to
holds a star. -/
def InRange (pattern text : Array Char) : Phase → Prop
  | search c => c.Valid pattern text
  | stars p => p ≤ pattern.size
  | done _ => True

/-- The answer that the matcher comes to from here. -/
def Gives (pattern text : Array Char) (found : Bool) : Phase → Prop
  | search c => ∃ hv : c.Valid pattern text, run pattern text c hv = found
  | stars p => p ≤ pattern.size ∧ (pattern.toList.drop p).all (· = '*') = found
  | done answer => answer = found

theorem Gives.inRange {phase : Phase} (h : phase.Gives pattern text found) :
    phase.InRange pattern text := by
  cases phase with
  | search c => exact h.1
  | stars p => exact h.1
  | done answer => trivial

/-- A bound on the turns that are left. -/
def work (pattern text : Array Char) : Phase → Nat
  | search c => c.work pattern text + pattern.size + 2
  | stars p => pattern.size - p + 1
  | done _ => 0

def ofStep : Step → Phase
  | .next c => search c
  | .done found => done found

theorem resumed_eq (c : Cursor) : resumed c = ofStep (retry c) := by
  cases hb : c.back <;> simp [resumed, retry, hb, ofStep]

theorem compare?_eq {c : Cursor} {x : Char} (hx : text[c.t]? = some x) (y : Char) (width : Nat) :
    compare? text c y width =
      some (ofStep (if y = x then .next ⟨c.p + width, c.t + 1, c.back⟩ else retry c)) := by
  rw [compare?, hx, Option.map_some, resumed_eq]
  split <;> rfl

/-- Within the text a turn is a step of the machine. -/
theorem searchTurn?_of_lt {c : Cursor} (ht : c.t < text.size) :
    searchTurn? pattern text c = some (ofStep (step pattern text c)) := by
  have hx : text[c.t]? = some text[c.t] := Array.getElem?_eq_getElem ht
  unfold step
  rw [hx]
  simp only
  split
  · next hp =>
    have hp' : ¬ c.p < pattern.size := Nat.not_lt.mpr (Array.getElem?_eq_none_iff.mp hp)
    rw [searchTurn?, if_pos ht, if_neg hp', resumed_eq]
  · next hp => rw [searchTurn?, if_pos ht, if_pos (getElem?_lt hp), hp]; rfl
  · next hp => rw [searchTurn?, if_pos ht, if_pos (getElem?_lt hp), hp]; rfl
  · next hp =>
    rw [searchTurn?, if_pos ht, if_pos (getElem?_lt hp), hp]
    simp only
    split
    · next hlt =>
      rw [Array.getElem?_eq_getElem hlt, Option.bind_some, compare?_eq hx]
    · next hend =>
      have hnone : pattern[c.p + 1]? = none :=
        Array.getElem?_eq_none_iff.mpr (Nat.not_lt.mp hend)
      rw [hnone, compare?_eq hx]
      simp only [eq_comm]
  · next y hstar hquestion hslash hp =>
    rw [searchTurn?, if_pos ht, if_pos (getElem?_lt hp), hp]
    simp only [compare?_eq hx]

theorem run_of_next {c c' : Cursor} (hv : c.Valid pattern text)
    (h : step pattern text c = .next c') :
    run pattern text c hv = run pattern text c' (step_next hv h).1 := by
  rw [run]
  split
  · next hdone =>
    rw [h] at hdone
    cases hdone
  · next hnext =>
    rw [h] at hnext
    cases hnext
    rfl

theorem run_of_done {c : Cursor} (hv : c.Valid pattern text)
    (h : step pattern text c = .done found) : run pattern text c hv = found := by
  rw [run]
  split
  · next hdone =>
    rw [h] at hdone
    cases hdone
    rfl
  · next hnext =>
    rw [h] at hnext
    cases hnext

/-- A turn does not fail, keeps the answer, and leaves less to do unless it is there. -/
structure Turns (pattern text : Array Char) (found : Bool) (phase next : Phase) : Prop where
  turn : turn? pattern text phase = some next
  gives : next.Gives pattern text found
  work : next.work pattern text ≤ phase.work pattern text - 1

theorem turns_search {c : Cursor} (h : (search c).Gives pattern text found) :
    ∃ next, Turns pattern text found (search c) next := by
  obtain ⟨hv, hrun⟩ := h
  by_cases ht : c.t < text.size
  · have hturn : turn? pattern text (search c) = some (ofStep (step pattern text c)) :=
      searchTurn?_of_lt ht
    cases hstep : step pattern text c with
    | next c' =>
      obtain ⟨hv', hless⟩ := step_next hv hstep
      rw [run_of_next hv hstep] at hrun
      rw [hstep] at hturn
      refine ⟨search c', hturn, ⟨hv', hrun⟩, ?_⟩
      simp only [work]
      omega
    | done answer =>
      rw [run_of_done hv hstep] at hrun
      rw [hstep] at hturn
      exact ⟨done answer, hturn, hrun, Nat.zero_le _⟩
  · have hstep : step pattern text c = .done ((pattern.toList.drop c.p).all (· = '*')) := by
      have hnone : text[c.t]? = none := Array.getElem?_eq_none_iff.mpr (Nat.not_lt.mp ht)
      rw [step, hnone]
    rw [run_of_done hv hstep] at hrun
    refine ⟨stars c.p, if_neg ht, ⟨hv.1, hrun⟩, ?_⟩
    simp only [work]
    omega

theorem turns_stars {p : Nat} (h : (stars p).Gives pattern text found) :
    ∃ next, Turns pattern text found (stars p) next := by
  obtain ⟨hle, hall⟩ := h
  by_cases hp : p < pattern.size
  · have hlist : p < pattern.toList.length := by simpa using hp
    rw [List.drop_eq_getElem_cons hlist, List.all_cons, Array.getElem_toList] at hall
    have hturn : turn? pattern text (stars p) =
        some (if pattern[p] = '*' then stars (p + 1) else done (p = pattern.size)) := by
      rw [turn?, starsTurn?, if_pos hp, Array.getElem?_eq_getElem hp, Option.map_some]
    by_cases hstar : pattern[p] = '*'
    · rw [if_pos hstar] at hturn
      refine ⟨stars (p + 1), hturn, ⟨hp, by simpa [hstar] using hall⟩, ?_⟩
      simp only [work]
      omega
    · rw [if_neg hstar] at hturn
      refine ⟨_, hturn, ?_, Nat.zero_le _⟩
      simpa [Gives, hstar, Nat.ne_of_lt hp] using hall
  · have hend : p = pattern.size := by omega
    refine ⟨done (p = pattern.size), if_neg hp, ?_, Nat.zero_le _⟩
    have hnil : pattern.toList.drop p = [] := by simp [hend]
    rw [hnil] at hall
    simpa [Gives, hend] using hall

theorem exists_turns {phase : Phase} (h : phase.Gives pattern text found) :
    ∃ next, Turns pattern text found phase next := by
  cases phase with
  | search c => exact turns_search h
  | stars p => exact turns_stars h
  | done answer => exact ⟨done answer, rfl, h, Nat.zero_le _⟩

/-! ## All turns -/

theorem after?_gives (pattern text : List Char) (n : Nat) :
    ∃ phase, after? pattern.toArray text.toArray n = some phase ∧
      phase.Gives pattern.toArray text.toArray (isMatch pattern text) ∧
      phase.work pattern.toArray text.toArray ≤
        (search .start).work pattern.toArray text.toArray - n := by
  induction n with
  | zero => exact ⟨search .start, rfl, ⟨Cursor.start_valid _ _, rfl⟩, Nat.le_refl _⟩
  | succ n ih =>
    obtain ⟨phase, hphase, hgives, hwork⟩ := ih
    obtain ⟨next, hnext⟩ := exists_turns hgives
    refine ⟨next, ?_, hnext.gives, ?_⟩
    · rw [after?, hphase, Option.bind_some, hnext.turn]
    · have hless := hnext.work
      omega

theorem eq_done_of_work {phase : Phase} (h : phase.Gives pattern text found)
    (hwork : phase.work pattern text = 0) : phase = done found := by
  cases phase with
  | search c => simp [work] at hwork
  | stars p => simp [work] at hwork
  | done answer => exact congrArg done h

theorem work_start (pattern text : List Char) :
    (search .start).work pattern.toArray text.toArray =
      (text.length + 3) * (pattern.length + 1) := by
  have hbound : (text.length + 3) * (pattern.length + 1) =
      (text.length + 1) * (pattern.length + 1) + (pattern.length + pattern.length + 2) := by
    rw [Nat.add_mul text.length 3, Nat.add_mul text.length 1]
    omega
  simp only [work, Cursor.work, Cursor.start, List.size_toArray, Option.map_none,
    Option.getD_none, Nat.sub_zero]
  omega

/-- Whatever the pattern and the text: no turn looks at a place that does not exist, after each of
them the matcher is in range, and it is at its answer once it has made `(t + 3) * (p + 1)` turns for
a text of length `t` and a pattern of length `p`. -/
theorem loops_end_in_range (pattern text : List Char) :
    (∀ n, ∃ phase, after? pattern.toArray text.toArray n = some phase ∧
      phase.InRange pattern.toArray text.toArray) ∧
    ∀ n, after? pattern.toArray text.toArray ((text.length + 3) * (pattern.length + 1) + n) =
      some (done (isMatch pattern text)) := by
  refine ⟨fun n => ?_, fun n => ?_⟩
  · obtain ⟨phase, hphase, hgives, -⟩ := after?_gives pattern text n
    exact ⟨phase, hphase, hgives.inRange⟩
  · obtain ⟨phase, hphase, hgives, hwork⟩ :=
      after?_gives pattern text ((text.length + 3) * (pattern.length + 1) + n)
    rw [work_start, Nat.sub_eq_zero_of_le (Nat.le_add_right _ n)] at hwork
    rw [hphase, eq_done_of_work hgives (Nat.le_zero.mp hwork)]

end Phase

end TaskBoard.Text.Glob
