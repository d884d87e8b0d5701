import Mathlib.Algebra.Group.Nat.Defs
import Mathlib.Data.List.Induction
import Mathlib.Data.List.TakeWhile
import TaskBoard.Text.Numeral

/-!
# Numerals and their values

A number is read back from its digits, also with zeros before them, and so many digits bound it.
-/

namespace TaskBoard.Text

variable {s : List Char} {n width : Nat}

theorem digits?_eq_some_iff : digits? s = some n ↔
    (∀ c ∈ s, isDigit c = true) ∧ s ≠ [] ∧ s.foldl (fun n c => 10 * n + digitValue c) 0 = n := by
  unfold digits?
  split
  · next h =>
    simp only [Bool.and_eq_true, List.all_eq_true, Bool.not_eq_true', List.isEmpty_eq_false_iff] at h
    simpa [h] using fun _ => h.1
  · next h =>
    simp only [Bool.and_eq_true, List.all_eq_true, Bool.not_eq_true', List.isEmpty_eq_false_iff] at h
    simp only [reduceCtorEq, false_iff]
    rintro ⟨hall, hne, -⟩
    exact h ⟨hall, hne⟩

theorem isDigit_of_mem_decimal {c : Char} (h : c ∈ decimal n) : isDigit c = true := by
  have hdigit : c.isDigit = true := Nat.isDigit_of_mem_toDigits (by decide) (by decide) h
  simpa [isDigit, Char.isDigit, Char.le_def] using hdigit

theorem digits?_decimal (n : Nat) : digits? (decimal n) = some n := by
  have hvalue : (decimal n).foldl (fun n c => 10 * n + digitValue c) 0 = n :=
    Nat.ofDigitChars_ten_toDigits
  exact digits?_eq_some_iff.mpr ⟨fun c => isDigit_of_mem_decimal, Nat.toDigits_ne_nil, hvalue⟩

theorem isDigit_of_mem_padded {c : Char} (h : c ∈ padded width n) : isDigit c = true := by
  rcases List.mem_append.mp h with hzero | hdigit
  · rw [List.eq_of_mem_replicate hzero]
    rfl
  · exact isDigit_of_mem_decimal hdigit

theorem foldl_zeros (k : Nat) :
    (List.replicate k '0').foldl (fun n c => 10 * n + digitValue c) 0 = 0 := by
  induction k with
  | zero => rfl
  | succ k ih => exact ih

/-- Zeros before a number do not count. -/
theorem digits?_padded (width n : Nat) : digits? (padded width n) = some n := by
  obtain ⟨-, hne, hvalue⟩ := digits?_eq_some_iff.mp (digits?_decimal n)
  refine digits?_eq_some_iff.mpr ⟨fun c => isDigit_of_mem_padded, by simp [padded, hne], ?_⟩
  rw [padded, List.foldl_append, foldl_zeros, hvalue]

theorem length_padded (hwidth : 0 < width) (h : n < 10 ^ width) :
    (padded width n).length = width := by
  have hle : (decimal n).length ≤ width := (Nat.length_toDigits_le_iff (by decide) hwidth).mpr h
  rw [padded, List.length_append, List.length_replicate]
  omega

theorem digitValue_le {c : Char} (h : isDigit c = true) : digitValue c ≤ 9 := by
  simp only [isDigit, Bool.and_eq_true, decide_eq_true_eq, Char.le_def, UInt32.le_iff_toNat_le] at h
  have hnine : '9'.val.toNat = 57 := rfl
  have hzero : '0'.toNat = 48 := rfl
  have hc : c.toNat = c.val.toNat := rfl
  unfold digitValue
  omega

/-- So many digits make a number below that power of ten. -/
theorem lt_of_digits? (h : digits? s = some n) : n < 10 ^ s.length := by
  obtain ⟨hall, -, rfl⟩ := digits?_eq_some_iff.mp h
  clear h
  induction s using List.reverseRecOn with
  | nil => simp
  | append_singleton s c ih =>
    have hs := ih fun d hd => hall d (List.mem_append_left _ hd)
    have hc := digitValue_le (hall c (by simp))
    simp only [List.foldl_append, List.foldl_cons, List.foldl_nil, List.length_append,
      List.length_singleton, Nat.pow_succ]
    omega

/-! ## Zeros at the end -/

theorem trimZeros_append_zeros (s : List Char) :
    trimZeros s ++ List.replicate (s.length - (trimZeros s).length) '0' = s := by
  let zeros := s.reverse.takeWhile (· = '0')
  have hparts : zeros ++ s.reverse.dropWhile (· = '0') = s.reverse :=
    List.takeWhile_append_dropWhile
  have hs : trimZeros s ++ zeros.reverse = s := by
    have h := congrArg List.reverse hparts
    rwa [List.reverse_append, List.reverse_reverse] at h
  have hzeros : ∀ c ∈ zeros.reverse, c = '0' := by
    intro c hc
    have h := List.mem_takeWhile_imp (List.mem_reverse.mp hc)
    simpa using h
  have hlength : s.length - (trimZeros s).length = zeros.reverse.length := by
    have h := congrArg List.length hs
    rw [List.length_append] at h
    omega
  rw [hlength, ← List.eq_replicate_of_mem hzeros, hs]

theorem mem_of_mem_trimZeros {c : Char} (h : c ∈ trimZeros s) : c ∈ s := by
  rw [← trimZeros_append_zeros s]
  exact List.mem_append_left _ h

theorem trimZeros_padded_ne_nil (h : n ≠ 0) : trimZeros (padded width n) ≠ [] := by
  intro hnil
  have hzeros := trimZeros_append_zeros (padded width n)
  rw [hnil, List.nil_append] at hzeros
  have hvalue := (digits?_eq_some_iff.mp (digits?_padded width n)).2.2
  rw [← hzeros, foldl_zeros] at hvalue
  exact h hvalue.symm

end TaskBoard.Text
