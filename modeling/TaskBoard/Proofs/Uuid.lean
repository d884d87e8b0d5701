import TaskBoard.Proofs.Text.Split
import TaskBoard.Uuid

/-!
# Identifiers and their texts
-/

namespace TaskBoard.Uuid

theorem toLower_of_isLowerHex {c : Char} (h : isLowerHex c = true) : c.toLower = c := by
  simp only [isLowerHex, Bool.or_eq_true, Bool.and_eq_true, decide_eq_true_eq, Char.le_def,
    UInt32.le_iff_toNat_le] at h
  have hnine : '9'.val.toNat = 57 := rfl
  have hlower : 'a'.val.toNat = 97 := rfl
  have hupper : ¬ (65 ≤ c.val ∧ c.val ≤ 90) := by
    simp only [UInt32.le_iff_toNat_le, UInt32.reduceToNat]
    omega
  unfold Char.toLower
  exact dif_neg hupper

theorem ofDigits?_digits (u : Uuid) : ofDigits? u.digits = some u := by
  have hmap : u.digits.map Char.toLower = u.digits := by
    conv_rhs => rw [← List.map_id u.digits]
    refine List.map_congr_left fun c hc => ?_
    exact toLower_of_isLowerHex (List.all_eq_true.mp u.all_hex c hc)
  simp only [ofDigits?, hmap, u.length_eq, u.all_hex, and_self, dite_true]

/-- The digits between the hyphens. -/
def parts (u : Uuid) : List (List Char) :=
  let d := u.digits
  [d.take 8, (d.drop 8).take 4, (d.drop 12).take 4, (d.drop 16).take 4, d.drop 20]

variable (u : Uuid)

theorem text_eq_intercalate : u.text = ['-'].intercalate u.parts := by
  simp [text, parts, List.intercalate, List.intersperse]

theorem length_parts : u.parts.map List.length = partLengths := by
  simp [parts, partLengths, u.length_eq]

theorem flatten_parts : u.parts.flatten = u.digits := by
  have h (n k : Nat) : (u.digits.drop n).take k ++ u.digits.drop (n + k) = u.digits.drop n := by
    rw [← List.drop_drop, List.take_append_drop]
  simp only [parts, List.flatten_cons, List.flatten_nil, List.append_nil]
  rw [h 16 4, h 12 4, h 8 4, List.take_append_drop]

theorem hyphen_not_mem_parts : ∀ part ∈ u.parts, '-' ∉ part := by
  intro part hpart hhyphen
  have hmem : '-' ∈ u.digits := by
    rw [← flatten_parts]
    exact List.mem_flatten_of_mem hpart hhyphen
  exact absurd (List.all_eq_true.mp u.all_hex _ hmem) (by decide)

theorem length_text : u.text.length = 36 := by
  simp [text, u.length_eq]

/-- An identifier is read back from its text. -/
theorem parse?_text : parse? u.text = some u := by
  have hsplit : Text.splitAll '-' u.text = u.parts := by
    rw [text_eq_intercalate]
    exact Text.splitAll_intercalate (List.cons_ne_nil _ _) u.hyphen_not_mem_parts
  have hread : ofHyphenated? u.text = some u := by
    simp only [ofHyphenated?, hsplit, length_parts, if_true, flatten_parts, ofDigits?_digits]
  simp only [parse?, length_text, Nat.reduceEqDiff, if_false, if_true, hread]

end TaskBoard.Uuid
