import Mathlib.Data.List.TakeWhile
import TaskBoard.Task.Basic

/-!
# The rules for drafts and changes

What a draft has to be like to be made into a task, and a change to be made. A draft gives its title
without the white space around it; a change gives its title as it is.
-/

namespace TaskBoard

open Text Time

/-! ## White space around a text -/

/-- There is no white space before or after it. -/
def Trimmed (text : List Char) : Prop := trim text = text

instance (text : List Char) : Decidable (Trimmed text) :=
  inferInstanceAs (Decidable (trim text = text))

theorem isBlank_of_mem_head?_trim (text : List Char) :
    ∀ c ∈ (trim text).head?, isBlank c = false := by
  intro c hc
  have hsuffix : (trim text).reverse <:+ (trimStart isBlank text).reverse := by
    rw [trim, trimBy, trimEnd, List.reverse_reverse]
    exact List.dropWhile_suffix isBlank
  obtain ⟨rest, hrest⟩ := List.head?_eq_some_iff.mp hc
  obtain ⟨more, hmore⟩ := List.reverse_suffix.mp hsuffix
  have hhead : (trimStart isBlank text).head? = some c := by
    rw [← hmore, hrest]
    rfl
  have hnot := List.head?_dropWhile_not isBlank text
  rw [← trimStart, hhead] at hnot
  simpa using hnot

theorem isBlank_of_mem_getLast?_trim (text : List Char) :
    ∀ c ∈ (trim text).getLast?, isBlank c = false := by
  intro c hc
  have hnot := List.head?_dropWhile_not isBlank (trimStart isBlank text).reverse
  rw [trim, trimBy, trimEnd, List.getLast?_reverse] at hc
  rw [hc] at hnot
  simpa using hnot

theorem trimmed_trim (text : List Char) : Trimmed (trim text) := by
  have hself {s : List Char} (h : ∀ c ∈ s.head?, isBlank c = false) : s.dropWhile isBlank = s := by
    cases s with
    | nil => rfl
    | cons c s => exact List.dropWhile_cons_of_neg (by simp [h c rfl])
  have hstart := hself (isBlank_of_mem_head?_trim text)
  have hend : (trim text).reverse.dropWhile isBlank = (trim text).reverse := by
    apply hself
    rw [List.head?_reverse]
    exact isBlank_of_mem_getLast?_trim text
  calc trim (trim text)
      = trimEnd isBlank ((trim text).dropWhile isBlank) := rfl
    _ = ((trim text).reverse.dropWhile isBlank).reverse := by rw [hstart]; rfl
    _ = trim text := by rw [hend, List.reverse_reverse]

/-! ## Rules -/

variable {draft : Draft} {change : Change} {new : NewTask} {now : Moment}

theorem Draft.validate_eq_ok_iff : draft.validate now = .ok new ↔
    trim draft.title ≠ [] ∧ ∃ dueDate, draft.dueDate = some dueDate ∧ dueDate.isBefore now = false ∧
      new = ⟨trim draft.title, draft.description, draft.status.getD .pending, dueDate⟩ := by
  unfold Draft.validate
  simp only [List.isEmpty_iff]
  split
  · next htitle => simp [htitle]
  · next htitle =>
    cases draft.dueDate with
    | none => simp
    | some dueDate =>
      simp only [Option.some.injEq, exists_eq_left', ne_eq, htitle, not_false_eq_true, true_and]
      cases dueDate.isBefore now <;> simp [eq_comm]

theorem Change.validate_eq_ok_iff : change.validate now = .ok () ↔
    (∀ title ∈ change.title, trim title ≠ []) ∧
      ∀ dueDate ∈ change.dueDate, dueDate.isBefore now = false := by
  have htitle : (change.title.any fun title => (trim title).isEmpty) = true ↔
      ¬ ∀ title ∈ change.title, trim title ≠ [] := by
    cases change.title <;> simp
  have hdueDate : (change.dueDate.any (·.isBefore now)) = true ↔
      ¬ ∀ dueDate ∈ change.dueDate, dueDate.isBefore now = false := by
    cases change.dueDate <;> simp
  unfold Change.validate
  split
  · next h => exact iff_of_false nofun fun hrules => htitle.mp h hrules.1
  · next h =>
    have htitles := not_not.mp (mt htitle.mpr h)
    split
    · next h => exact iff_of_false nofun fun hrules => hdueDate.mp h hrules.2
    · next h => exact iff_of_true rfl ⟨htitles, not_not.mp (mt hdueDate.mpr h)⟩

end TaskBoard
