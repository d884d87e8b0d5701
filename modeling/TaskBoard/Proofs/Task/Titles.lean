import TaskBoard.Proofs.Task.History

/-!
# Titles with white space around them

A task is created with the title that the draft has between its white space, and is given the title
of a change as it stands. So the same title makes two different ones if there is white space around
it, and the stored titles are without such white space as long as those of the changes are.
-/

namespace TaskBoard

open Time

namespace Desk

open TaskList

variable {turn : Turn} {b : Book}

/-! ## Titles that changes give -/

/-- The titles that the updates have given. -/
def givenTitles (deeds : List Deed) : List (List Char) :=
  deeds.filterMap fun d =>
    match d with
    | .updated _ change _ => change.title
    | .created .. | .deleted _ => none

theorem givenTitles_snoc_updated (deeds : List Deed) (id : Uuid) (change : Change) (now : Moment) :
    givenTitles (deeds ++ [.updated id change now]) =
      givenTitles deeds ++ change.title.toList := by
  rw [givenTitles, List.filterMap_append]
  cases h : change.title <;> simp [givenTitles, h]

theorem givenTitles_next (b : Book) (turn : Turn) :
    ∃ titles, givenTitles (b.next turn).deeds = givenTitles b.deeds ++ titles := by
  obtain ⟨done, hdone⟩ := deeds_next b turn
  exact ⟨givenTitles done, by rw [hdone, givenTitles, List.filterMap_append]; rfl⟩

/-! ## What a turn does to titles -/

/-- White space stands around a title only if an update gave the title so. -/
def Sourced (b : Book) : Prop :=
  ∀ task ∈ b.tasks, Trimmed task.title ∨ task.title ∈ givenTitles b.deeds

theorem Sourced.next (h : Sourced b) (turn : Turn) : Sourced (b.next turn) := by
  have hold : ∀ task ∈ b.tasks,
      Trimmed task.title ∨ task.title ∈ givenTitles (b.next turn).deeds := by
    obtain ⟨titles, htitles⟩ := givenTitles_next b turn
    intro task htask
    rw [htitles]
    exact (h task htask).imp_right (List.mem_append_left titles)
  intro task htask
  rcases next_cases b turn with hsame | ⟨draft, new, hvalid, hnext⟩ |
    ⟨id, change, found, -, -, hnext⟩ | ⟨id, found, -, hnext⟩
  · rw [hsame] at htask
    exact hold task htask
  · obtain ⟨-, _, -, -, rfl⟩ := Draft.validate_eq_ok_iff.mp hvalid
    rw [hnext] at htask
    rcases List.mem_append.mp htask with hmem | hnew
    · exact hold task hmem
    · rw [List.mem_singleton.mp hnew]
      exact .inl (trimmed_trim draft.title)
  · have htasks := congrArg Book.tasks hnext
    rw [htasks] at htask
    rcases mem_or_of_mem_modify htask with hmem | ⟨old, hmem, rfl⟩
    · exact hold task hmem
    · cases htitle : change.title with
      | none =>
        rw [Task.apply, htitle]
        exact hold old hmem
      | some title =>
        rw [Task.apply, htitle, hnext, givenTitles_snoc_updated, htitle]
        exact .inr (List.mem_append_right _ List.mem_cons_self)
  · rw [hnext] at htask
    exact hold task ((remove_sublist id b.tasks).subset htask)

/-- A title that a turn gives is that of a task after it. -/
theorem mem_of_given {title : List Char} (h : title ∈ givenTitles (b.next turn).deeds) :
    title ∈ givenTitles b.deeds ∨ ∃ task ∈ (b.next turn).tasks, task.title = title := by
  rcases next_cases b turn with hsame | ⟨draft, new, -, hnext⟩ |
    ⟨id, change, found, -, hfound, hnext⟩ | ⟨id, found, -, hnext⟩
  · rw [hsame] at h
    exact .inl h
  · rw [hnext, givenTitles, List.filterMap_append, List.mem_append] at h
    exact h.imp_right (by simp)
  · rw [hnext, givenTitles_snoc_updated, List.mem_append] at h
    refine h.imp_right fun hgiven => ⟨found.apply change turn.occasion.now, ?_, ?_⟩
    · rw [hnext]
      exact mem_modify_of_lookup? hfound
    · rw [Task.apply, Option.mem_toList.mp hgiven, Option.getD_some]
  · rw [hnext, givenTitles, List.filterMap_append, List.mem_append] at h
    exact h.imp_right (by simp)

/-! ## Runs -/

theorem bookAfter_snoc (turns : List Turn) (turn : Turn) :
    bookAfter (turns ++ [turn]) = (bookAfter turns).next turn := List.foldl_concat ..

theorem sourced_bookAfter (turns : List Turn) : Sourced (bookAfter turns) := by
  induction turns using List.reverseRecOn with
  | nil => exact nofun
  | append_singleton turns turn ih =>
    rw [bookAfter_snoc]
    exact ih.next turn

theorem trimmed_throughout_iff (turns : List Turn) :
    (∀ past, past <+: turns → ∀ task ∈ (bookAfter past).tasks, Trimmed task.title) ↔
      ∀ title ∈ givenTitles (bookAfter turns).deeds, Trimmed title := by
  induction turns using List.reverseRecOn with
  | nil =>
    refine iff_of_true (fun past hpast task htask => ?_) fun title htitle => ?_
    · rw [List.prefix_nil.mp hpast] at htask
      exact absurd htask List.not_mem_nil
    · exact absurd htitle List.not_mem_nil
  | append_singleton turns turn ih =>
    rw [bookAfter_snoc]
    constructor
    · intro hall title htitle
      rcases mem_of_given htitle with hbefore | ⟨task, htask, rfl⟩
      · refine ih.mp (fun past hpast => hall past ?_) title hbefore
        exact hpast.trans (List.prefix_append _ _)
      · exact hall _ (List.prefix_refl _) task (by rwa [bookAfter_snoc])
    · intro hgiven past hpast
      rcases List.prefix_concat_iff.mp hpast with rfl | hpast
      · intro task htask
        rw [bookAfter_snoc] at htask
        exact ((sourced_bookAfter turns).next turn task htask).elim id (hgiven _)
      · obtain ⟨titles, htitles⟩ := givenTitles_next (bookAfter turns) turn
        refine ih.mpr (fun title htitle => hgiven title ?_) past hpast
        rw [htitles]
        exact List.mem_append_left titles htitle

/-- The same title makes the same one in a draft and in a change exactly if no white space is around
it. So a stored title is without white space around it, or else an update gave it so; and all stored
titles are without it all along exactly if those that the updates give are. -/
theorem titles_trimmed_throughout_iff (turns : List Turn) :
    (∀ (draft : Draft) (change : Change) (new : NewTask) (now now' : Moment) (id : Uuid)
      (task : Task), draft.validate now = .ok new → change.validate now' = .ok () →
      change.title = some draft.title →
        ((new.toTask id now).title = (task.apply change now').title ↔ Trimmed draft.title)) ∧
    (∀ task ∈ (bookAfter turns).tasks,
      Trimmed task.title ∨ task.title ∈ givenTitles (bookAfter turns).deeds) ∧
    ((∀ past, past <+: turns → ∀ task ∈ (bookAfter past).tasks, Trimmed task.title) ↔
      ∀ title ∈ givenTitles (bookAfter turns).deeds, Trimmed title) := by
  refine ⟨fun draft change new now now' id task hdraft _ htitle => ?_, sourced_bookAfter turns,
    trimmed_throughout_iff turns⟩
  obtain ⟨-, _, -, -, rfl⟩ := Draft.validate_eq_ok_iff.mp hdraft
  simp only [NewTask.toTask, Task.apply, htitle, Option.getD_some, Trimmed]

/-- A task keeps the title of the draft and then that of a change, both without white space around
them. -/
theorem plain_title_all_along :
    let now (hour : Nat) : Moment := ⟨2024, 5, 1, hour, 0, 0, 0, 0⟩
    let id : Uuid := ⟨List.replicate 32 '1', rfl, by decide⟩
    let draft : Draft := ⟨"a b".toList, [], none, some (now 20)⟩
    let change : Change := ⟨some "a b".toList, none, none, none⟩
    let new : NewTask := ⟨"a b".toList, [], .pending, now 20⟩
    let turns : List Turn := [⟨⟨now 6, id⟩, .create draft⟩, ⟨⟨now 7, id⟩, .update id change⟩]
    draft.validate (now 6) = .ok new ∧ change.validate (now 7) = .ok () ∧
    (new.toTask id (now 6)).title = ((new.toTask id (now 6)).apply change (now 7)).title ∧
    givenTitles (bookAfter turns).deeds = ["a b".toList] ∧
    ∀ past, past <+: turns → ∀ task ∈ (bookAfter past).tasks, Trimmed task.title := by
  intro now id draft change new turns
  have hdraft : draft.validate (now 6) = .ok new := by decide +kernel
  have hchange : change.validate (now 7) = .ok () := by decide +kernel
  have hgiven : givenTitles (bookAfter turns).deeds = ["a b".toList] := by decide +kernel
  obtain ⟨hsame, -, hall⟩ := titles_trimmed_throughout_iff turns
  refine ⟨hdraft, hchange, ?_, hgiven, hall.mpr ?_⟩
  · exact (hsame draft change new _ _ id _ hdraft hchange rfl).mpr (by decide)
  · rw [hgiven]
    decide

/-- A draft and a change have the same title, with white space around it. The change puts it over
the one that the task was created with. -/
theorem spaced_title_of_change :
    let now (hour : Nat) : Moment := ⟨2024, 5, 1, hour, 0, 0, 0, 0⟩
    let id : Uuid := ⟨List.replicate 32 '1', rfl, by decide⟩
    let draft : Draft := ⟨" a ".toList, [], none, some (now 20)⟩
    let change : Change := ⟨some " a ".toList, none, none, none⟩
    let creation : Turn := ⟨⟨now 6, id⟩, .create draft⟩
    let update : Turn := ⟨⟨now 7, id⟩, .update id change⟩
    (draft.validate (now 6)).isOk ∧ (change.validate (now 7)).isOk ∧
    (bookAfter [creation]).tasks.map (·.title) = ["a".toList] ∧
    (bookAfter [creation, update]).tasks.map (·.title) = [" a ".toList] ∧
    ¬ ∀ task ∈ (bookAfter [creation, update]).tasks, Trimmed task.title := by
  decide +kernel

end Desk

end TaskBoard
