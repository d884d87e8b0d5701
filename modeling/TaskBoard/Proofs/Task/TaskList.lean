import Mathlib.Data.List.Nodup
import TaskBoard.Task.Desk

/-!
# The task list

Tasks are found, changed and removed by a search from the front of the list. Where no two tasks have
the same identifier, that is the same as a map or a filter of the whole list.
-/

namespace TaskBoard

open scoped List

namespace TaskList

variable {id : Uuid} {f : Task → Task} {tasks : TaskList} {task : Task}

/-! ## Identifiers -/

def ids (tasks : TaskList) : List Uuid := tasks.map (·.id)

theorem lookup?_eq_none_iff : lookup? id tasks = none ↔ id ∉ tasks.ids := by
  simp [lookup?, ids]

theorem mem_ids_of_lookup? (h : lookup? id tasks = some task) : task ∈ tasks ∧ task.id = id :=
  ⟨List.mem_of_find?_eq_some h, by simpa using List.find?_some h⟩

theorem lookup?_eq_some_iff (hids : tasks.ids.Nodup) :
    lookup? id tasks = some task ↔ task ∈ tasks ∧ task.id = id := by
  refine ⟨mem_ids_of_lookup?, ?_⟩
  rintro ⟨htask, rfl⟩
  cases hfound : lookup? task.id tasks with
  | none => exact absurd (List.mem_map_of_mem htask) (lookup?_eq_none_iff.mp hfound)
  | some other =>
    obtain ⟨hother, hid⟩ := mem_ids_of_lookup? hfound
    rw [List.inj_on_of_nodup_map hids hother htask hid]

theorem id_ne_of_mem {other : Task} (hids : ids (task :: tasks) |>.Nodup) (h : other ∈ tasks) :
    other.id ≠ task.id := by
  rw [ids, List.map_cons, List.nodup_cons] at hids
  exact fun hsame => hids.1 (hsame ▸ List.mem_map_of_mem h)

/-- The search for a task ends where a map changes it, since no later one has its identifier. -/
theorem modify_eq_map (hids : tasks.ids.Nodup) :
    modify id f tasks = tasks.map fun task => if task.id = id then f task else task := by
  induction tasks with
  | nil => rfl
  | cons task tasks ih =>
    rw [modify, List.map_cons]
    split
    · next hid =>
      have hrest : ∀ other ∈ tasks, (if other.id = id then f other else other) = other :=
        fun other hother => if_neg (hid ▸ id_ne_of_mem hids hother)
      rw [List.map_congr_left hrest, List.map_id']
    · rw [ih hids.of_cons]

theorem remove_eq_filter (hids : tasks.ids.Nodup) :
    remove id tasks = tasks.filter (·.id ≠ id) := by
  induction tasks with
  | nil => rfl
  | cons task tasks ih =>
    rw [remove]
    split
    · next hid =>
      have hrest : ∀ other ∈ tasks, decide (other.id ≠ id) = true :=
        fun other hother => decide_eq_true (hid ▸ id_ne_of_mem hids hother)
      rw [List.filter_cons_of_neg (by simp [hid]), List.filter_eq_self.mpr hrest]
    · next hid => rw [List.filter_cons_of_pos (by simpa using hid), ih hids.of_cons]

theorem mem_or_of_mem_modify (h : task ∈ modify id f tasks) :
    task ∈ tasks ∨ ∃ old ∈ tasks, task = f old := by
  induction tasks with
  | nil => cases h
  | cons old tasks ih =>
    rw [modify] at h
    split at h
    · rcases List.mem_cons.mp h with rfl | hmem
      · exact .inr ⟨old, List.mem_cons_self, rfl⟩
      · exact .inl (List.mem_cons_of_mem old hmem)
    · rcases List.mem_cons.mp h with rfl | hmem
      · exact .inl List.mem_cons_self
      · rcases ih hmem with hmem | ⟨other, hother, rfl⟩
        · exact .inl (List.mem_cons_of_mem old hmem)
        · exact .inr ⟨other, List.mem_cons_of_mem old hother, rfl⟩

theorem mem_modify_of_lookup? (h : lookup? id tasks = some task) : f task ∈ modify id f tasks := by
  induction tasks with
  | nil => cases h
  | cons other tasks ih =>
    rw [modify]
    split
    · next hid =>
      rw [lookup?, List.find?_cons_of_pos (by simpa using hid)] at h
      cases h
      exact List.mem_cons_self
    · next hid =>
      rw [lookup?, List.find?_cons_of_neg (by simpa using hid)] at h
      exact List.mem_cons_of_mem _ (ih h)

theorem remove_sublist (id : Uuid) (tasks : TaskList) : remove id tasks <+ tasks := by
  induction tasks with
  | nil => exact .slnil
  | cons task tasks ih =>
    rw [remove]
    split
    · exact List.sublist_cons_self task tasks
    · exact ih.cons_cons task

/-! ## Pages -/

theorem withStatus_none : withStatus none tasks = tasks := by
  simp [withStatus]

theorem page_sublist (filter : ListFilter) (tasks : TaskList) :
    (page filter tasks).tasks <+ tasks :=
  ((List.take_sublist _ _).trans (List.drop_sublist _ _)).trans List.filter_sublist

/-- Consecutive pages, up to the end of a list, make up the list. -/
theorem flatMap_pages {α : Type} {limit : Nat} {count : Nat} {l : List α}
    (h : l.length ≤ count * limit) :
    ((List.range count).flatMap fun i => (l.drop (i * limit)).take limit) = l := by
  induction count generalizing l with
  | zero => simp_all
  | succ count ih =>
    have hrest : (l.drop limit).length ≤ count * limit := by
      rw [List.length_drop, Nat.sub_le_iff_le_add, ← Nat.succ_mul]
      exact h
    have hpage : ∀ i, (l.drop ((i + 1) * limit)).take limit =
        ((l.drop limit).drop (i * limit)).take limit := by
      intro i
      rw [List.drop_drop, Nat.succ_mul, Nat.add_comm]
    rw [List.range_succ_eq_map, List.flatMap_cons, List.flatMap_map]
    simp only [Nat.zero_mul, List.drop_zero, hpage, ih hrest, List.take_append_drop]

end TaskList

/-! ## The desk over a task list -/

namespace Desk

open TaskList

variable {o : Occasion} {draft : Draft} {new : NewTask} {id : Uuid} {change : Change}
  {v : Violation} {tasks : TaskList} {task : Task}

theorem create_of_valid (h : draft.validate o.now = .ok new) :
    create repository o draft tasks =
      (.ok (new.toTask o.id o.now), tasks ++ [new.toTask o.id o.now]) := by
  unfold create
  rw [h]
  rfl

theorem create_of_invalid (h : draft.validate o.now = .error v) :
    create repository o draft tasks = (.error (.domain (.violation v)), tasks) := by
  unfold create
  rw [h]

theorem get_of_found (h : lookup? id tasks = some task) : get repository id tasks = .ok task := by
  simp only [get, repository, h]

theorem get_of_missing (h : lookup? id tasks = none) :
    get repository id tasks = .error (.domain .taskNotFound) := by
  simp only [get, repository, h]

theorem update_of_invalid (h : change.validate o.now = .error v) :
    update repository o id change tasks = (.error (.domain (.violation v)), tasks) := by
  unfold update
  rw [h]

theorem update_of_found (hvalid : change.validate o.now = .ok ())
    (hfound : lookup? id tasks = some task) :
    update repository o id change tasks =
      (.ok (task.apply change o.now), modify id (·.apply change o.now) tasks) := by
  unfold update
  rw [hvalid]
  simp only [repository, hfound]
  rfl

theorem update_of_missing (hvalid : change.validate o.now = .ok ())
    (hmissing : lookup? id tasks = none) :
    update repository o id change tasks = (.error (.domain .taskNotFound), tasks) := by
  unfold update
  rw [hvalid]
  simp only [repository, hmissing]
  rfl

theorem delete_of_found (h : lookup? id tasks = some task) :
    delete repository id tasks = (.ok (), remove id tasks) := by
  simp only [delete, repository, h]
  rfl

theorem delete_of_missing (h : lookup? id tasks = none) :
    delete repository id tasks = (.error (.domain .taskNotFound), tasks) := by
  simp only [delete, repository, h]
  rfl

theorem list_of_all (page limit : Option Nat) (tasks : TaskList) :
    list repository none page limit tasks = .ok
      ⟨(tasks.drop ((effectivePage page - 1) * effectiveLimit limit)).take (effectiveLimit limit),
        tasks.length, effectivePage page, effectiveLimit limit⟩ := by
  simp only [list, repository, TaskList.page, withStatus_none]
  rfl

end Desk

end TaskBoard
