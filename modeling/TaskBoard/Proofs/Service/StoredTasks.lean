import TaskBoard.Proofs.Service.Uncached
import TaskBoard.Proofs.Task.JsonText
import TaskBoard.Proofs.Task.Rules
import TaskBoard.Proofs.Task.TaskList
import TaskBoard.Proofs.Time.Clock

/-!
# Stored tasks are read back

The dates of a stored task come from the clock and from the bodies of requests. Both give legible
moments, so every task that the service stores is read back from its JSON text.
-/

namespace TaskBoard

open Http Api Json Time Text TaskList

variable {o : Occasion} {r : Request} {tasks : TaskList}

/-! ## What a request makes of the tasks -/

theorem read_of_payload {α : Type} {read : Bytes → Except Fault α} {a : α}
    (h : payload read r = .ok a) : read r.body = .ok a := by
  unfold payload at h
  split at h
  · cases h
  · split at h
    · cases h
    · split at h <;> cases h
      assumption

/-- A request adds a task that its body describes, or changes or removes one, or leaves the tasks as
they are. -/
inductive Follows (o : Occasion) (r : Request) (tasks : TaskList) : TaskList → Prop
  | same : Follows o r tasks tasks
  | created {draft : Draft} {new : NewTask} : Draft.ofJson r.body = .ok draft →
    draft.validate o.now = .ok new → Follows o r tasks (tasks ++ [new.toTask o.id o.now])
  | updated {change : Change} (id : Uuid) : Change.ofJson r.body = .ok change →
    change.validate o.now = .ok () → Follows o r tasks (modify id (·.apply change o.now) tasks)
  | deleted (id : Uuid) : Follows o r tasks (remove id tasks)

theorem follows_createTask (o : Occasion) (r : Request) (tasks : TaskList) :
    Follows o r tasks (createTask repository o r tasks).2 := by
  unfold createTask
  cases hdraft : payload Draft.ofJson r with
  | error e => exact .same
  | ok draft =>
    simp only
    cases hvalid : draft.validate o.now with
    | error v =>
      rw [Desk.create_of_invalid hvalid]
      exact .same
    | ok new =>
      rw [Desk.create_of_valid hvalid]
      exact .created (read_of_payload hdraft) hvalid

theorem follows_updateTask (o : Occasion) (segment : List Char) (r : Request) (tasks : TaskList) :
    Follows o r tasks (updateTask repository o segment r tasks).2 := by
  unfold updateTask
  cases taskId segment with
  | error e => exact .same
  | ok id =>
    simp only
    cases hchange : payload Change.ofJson r with
    | error e => exact .same
    | ok change =>
      simp only
      cases hvalid : change.validate o.now with
      | error v =>
        rw [Desk.update_of_invalid hvalid]
        exact .same
      | ok _ =>
        cases hfound : lookup? id tasks with
        | none =>
          rw [Desk.update_of_missing hvalid hfound]
          exact .same
        | some task =>
          rw [Desk.update_of_found hvalid hfound]
          exact .updated id (read_of_payload hchange) hvalid

theorem follows_deleteTask (o : Occasion) (segment : List Char) (r : Request) (tasks : TaskList) :
    Follows o r tasks (deleteTask repository segment tasks).2 := by
  unfold deleteTask
  cases taskId segment with
  | error e => exact .same
  | ok id =>
    simp only
    cases hfound : lookup? id tasks with
    | none =>
      rw [Desk.delete_of_missing hfound]
      exact .same
    | some task =>
      rw [Desk.delete_of_found hfound]
      exact .deleted id

namespace Service

theorem follows_taskOrigin (o : Occasion) (p : Place) (r : Request) (tasks : TaskList) :
    Follows o r tasks (taskOrigin repository o p r tasks).2 := by
  unfold taskOrigin
  cases p with
  | tasks =>
    simp only
    split_ifs
    · exact .same
    · exact follows_createTask o r tasks
    · exact .same
  | task segment =>
    simp only
    split_ifs
    · exact .same
    · exact follows_updateTask o segment r tasks
    · exact follows_deleteTask o segment r tasks
    · exact .same
  | health | nowhere => exact .same

theorem follows_next {σ : Type} (settings : Settings) (v : Visit σ) (s : State σ TaskList) :
    Follows v.occasion v.request s.repo (v.next settings repository s).repo := by
  rw [repo_next]
  split
  · exact follows_taskOrigin v.occasion _ v.request s.repo
  · exact .same

end Service

/-! ## Dates -/

def AllLegible (tasks : TaskList) : Prop := ∀ task ∈ tasks, task.Legible

theorem Task.Legible.apply {task : Task} {change : Change} {now : Moment} (h : task.Legible)
    (hnow : now.Legible) (hchange : ∀ m ∈ change.dueDate, m.Legible) :
    (task.apply change now).Legible := by
  refine ⟨?_, h.createdAt, hnow⟩
  cases hdueDate : change.dueDate with
  | none =>
    rw [Task.apply, hdueDate]
    exact h.dueDate
  | some dueDate =>
    rw [Task.apply, hdueDate]
    exact hchange dueDate hdueDate

theorem AllLegible.follows {tasks' : TaskList} (h : AllLegible tasks) (hnow : o.now.Legible)
    (hfollows : Follows o r tasks tasks') : AllLegible tasks' := by
  intro task htask
  cases hfollows with
  | same => exact h task htask
  | created hdraft hvalid =>
    rcases List.mem_append.mp htask with hold | hnew
    · exact h task hold
    · obtain ⟨-, dueDate, hdueDate, -, rfl⟩ := Draft.validate_eq_ok_iff.mp hvalid
      rw [List.mem_singleton.mp hnew]
      exact ⟨Draft.legible_of_ofJson hdraft dueDate hdueDate, hnow, hnow⟩
  | updated id hchange _ =>
    rcases mem_or_of_mem_modify htask with hold | ⟨old, hold, rfl⟩
    · exact h task hold
    · exact (h old hold).apply hnow (Change.legible_of_ofJson hchange)
  | deleted id => exact h task ((remove_sublist id tasks).subset htask)

namespace Service

variable {σ : Type} {settings : Settings} {s : State σ TaskList} {past : List (Visit σ)}

theorem allLegible_after (h : AllLegible s.repo) (hclock : ∀ v ∈ past, v.occasion.now.Legible) :
    AllLegible (after settings repository s past).repo := by
  induction past generalizing s with
  | nil => exact h
  | cons v past ih =>
    rw [List.forall_mem_cons] at hclock
    exact ih (h.follows hclock.1 (follows_next settings v s)) hclock.2

/-- A task is read back from its JSON text exactly if its dates are legible. So are those of every
task that is read from a JSON text, and of every task that the service stores while its clock gives
legible moments, whatever it is asked. -/
theorem stored_tasks_read_back (settings : Settings) (stored : σ)
    (admissions : RateLimit.Admissions) (past : List (Visit σ))
    (hclock : ∀ v ∈ past, v.occasion.now.Legible) :
    (∀ task : Task, Task.ofJson (Utf8.encode task.toJson) = .ok task ↔ task.Legible) ∧
    (∀ (s : Bytes) (task : Task), Task.ofJson s = .ok task →
      Task.ofJson (Utf8.encode task.toJson) = .ok task) ∧
    ∀ task ∈ (after settings repository ⟨stored, [], admissions⟩ past).repo,
      Task.ofJson (Utf8.encode task.toJson) = .ok task := by
  refine ⟨fun task => Task.ofJson_toJson_iff, fun s task hread => ?_, fun task htask => ?_⟩
  · exact Task.ofJson_toJson (Task.legible_of_ofJson hread)
  · have hnone : AllLegible (⟨stored, [], admissions⟩ : State σ TaskList).repo := nofun
    exact Task.ofJson_toJson (allLegible_after hnone hclock task htask)

/-- A task whose title is escaped, and whose due date is a leap second with an offset. -/
theorem leap_second_read_back :
    let now : Moment := .ofUnix 1714543200 120000000
    let body := "\x7b\"title\":\"\\\"\\u0007é\",\"due_date\":\"2030-06-30T18:29:60-05:30\"\x7d"
    let creation : Request := ⟨.post, ⟨"/api/v1/tasks".toList, none⟩,
      [⟨contentType, asciiBytes "application/json"⟩], Utf8.encode body.toList⟩
    let v : Visit Cache.Memory :=
      ⟨creation, 0, ⟨now, dawn.id⟩, none, Cache.Memory.store 0, Cache.Memory.store 0⟩
    let settings : Settings := ⟨some .standard, none⟩
    let task : Task := ⟨dawn.id, ['"', '\x07', 'é'], [], .pending,
      ⟨2030, 6, 30, 18, 29, 59, 999999999, -330⟩, now, now⟩
    (∀ u ∈ [v], u.occasion.now.Legible) ∧
    (after settings repository ⟨[], [], []⟩ [v]).repo = [task] ∧
    task.dueDate.text = "2030-06-30T18:29:59.999999999-05:30".toList ∧
    now.text = "2024-05-01T06:00:00.12Z".toList ∧
    Task.ofJson (Utf8.encode task.toJson) = .ok task := by
  intro now body creation v settings task
  have hclock : ∀ u ∈ [v], u.occasion.now.Legible := by
    intro u hu
    rw [List.mem_singleton.mp hu]
    exact Moment.legible_ofUnix (by decide) (by decide)
  have hrepo : (after settings repository ⟨[], [], []⟩ [v]).repo = [task] := by decide +kernel
  obtain ⟨-, -, hstored⟩ := stored_tasks_read_back settings [] [] [v] hclock
  refine ⟨hclock, hrepo, by decide +kernel, by decide +kernel, hstored task ?_⟩
  rw [hrepo]
  exact List.mem_singleton_self task

end Service

end TaskBoard
