import TaskBoard.Proofs.Api.Endings
import TaskBoard.Proofs.Service.Uncached

/-!
# Failed requests change no task

Whatever a request fails on, at the limiter, on its route, in its path or its body, against the
rules or in the repository: the tasks are then what they were before it. Only a creation, an update
and a deletion that are answered as such have changed them.
-/

namespace TaskBoard.Service

open Http Api Cache Time

variable {σ ρ : Type} {settings : Settings} {repo : Repository ρ} {o : Occasion} {r : Request}

/-! ## Where requests end -/

/-- The methods that change tasks, with the statuses that say so. -/
def changes : List (Method × Nat) := [(.post, 201), (.put, 200), (.delete, 204)]

/-- The request has changed the tasks and says so, or it has not changed them. -/
def Concludes (repo : Repository ρ) (m : Method) (s : ρ) (answered : Response × ρ) : Prop :=
  (m, answered.1.status) ∈ changes ∨
    answered.1.status ∈ [200, 400, 404, 405, 500] ∧ (repo.Atomic → answered.2 = s)

theorem concludes_of_ends {m : Method} {success : Nat} {s : ρ} {answered : Response × ρ}
    (hmem : (m, success) ∈ changes) (h : Ends repo success s answered) :
    Concludes repo m s answered := by
  rcases h with rfl | ⟨hstatus, hsame⟩
  · exact .inl hmem
  · refine .inr ⟨?_, hsame⟩
    simp only [List.mem_cons, List.not_mem_nil, or_false] at hstatus ⊢
    tauto

theorem concludes_of_read {m : Method} {s : ρ} {response : Response}
    (h : Ends repo 200 s (response, s)) : Concludes repo m s (response, s) := by
  refine .inr ⟨?_, fun _ => rfl⟩
  rcases h with hstatus | ⟨hstatus, -⟩ <;>
    simp only [List.mem_cons, List.not_mem_nil, or_false] at hstatus ⊢ <;> tauto

theorem taskOrigin_concludes (p : Place) (s : ρ) :
    Concludes repo r.method s (taskOrigin repo o p r s) := by
  unfold taskOrigin
  cases p with
  | tasks =>
    simp only
    split
    · exact concludes_of_read (ends_listTasks r)
    · split
      · next hpost => exact hpost ▸ concludes_of_ends (by simp [changes]) (ends_createTask r)
      · exact .inr ⟨by simp [notAllowed, Response.empty], fun _ => rfl⟩
  | task segment =>
    simp only
    split
    · exact concludes_of_read (ends_getTask segment)
    · split
      · next hput => exact hput ▸ concludes_of_ends (by simp [changes]) (ends_updateTask segment r)
      · split
        · next hdelete =>
          exact hdelete ▸ concludes_of_ends (by simp [changes]) (ends_deleteTask segment)
        · exact .inr ⟨by simp [notAllowed, Response.empty], fun _ => rfl⟩
  | health | nowhere => exact .inr ⟨by simp [Response.empty], fun _ => rfl⟩

/-! ## Visits -/

theorem status_outgoing (r : Request) (inner : Cache.Answer) :
    (outgoing r inner).response.status = inner.response.status := by
  unfold outgoing withAllowed Response.forMethod
  simp only
  split <;> split <;> rfl

theorem status_seen {v : Visit σ} {s : State σ ρ} :
    (v.seen settings repo s).1 = (v.answer settings repo s).1.response.status := by
  rw [seen_eq]

/-- A visit after which the tasks are others is answered as a change. -/
theorem repo_next_of_atomic (hrepo : repo.Atomic) (v : Visit σ) (s : State σ ρ) :
    (v.request.method, (v.seen settings repo s).1) ∈ changes ∨
      (v.next settings repo s).repo = s.repo := by
  rw [repo_next, status_seen, Visit.answer]
  cases hrefusal : settings.refusal? v.clock s.admissions with
  | some refusal => exact .inr rfl
  | none =>
    rw [handle_of_admitted hrefusal]
    simp only [status_outgoing]
    by_cases hget : v.request.method = .get
    · exact .inr (taskOrigin_of_get hget s.repo)
    · by_cases hhealth : place v.request.uri.path = .health
      · rw [hhealth]
        exact .inr rfl
      · -- Anything but a read is answered by the task handlers, whatever the cache does.
        rw [response_route hget hhealth]
        exact (taskOrigin_concludes _ s.repo).imp id fun h => h.2 hrepo

/-- In whatever state the service is and whatever is asked of it, an answer with an error status
comes with the tasks as they were; and the tasks have changed only if the answer says that one was
created, updated or deleted. -/
theorem failed_request_changes_no_task (settings : Settings) (v : Visit σ)
    (s : State σ TaskList) :
    let status := (v.seen settings TaskList.repository s).1
    let tasks := (v.next settings TaskList.repository s).repo
    (400 ≤ status → tasks = s.repo) ∧
      (tasks ≠ s.repo → (v.request.method, status) ∈ changes) := by
  intro status tasks
  have hnext : (v.request.method, status) ∈ changes ∨ tasks = s.repo :=
    repo_next_of_atomic TaskList.repository_atomic v s
  refine ⟨fun hfailed => hnext.resolve_left fun hchange => ?_, hnext.resolve_right⟩
  have hlow : ∀ c ∈ changes, c.2 < 400 := by decide
  exact Nat.not_lt.mpr hfailed (hlow _ hchange)

/-- A task is given a blank title, with a request that reaches the rules for titles. -/
theorem blank_title_changes_no_task :
    let settings : Settings := ⟨some .standard, some ⟨Duration.ofSeconds 60, 3⟩⟩
    let task : Task := ⟨dawn.id, ['a'], [], .pending, dawn.now, dawn.now, dawn.now⟩
    let update : Request := ⟨.put, ⟨"/api/v1/tasks/00000000000000000000000000000000".toList, none⟩,
      [⟨contentType, asciiBytes "application/json"⟩], asciiBytes "\x7b\"title\":\" \"\x7d"⟩
    let v : Visit Memory := ⟨update, 0, dawn, none, Memory.store 0, Memory.store 0⟩
    let start : State Memory TaskList := ⟨[], [task], []⟩
    (v.seen settings TaskList.repository start).1 = 400 ∧
      (v.next settings TaskList.repository start).repo = [task] := by
  intro settings task update v start
  have hstatus : (v.seen settings TaskList.repository start).1 = 400 := by decide +kernel
  obtain ⟨hfailed, -⟩ := failed_request_changes_no_task settings v start
  exact ⟨hstatus, hfailed (Nat.le_of_eq hstatus.symm)⟩

end TaskBoard.Service
