import TaskBoard.Proofs.Api.ListRequest

/-!
# How requests about tasks end

A handler succeeds, with the status of its kind, or it fails, with the status of an error. If a
repository leaves the tasks alone when it fails, so do the handlers.
-/

namespace TaskBoard

/-! ## Repositories -/

/-- What fails changes nothing. -/
structure Repository.Atomic {ρ : Type} (repo : Repository ρ) : Prop where
  create : ∀ new id now s e, (repo.create new id now s).1 = .error e →
    (repo.create new id now s).2 = s
  update : ∀ id change now s e, (repo.update id change now s).1 = .error e →
    (repo.update id change now s).2 = s
  delete : ∀ id s e, (repo.delete id s).1 = .error e → (repo.delete id s).2 = s

theorem TaskList.repository_atomic : TaskList.repository.Atomic where
  create _ _ _ _ _ h := nomatch h
  update id change now tasks e h := by
    cases hfound : TaskList.lookup? id tasks with
    | none => simp only [TaskList.repository, hfound]
    | some task => simp [TaskList.repository, hfound] at h
  delete id tasks e h := by
    cases hfound : TaskList.lookup? id tasks with
    | none => simp only [TaskList.repository, hfound]
    | some task => simp [TaskList.repository, hfound] at h

theorem Repository.failing_atomic {ρ : Type} (e : RepoError) :
    (Repository.failing e : Repository ρ).Atomic :=
  ⟨fun _ _ _ _ _ _ => rfl, fun _ _ _ _ _ _ => rfl, fun _ _ _ _ => rfl⟩

variable {ρ : Type} {repo : Repository ρ} {o : Occasion} {s : ρ}

/-! ## The desk -/

theorem exists_of_mapError {ε ε' α : Type} {f : ε → ε'} {r : Except ε α} {e : ε'}
    (h : r.mapError f = .error e) : ∃ e', r = .error e' := by
  cases r with
  | ok a => cases h
  | error e' => exact ⟨e', rfl⟩

namespace Desk

theorem create_of_error (hrepo : repo.Atomic) {draft : Draft} {e : DeskError}
    (h : (create repo o draft s).1 = .error e) : (create repo o draft s).2 = s := by
  unfold create at h ⊢
  cases hvalid : draft.validate o.now with
  | error v => rfl
  | ok new =>
    rw [hvalid] at h
    obtain ⟨e', he'⟩ := exists_of_mapError h
    exact hrepo.create _ _ _ _ e' he'

theorem update_of_error (hrepo : repo.Atomic) {id : Uuid} {change : Change} {e : DeskError}
    (h : (update repo o id change s).1 = .error e) : (update repo o id change s).2 = s := by
  unfold update at h ⊢
  cases hvalid : change.validate o.now with
  | error v => rfl
  | ok _ =>
    rw [hvalid] at h
    obtain ⟨e', he'⟩ := exists_of_mapError h
    exact hrepo.update _ _ _ _ e' he'

theorem delete_of_error (hrepo : repo.Atomic) {id : Uuid} {e : DeskError}
    (h : (delete repo id s).1 = .error e) : (delete repo id s).2 = s := by
  obtain ⟨e', he'⟩ := exists_of_mapError h
  exact hrepo.delete _ _ e' he'

end Desk

namespace Api

open Http Json

/-! ## Errors -/

theorem status_ofDesk (e : DeskError) : (ApiError.ofDesk e).status ∈ [400, 404, 500] := by
  cases e with
  | domain e => cases e <;> simp [ApiError.ofDesk, ApiError.status]
  | repo e => cases e <;> simp [ApiError.ofDesk, ApiError.ofRepo, ApiError.status]

theorem status_of_taskId {segment : List Char} {e : ApiError} (h : taskId segment = .error e) :
    e.status = 400 := by
  unfold taskId at h
  split at h
  · cases h; rfl
  · split at h <;> cases h
    rfl

theorem status_of_payload {α : Type} {read : Bytes → Except Fault α} {r : Request} {e : ApiError}
    (h : payload read r = .error e) : e.status = 400 := by
  unfold payload at h
  split at h
  · cases h; rfl
  · split at h
    · cases h; rfl
    · split at h <;> cases h <;> rfl

/-! ## Handlers -/

/-- The request has been carried out, or else it is answered with an error and has changed
nothing. -/
def Ends (repo : Repository ρ) (success : Nat) (s : ρ) (answered : Response × ρ) : Prop :=
  answered.1.status = success ∨
    answered.1.status ∈ [400, 404, 500] ∧ (repo.Atomic → answered.2 = s)

theorem ends_of_error {success : Nat} {e : ApiError} (h : e.status ∈ [400, 404, 500]) :
    Ends repo success s (e.response, s) := .inr ⟨h, fun _ => rfl⟩

/-- What the desk comes to, as a handler answers it. -/
theorem ends_answer {α : Type} {success : Nat} {write : α → Response} {result : Except DeskError α}
    {t : ρ} (hwrite : ∀ a, (write a).status = success)
    (herror : repo.Atomic → ∀ e, result = .error e → t = s) :
    Ends repo success s (answer write (result.mapError ApiError.ofDesk), t) := by
  cases result with
  | ok a => exact .inl (hwrite a)
  | error e => exact .inr ⟨status_ofDesk e, fun hrepo => herror hrepo e rfl⟩

theorem ends_listTasks (r : Request) : Ends repo 200 s (listTasks repo r s, s) := by
  cases hstatus : (listRequest r.uri.query).status with
  | none =>
    have hrefused : (listTasks repo r s).status = 400 := listTasks_of_refused hstatus
    exact .inr ⟨by simp [hrefused], fun _ => rfl⟩
  | some status =>
    rw [listTasks_of_accepted hstatus]
    exact ends_answer (fun _ => rfl) fun _ _ _ => rfl

theorem ends_getTask (segment : List Char) : Ends repo 200 s (getTask repo segment s, s) := by
  unfold getTask
  cases hid : taskId segment with
  | error e => exact ends_of_error (by simp [status_of_taskId hid])
  | ok id => exact ends_answer (fun _ => rfl) fun _ _ _ => rfl

theorem ends_createTask (r : Request) : Ends repo 201 s (createTask repo o r s) := by
  unfold createTask
  cases hdraft : payload Draft.ofJson r with
  | error e => exact ends_of_error (by simp [status_of_payload hdraft])
  | ok draft =>
    exact ends_answer (fun _ => rfl) fun hrepo _ he => Desk.create_of_error hrepo he

theorem ends_updateTask (segment : List Char) (r : Request) :
    Ends repo 200 s (updateTask repo o segment r s) := by
  unfold updateTask
  cases hid : taskId segment with
  | error e => exact ends_of_error (by simp [status_of_taskId hid])
  | ok id =>
    simp only
    cases hchange : payload Change.ofJson r with
    | error e => exact ends_of_error (by simp [status_of_payload hchange])
    | ok change =>
      exact ends_answer (fun _ => rfl) fun hrepo _ he => Desk.update_of_error hrepo he

theorem ends_deleteTask (segment : List Char) : Ends repo 204 s (deleteTask repo segment s) := by
  unfold deleteTask
  cases hid : taskId segment with
  | error e => exact ends_of_error (by simp [status_of_taskId hid])
  | ok id => exact ends_answer (fun _ => rfl) fun hrepo _ he => Desk.delete_of_error hrepo he

end Api

end TaskBoard
