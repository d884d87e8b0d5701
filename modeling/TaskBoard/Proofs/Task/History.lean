import Mathlib.Data.List.Induction
import TaskBoard.Proofs.Task.Rules
import TaskBoard.Proofs.Task.TaskList

/-!
# Tasks as their history tells

The tasks that are there are those that were created and not deleted, in the order in which they
were created. Each field of a task has the value of the last update that gave one, or else the value
that the task was created with.
-/

namespace TaskBoard.Desk

open Time TaskList

/-! ## Orders -/

inductive Order where
  | create (draft : Draft)
  | get (id : Uuid)
  | update (id : Uuid) (change : Change)
  | delete (id : Uuid)
  | list (status : Option Status) (page limit : Option Nat)

/-- An order, and what it finds. -/
structure Turn where
  occasion : Occasion
  order : Order

/-- Whether the order is carried out, and the tasks after it. -/
def Turn.carryOut (turn : Turn) (tasks : TaskList) : Bool × TaskList :=
  match turn.order with
  | .create draft =>
    let (answer, tasks) := Desk.create repository turn.occasion draft tasks
    (answer.isOk, tasks)
  | .get id => ((Desk.get repository id tasks).isOk, tasks)
  | .update id change =>
    let (answer, tasks) := Desk.update repository turn.occasion id change tasks
    (answer.isOk, tasks)
  | .delete id =>
    let (answer, tasks) := Desk.delete repository id tasks
    (answer.isOk, tasks)
  | .list status page limit => ((Desk.list repository status page limit tasks).isOk, tasks)

/-! ## Deeds -/

/-- What an order does to the tasks if it is carried out. -/
inductive Deed where
  | created (new : NewTask) (o : Occasion)
  | updated (id : Uuid) (change : Change) (now : Moment)
  | deleted (id : Uuid)

def Turn.deed? (turn : Turn) : Option Deed :=
  match turn.order with
  | .create draft =>
    (draft.validate turn.occasion.now).toOption.map fun new => .created new turn.occasion
  | .update id change => some (.updated id change turn.occasion.now)
  | .delete id => some (.deleted id)
  | .get _ | .list .. => none

/-- The tasks, and what has been done to them, the first thing first. -/
structure Book where
  tasks : TaskList
  deeds : List Deed

def Book.next (b : Book) (turn : Turn) : Book :=
  let (done, tasks) := turn.carryOut b.tasks
  ⟨tasks, b.deeds ++ if done then turn.deed?.toList else []⟩

/-- The book of a desk that began without tasks. -/
def bookAfter (turns : List Turn) : Book := turns.foldl Book.next ⟨[], []⟩

namespace Deed

/-- The task that is meant. -/
def id : Deed → Uuid
  | created _ o => o.id
  | updated id .. | deleted id => id

def task? : Deed → Option Task
  | created new o => some (new.toTask o.id o.now)
  | updated .. | deleted _ => none

def deletes (id : Uuid) : Deed → Bool
  | deleted id' => id' = id
  | created .. | updated .. => false

/-- The change that the deed makes to the task, and when. -/
def update? (id : Uuid) : Deed → Option (Change × Moment)
  | updated id' change now => if id' = id then some (change, now) else none
  | created .. | deleted _ => none

/-- The value that the deed gives to a field of the task. -/
def gives {α : Type} (id : Uuid) (field : Change → Option α) (d : Deed) : Option α :=
  (d.update? id).bind fun u => field u.1

def updatedAt? (id : Uuid) (d : Deed) : Option Moment := (d.update? id).map (·.2)

end Deed

/-! ## What deeds tell -/

def latest {α : Type} (f : Deed → Option α) (deeds : List Deed) : Option α :=
  (deeds.filterMap f).getLast?

/-- All tasks as they were created, the first one first. -/
def createdTasks (deeds : List Deed) : TaskList := deeds.filterMap (·.task?)

def isDeleted (deeds : List Deed) (id : Uuid) : Bool := deeds.any (·.deletes id)

def liveTasks (deeds : List Deed) : TaskList :=
  (createdTasks deeds).filter fun task => !isDeleted deeds task.id

/-- What a task has become since it was created. -/
def current (deeds : List Deed) (task : Task) : Task :=
  { task with
    title := (latest (·.gives task.id (·.title)) deeds).getD task.title
    description := (latest (·.gives task.id (·.description)) deeds).getD task.description
    status := (latest (·.gives task.id (·.status)) deeds).getD task.status
    dueDate := (latest (·.gives task.id (·.dueDate)) deeds).getD task.dueDate
    updatedAt := (latest (·.updatedAt? task.id) deeds).getD task.updatedAt }

variable {deeds : List Deed} {d : Deed} {task : Task} {b : Book} {turn : Turn}

theorem latest_snoc {α : Type} (f : Deed → Option α) (deeds : List Deed) (d : Deed) :
    latest f (deeds ++ [d]) = (f d).or (latest f deeds) := by
  unfold latest
  rw [List.filterMap_append]
  cases h : f d <;> simp [h]

theorem current_snoc_updated (deeds : List Deed) (id : Uuid) (change : Change) (now : Moment)
    (task : Task) :
    current (deeds ++ [.updated id change now]) task =
      if task.id = id then (current deeds task).apply change now else current deeds task := by
  simp only [current, latest_snoc, Deed.gives, Deed.updatedAt?, Deed.update?, eq_comm (a := id)]
  split
  · cases change with
    | mk title description status dueDate =>
      cases title <;> cases description <;> cases status <;> cases dueDate <;> rfl
  · simp only [Option.bind_none, Option.map_none, Option.none_or]

theorem current_snoc_of_not_update (h : ∀ id, d.update? id = none) (task : Task) :
    current (deeds ++ [d]) task = current deeds task := by
  simp only [current, latest_snoc, Deed.gives, Deed.updatedAt?, h, Option.bind_none,
    Option.map_none, Option.none_or]

theorem update?_of_other {id : Uuid} (h : d.id ≠ id) : d.update? id = none := by
  cases d with
  | updated id' change now => exact if_neg h
  | created _ _ | deleted _ => rfl

theorem latest_eq_none {α : Type} {f : Deed → Option α} (h : ∀ d ∈ deeds, f d = none) :
    latest f deeds = none := by
  rw [latest, List.filterMap_eq_nil_iff.mpr h, List.getLast?_nil]

/-- What is done to other tasks leaves a task as it is. -/
theorem current_of_others (h : ∀ d ∈ deeds, d.id ≠ task.id) : current deeds task = task := by
  have hupdate : ∀ d ∈ deeds, d.update? task.id = none := fun d hd => update?_of_other (h d hd)
  have hgives {α : Type} (field : Change → Option α) :
      latest (·.gives task.id field) deeds = none :=
    latest_eq_none fun d hd => by rw [Deed.gives, hupdate d hd, Option.bind_none]
  have hupdated : latest (·.updatedAt? task.id) deeds = none :=
    latest_eq_none fun d hd => by rw [Deed.updatedAt?, hupdate d hd, Option.map_none]
  simp only [current, hgives, hupdated, Option.getD_none]

theorem isDeleted_snoc (deeds : List Deed) (d : Deed) (id : Uuid) :
    isDeleted (deeds ++ [d]) id = (isDeleted deeds id || d.deletes id) := by
  simp [isDeleted]

theorem isDeleted_of_others {id : Uuid} (h : ∀ d ∈ deeds, d.id ≠ id) :
    isDeleted deeds id = false := by
  refine List.any_eq_false.mpr fun d hd => ?_
  cases d with
  | deleted id' =>
    have hid : id' ≠ id := h _ hd
    simpa [Deed.deletes] using hid
  | created _ _ | updated _ _ _ => simp [Deed.deletes]

theorem createdTasks_snoc (deeds : List Deed) (d : Deed) :
    createdTasks (deeds ++ [d]) = createdTasks deeds ++ d.task?.toList := by
  rw [createdTasks, List.filterMap_append]
  cases h : d.task? <;> simp [createdTasks, h]

theorem liveTasks_snoc_created {new : NewTask} {o : Occasion} (h : isDeleted deeds o.id = false) :
    liveTasks (deeds ++ [.created new o]) = liveTasks deeds ++ [new.toTask o.id o.now] := by
  simp [liveTasks, createdTasks_snoc, isDeleted_snoc, Deed.task?, Deed.deletes, NewTask.toTask, h]

theorem liveTasks_snoc_updated (deeds : List Deed) (id : Uuid) (change : Change) (now : Moment) :
    liveTasks (deeds ++ [.updated id change now]) = liveTasks deeds := by
  simp [liveTasks, createdTasks_snoc, isDeleted_snoc, Deed.task?, Deed.deletes]

theorem liveTasks_snoc_deleted (deeds : List Deed) (id : Uuid) :
    liveTasks (deeds ++ [.deleted id]) = (liveTasks deeds).filter (·.id ≠ id) := by
  simp only [liveTasks, createdTasks_snoc, isDeleted_snoc, Deed.task?, Deed.deletes,
    Option.toList_none, List.append_nil, List.filter_filter]
  refine List.filter_congr fun task _ => ?_
  simp [eq_comm (a := id), Bool.and_comm]

/-- A task is live if it was created and not deleted. -/
theorem mem_ids_liveTasks {id : Uuid} : id ∈ (liveTasks deeds).ids ↔
    id ∈ (createdTasks deeds).ids ∧ isDeleted deeds id = false := by
  simp only [liveTasks, ids, List.mem_map, List.mem_filter, Bool.not_eq_true']
  constructor
  · rintro ⟨task, ⟨htask, hlive⟩, rfl⟩
    exact ⟨⟨task, htask, rfl⟩, hlive⟩
  · rintro ⟨⟨task, htask, rfl⟩, hlive⟩
    exact ⟨task, ⟨htask, hlive⟩, rfl⟩

/-! ## Titles -/

/-- There is more than white space in it. -/
def Titled (title : List Char) : Prop := ∃ c ∈ title, Text.isBlank c = false

theorem titled_trim {title : List Char} (h : Text.trim title ≠ []) : Titled (Text.trim title) := by
  -- What is left of the end of a text begins, read from behind, with something else than a blank.
  let rest := (Text.trimStart Text.isBlank title).reverse.dropWhile Text.isBlank
  have hrest : rest ≠ [] := fun hnil => h (List.reverse_eq_nil_iff.mpr hnil)
  exact ⟨rest.head hrest, List.mem_reverse.mpr (List.head_mem hrest),
    List.head_dropWhile_not Text.isBlank hrest⟩

theorem mem_of_mem_trim {c : Char} {text : List Char} (h : c ∈ Text.trim text) : c ∈ text := by
  have hstart : c ∈ Text.trimStart Text.isBlank text :=
    List.mem_reverse.mp (List.dropWhile_subset _ (List.mem_reverse.mp h))
  exact List.dropWhile_subset _ hstart

theorem titled_of_draft {draft : Draft} {now : Moment} {new : NewTask}
    (h : draft.validate now = .ok new) : Titled new.title := by
  obtain ⟨htitle, _, -, -, rfl⟩ := Draft.validate_eq_ok_iff.mp h
  exact titled_trim htitle

theorem titled_of_change {change : Change} {now : Moment} (h : change.validate now = .ok ())
    {title : List Char} (htitle : change.title = some title) : Titled title := by
  have htrim : Text.trim title ≠ [] := (Change.validate_eq_ok_iff.mp h).1 title htitle
  obtain ⟨c, hc, hnot⟩ := titled_trim htrim
  exact ⟨c, mem_of_mem_trim hc, hnot⟩

/-! ## One turn -/

theorem next_of_failed (h : turn.carryOut b.tasks = (false, b.tasks)) : b.next turn = b := by
  simp [Book.next, h]

theorem next_of_done {tasks : TaskList} (h : turn.carryOut b.tasks = (true, tasks))
    (hdeed : turn.deed? = some d) : b.next turn = ⟨tasks, b.deeds ++ [d]⟩ := by
  simp [Book.next, h, hdeed]

theorem next_of_look (h : (turn.carryOut b.tasks).2 = b.tasks) (hdeed : turn.deed? = none) :
    b.next turn = b := by
  simp only [Book.next, h, hdeed, Option.toList_none, ite_self, List.append_nil]

/-- What a turn can do: nothing, if its order fails or only looks at the tasks, or else the one
thing that its order says. -/
theorem next_cases (b : Book) (turn : Turn) :
    b.next turn = b ∨
    (∃ (draft : Draft) (new : NewTask), draft.validate turn.occasion.now = .ok new ∧
      b.next turn = ⟨b.tasks ++ [new.toTask turn.occasion.id turn.occasion.now],
        b.deeds ++ [.created new turn.occasion]⟩) ∨
    (∃ (id : Uuid) (change : Change) (task : Task), change.validate turn.occasion.now = .ok () ∧
      lookup? id b.tasks = some task ∧
      b.next turn = ⟨modify id (·.apply change turn.occasion.now) b.tasks,
        b.deeds ++ [.updated id change turn.occasion.now]⟩) ∨
    (∃ (id : Uuid) (task : Task), lookup? id b.tasks = some task ∧
      b.next turn = ⟨remove id b.tasks, b.deeds ++ [.deleted id]⟩) := by
  obtain ⟨o, order⟩ := turn
  cases order with
  | create draft =>
    cases hvalid : draft.validate o.now with
    | error v =>
      refine .inl (next_of_failed ?_)
      simp only [Turn.carryOut, create_of_invalid hvalid]
      rfl
    | ok new =>
      refine .inr (.inl ⟨draft, new, hvalid, next_of_done ?_ ?_⟩)
      · simp only [Turn.carryOut, create_of_valid hvalid]
        rfl
      · simp only [Turn.deed?, hvalid]
        rfl
  | update id change =>
    cases hvalid : change.validate o.now with
    | error v =>
      refine .inl (next_of_failed ?_)
      simp only [Turn.carryOut, update_of_invalid hvalid]
      rfl
    | ok _ =>
      cases hfound : lookup? id b.tasks with
      | none =>
        refine .inl (next_of_failed ?_)
        simp only [Turn.carryOut, update_of_missing hvalid hfound]
        rfl
      | some task =>
        refine .inr (.inr (.inl ⟨id, change, task, hvalid, hfound, next_of_done ?_ rfl⟩))
        simp only [Turn.carryOut, update_of_found hvalid hfound]
        rfl
  | delete id =>
    cases hfound : lookup? id b.tasks with
    | none =>
      refine .inl (next_of_failed ?_)
      simp only [Turn.carryOut, delete_of_missing hfound]
      rfl
    | some task =>
      refine .inr (.inr (.inr ⟨id, task, hfound, next_of_done ?_ rfl⟩))
      simp only [Turn.carryOut, delete_of_found hfound]
      rfl
  | get id | list status page limit => exact .inl (next_of_look rfl rfl)

/-! ## The tasks from the deeds -/

theorem ids_map_current (deeds : List Deed) (tasks : TaskList) :
    ids (tasks.map (current deeds)) = tasks.ids := by
  rw [ids, List.map_map]
  rfl

theorem ids_createdTasks_snoc (deeds : List Deed) (d : Deed) :
    (createdTasks (deeds ++ [d])).ids =
      (createdTasks deeds).ids ++ (d.task?.map (·.id)).toList := by
  rw [createdTasks_snoc, ids, List.map_append]
  cases d <;> rfl

/-- The tasks are as the deeds tell. No deed is about a task that was not created. -/
structure Kept (b : Book) : Prop where
  tasks : b.tasks = (liveTasks b.deeds).map (current b.deeds)
  known : ∀ d ∈ b.deeds, d.id ∈ (createdTasks b.deeds).ids
  titled : ∀ task ∈ b.tasks, Titled task.title

namespace Kept

theorem ids_eq (h : Kept b) : b.tasks.ids = (liveTasks b.deeds).ids := by
  rw [h.tasks, ids_map_current]

theorem ids_nodup (h : Kept b) (hfresh : (createdTasks b.deeds).ids.Nodup) :
    b.tasks.ids.Nodup := by
  rw [h.ids_eq]
  exact hfresh.sublist (List.filter_sublist.map _)

theorem mem_created (h : Kept b) {id : Uuid} (hfound : lookup? id b.tasks = some task) :
    id ∈ (createdTasks b.deeds).ids := by
  obtain ⟨htask, rfl⟩ := mem_ids_of_lookup? hfound
  have hlive : task.id ∈ (liveTasks b.deeds).ids := h.ids_eq ▸ List.mem_map_of_mem htask
  exact (mem_ids_liveTasks.mp hlive).1

theorem known_snoc (h : Kept b) (hd : d.id ∈ (createdTasks (b.deeds ++ [d])).ids) :
    ∀ d' ∈ b.deeds ++ [d], d'.id ∈ (createdTasks (b.deeds ++ [d])).ids := by
  intro d' hd'
  obtain hold | hnew := List.mem_append.mp hd'
  · rw [ids_createdTasks_snoc]
    exact List.mem_append_left _ (h.known d' hold)
  · rw [List.mem_singleton.mp hnew]
    exact hd

/-- The new identifier is that of no deed before, so the task is live and as it was created. -/
theorem created (h : Kept b) {draft : Draft} {new : NewTask} {o : Occasion}
    (hvalid : draft.validate o.now = .ok new)
    (hfresh : (createdTasks (b.deeds ++ [.created new o])).ids.Nodup) :
    Kept ⟨b.tasks ++ [new.toTask o.id o.now], b.deeds ++ [.created new o]⟩ := by
  rw [ids_createdTasks_snoc] at hfresh
  have hothers : ∀ d ∈ b.deeds, d.id ≠ o.id := fun d hd hsame =>
    List.disjoint_of_nodup_append hfresh (h.known d hd) (hsame ▸ List.mem_singleton_self _)
  have hcurrent : current (b.deeds ++ [.created new o]) = current b.deeds :=
    funext (current_snoc_of_not_update fun _ => rfl)
  refine ⟨?_, h.known_snoc ?_, fun task htask => ?_⟩
  · simp only
    rw [liveTasks_snoc_created (isDeleted_of_others hothers), List.map_append, hcurrent, ← h.tasks,
      List.map_singleton, current_of_others hothers]
  · rw [ids_createdTasks_snoc]
    exact List.mem_append_right _ (List.mem_singleton_self _)
  · obtain hold | hnew := List.mem_append.mp htask
    · exact h.titled task hold
    · rw [List.mem_singleton.mp hnew]
      exact titled_of_draft hvalid

theorem updated (h : Kept b) {id : Uuid} {change : Change} {now : Moment}
    (hvalid : change.validate now = .ok ()) (hfound : lookup? id b.tasks = some task)
    (hfresh : (createdTasks b.deeds).ids.Nodup) :
    Kept ⟨modify id (·.apply change now) b.tasks, b.deeds ++ [.updated id change now]⟩ := by
  rw [modify_eq_map (h.ids_nodup hfresh)]
  refine ⟨?_, h.known_snoc ?_, fun task' htask' => ?_⟩
  · simp only
    rw [liveTasks_snoc_updated, h.tasks, List.map_map]
    exact List.map_congr_left fun task _ => (current_snoc_updated b.deeds id change now task).symm
  · rw [ids_createdTasks_snoc]
    exact List.mem_append_left _ (h.mem_created hfound)
  · obtain ⟨old, hold, rfl⟩ := List.mem_map.mp htask'
    split
    · cases htitle : change.title with
      | none => simpa [Task.apply, htitle] using h.titled old hold
      | some title => simpa [Task.apply, htitle] using titled_of_change hvalid htitle
    · exact h.titled old hold

theorem deleted (h : Kept b) {id : Uuid} (hfound : lookup? id b.tasks = some task)
    (hfresh : (createdTasks b.deeds).ids.Nodup) :
    Kept ⟨remove id b.tasks, b.deeds ++ [.deleted id]⟩ := by
  have hcurrent : current (b.deeds ++ [.deleted id]) = current b.deeds :=
    funext (current_snoc_of_not_update fun _ => rfl)
  rw [remove_eq_filter (h.ids_nodup hfresh)]
  refine ⟨?_, h.known_snoc ?_, fun task' htask' => h.titled task' (List.mem_of_mem_filter htask')⟩
  · simp only
    rw [liveTasks_snoc_deleted, hcurrent, h.tasks, List.filter_map]
    rfl
  · rw [ids_createdTasks_snoc]
    exact List.mem_append_left _ (h.mem_created hfound)

end Kept

theorem deeds_next (b : Book) (turn : Turn) : ∃ done, (b.next turn).deeds = b.deeds ++ done :=
  ⟨_, rfl⟩

theorem fresh_of_next (hfresh : (createdTasks (b.next turn).deeds).ids.Nodup) :
    (createdTasks b.deeds).ids.Nodup := by
  obtain ⟨done, hdeeds⟩ := deeds_next b turn
  rw [hdeeds, createdTasks, List.filterMap_append, ids, List.map_append] at hfresh
  exact hfresh.of_append_left

theorem Kept.next (h : Kept b) (turn : Turn)
    (hfresh : (createdTasks (b.next turn).deeds).ids.Nodup) : Kept (b.next turn) := by
  have hbefore := fresh_of_next hfresh
  obtain hsame | ⟨draft, new, hvalid, hnext⟩ | ⟨id, change, task, hvalid, hfound, hnext⟩ |
    ⟨id, task, hfound, hnext⟩ := next_cases b turn
  · rwa [hsame]
  · rw [hnext] at hfresh ⊢
    exact h.created hvalid hfresh
  · rw [hnext]
    exact h.updated hvalid hfound hbefore
  · rw [hnext]
    exact h.deleted hfound hbefore

theorem kept_bookAfter (turns : List Turn)
    (hfresh : (createdTasks (bookAfter turns).deeds).ids.Nodup) : Kept (bookAfter turns) := by
  -- On the last turn: what is fresh after it was fresh before it.
  induction turns using List.reverseRecOn with
  | nil => exact ⟨rfl, by simp [bookAfter], by simp [bookAfter]⟩
  | append_singleton turns turn ih =>
    rw [bookAfter, List.foldl_concat] at hfresh ⊢
    exact (ih (fresh_of_next hfresh)).next turn hfresh

/-! ## What the desk answers -/

/-- What is answered about a task that is there. -/
structure Present (tasks : TaskList) (task : Task) : Prop where
  get : Desk.get repository task.id tasks = .ok task
  update : ∀ (o : Occasion) (change : Change), change.validate o.now = .ok () →
    (Desk.update repository o task.id change tasks).1 = .ok (task.apply change o.now)
  delete : (Desk.delete repository task.id tasks).1 = .ok ()

/-- What is answered where there is no such task. A change that breaks a rule is refused for that,
before the task is looked for. -/
structure Absent (tasks : TaskList) (id : Uuid) : Prop where
  get : Desk.get repository id tasks = .error (.domain .taskNotFound)
  update : ∀ (o : Occasion) (change : Change), change.validate o.now = .ok () →
    Desk.update repository o id change tasks = (.error (.domain .taskNotFound), tasks)
  refused : ∀ (o : Occasion) (change : Change) (v : Violation),
    change.validate o.now = .error v →
      Desk.update repository o id change tasks = (.error (.domain (.violation v)), tasks)
  delete : Desk.delete repository id tasks = (.error (.domain .taskNotFound), tasks)

/-- The pages that are listed one after another, until all tasks are counted, are all tasks. -/
def Listed (tasks all : TaskList) : Prop :=
  ∀ (limit : Option Nat) (count : Nat), all.length ≤ count * effectiveLimit limit →
    ∃ pages : Nat → Page,
      (∀ i, Desk.list repository none (some (i + 1)) limit tasks = .ok (pages i) ∧
        (pages i).total = all.length) ∧
      ((List.range count).flatMap fun i => (pages i).tasks) = all

theorem present_of_mem {tasks : TaskList} (hids : tasks.ids.Nodup) (h : task ∈ tasks) :
    Present tasks task := by
  have hfound : lookup? task.id tasks = some task := (lookup?_eq_some_iff hids).mpr ⟨h, rfl⟩
  refine ⟨get_of_found hfound, fun o change hvalid => ?_, ?_⟩
  · rw [update_of_found hvalid hfound]
  · rw [delete_of_found hfound]

theorem absent_of_not_mem {tasks : TaskList} {id : Uuid} (h : id ∉ tasks.ids) :
    Absent tasks id := by
  have hmissing : lookup? id tasks = none := lookup?_eq_none_iff.mpr h
  exact ⟨get_of_missing hmissing, fun o change hvalid => update_of_missing hvalid hmissing,
    fun o change v hinvalid => update_of_invalid hinvalid, delete_of_missing hmissing⟩

theorem listed_self (tasks : TaskList) : Listed tasks tasks := by
  intro limit count hall
  refine ⟨_, fun i => ⟨list_of_all (some (i + 1)) limit tasks, rfl⟩, ?_⟩
  have hpage : ∀ i, effectivePage (some (i + 1)) - 1 = i := by simp [effectivePage, Option.filter]
  simp only [hpage]
  exact flatMap_pages hall

/-- After any turns, of which no two create a task with the same identifier, the tasks are those
that were created and not deleted, in the order in which they were created, with the values that
the updates have given them. The desk answers about exactly these tasks, and none of them has a
blank title. A draft that follows the rules is always made into a task. -/
theorem desk_follows_deeds (turns : List Turn)
    (hfresh : (createdTasks (bookAfter turns).deeds).ids.Nodup) :
    let b := bookAfter turns
    let live := (liveTasks b.deeds).map (current b.deeds)
    b.tasks.ids.Nodup ∧ (∀ task ∈ live, Present b.tasks task) ∧
    (∀ id, id ∉ (createdTasks b.deeds).ids ∨ isDeleted b.deeds id = true → Absent b.tasks id) ∧
    b.tasks = live ∧ Listed b.tasks live ∧ (∀ task ∈ b.tasks, Titled task.title) ∧
    ∀ (o : Occasion) (draft : Draft) (new : NewTask), draft.validate o.now = .ok new →
      (Desk.create repository o draft b.tasks).1 = .ok (new.toTask o.id o.now) := by
  intro b live
  have hkept : Kept b := kept_bookAfter turns hfresh
  have hids : b.tasks.ids.Nodup := hkept.ids_nodup hfresh
  have htasks : b.tasks = live := hkept.tasks
  refine ⟨hids, fun task htask => ?_, fun id hid => ?_, htasks, htasks ▸ listed_self b.tasks,
    hkept.titled, fun o draft new hvalid => ?_⟩
  · exact present_of_mem hids (htasks ▸ htask)
  · refine absent_of_not_mem ?_
    rw [hkept.ids_eq, mem_ids_liveTasks]
    rintro ⟨hcreated, hlive⟩
    rcases hid with hnever | hdeleted
    · exact hnever hcreated
    · rw [hlive] at hdeleted
      exact Bool.noConfusion hdeleted
  · rw [create_of_valid hvalid]

/-- Of two tasks one is deleted, and the other one is given a status and then a title. -/
theorem deeds_of_two_tasks :
    let now (hour : Nat) : Moment := ⟨2024, 5, 1, hour, 0, 0, 0, 0⟩
    let first : Uuid := ⟨List.replicate 32 '1', rfl, by decide⟩
    let second : Uuid := ⟨List.replicate 32 '2', rfl, by decide⟩
    let draft : Draft := ⟨" a ".toList, [], none, some (now 20)⟩
    let turns : List Turn := [
      ⟨⟨now 6, first⟩, .create draft⟩,
      ⟨⟨now 7, second⟩, .create draft⟩,
      ⟨⟨now 8, second⟩, .update first ⟨none, none, some .completed, none⟩⟩,
      ⟨⟨now 9, second⟩, .delete second⟩,
      ⟨⟨now 10, second⟩, .update first ⟨some ['b'], none, none, none⟩⟩]
    let b := bookAfter turns
    (createdTasks b.deeds).ids = [first, second] ∧
    b.tasks = [⟨first, ['b'], [], .completed, now 20, now 6, now 10⟩] ∧
    (∀ task ∈ b.tasks, Present b.tasks task) ∧ Absent b.tasks second := by
  intro now first second draft turns b
  have hcreated : (createdTasks b.deeds).ids = [first, second] := by decide +kernel
  have hfresh : (createdTasks b.deeds).ids.Nodup := by rw [hcreated]; decide
  obtain ⟨-, hpresent, habsent, htasks, -⟩ := desk_follows_deeds turns hfresh
  refine ⟨hcreated, ?_, fun task htask => hpresent task (htasks ▸ htask), ?_⟩
  · rw [htasks]
    decide +kernel
  · exact habsent second (.inr (by decide +kernel))

/-- A blank title is refused for a task that was never created as for one that is there, so the
answer is not that the task was not found. -/
theorem blank_title_of_missing_task :
    let now : Moment := ⟨2024, 5, 1, 6, 0, 0, 0, 0⟩
    let id : Uuid := ⟨List.replicate 31 '0' ++ ['1'], rfl, by decide⟩
    let b := bookAfter []
    let answer := (Desk.update repository ⟨now, id⟩ id ⟨some [' '], none, none, none⟩ b.tasks).1
    id ∉ (createdTasks b.deeds).ids ∧
    answer = .error (.domain (.violation .titleBlank)) ∧
    answer ≠ .error (.domain .taskNotFound) := by
  intro now id b answer
  have hanswer : answer = .error (.domain (.violation .titleBlank)) := by rfl
  refine ⟨by decide, hanswer, ?_⟩
  rw [hanswer]
  simp [DomainError.taskNotFound]

end TaskBoard.Desk
