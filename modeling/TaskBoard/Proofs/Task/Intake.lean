import Mathlib.Data.List.Induction
import TaskBoard.Proofs.Task.TaskList

/-!
# Creations at the same time

A creation reads the clock, and only then waits for the lock under which it puts its task into the
list. Other creations may come in between. So the list is in the order of arrival, and that is the
order of creation as long as no creation is overtaken by one that read a later time.
-/

namespace TaskBoard

open Time TaskList
open scoped List

/-- A creation that has read the clock. -/
structure Creation where
  new : NewTask
  id : Uuid
  now : Moment

structure Intake where
  clock : Moment
  tasks : TaskList
  /-- All creations so far, in the order in which they read the clock. -/
  creations : List Creation
  /-- The numbers of the creations that wait for the lock. -/
  waiting : List Nat
  /-- The numbers of the creations that had the lock, in that order. -/
  arrived : List Nat

inductive Intake.Move where
  | pass (now : Moment)
  | make (new : NewTask) (id : Uuid)
  | arrive (i : Nat)
  | giveUp (i : Nat)
  | update (id : Uuid) (change : Change)
  | delete (id : Uuid)

namespace TaskList

def InOrder (tasks : TaskList) : Prop :=
  tasks.Pairwise (·.createdAt.instant ≤ ·.createdAt.instant)

instance (tasks : TaskList) : Decidable (InOrder tasks) :=
  inferInstanceAs (Decidable (List.Pairwise _ tasks))

/-- What no update changes. -/
def stamps (tasks : TaskList) : List (Uuid × Moment) :=
  tasks.map fun task => (task.id, task.createdAt)

end TaskList

namespace Intake

/-- An arrival out of turn and a clock that is set back change nothing. -/
def next (s : Intake) : Move → Intake
  | .pass now => if now.isBefore s.clock then s else { s with clock := now }
  | .make new id =>
    { s with
      creations := s.creations ++ [⟨new, id, s.clock⟩]
      waiting := s.waiting ++ [s.creations.length] }
  | .arrive i =>
    match s.creations[i]? with
    | none => s
    | some c =>
      if i ∈ s.waiting then
        { s with
          tasks := (repository.create c.new c.id c.now s.tasks).2
          waiting := s.waiting.erase i
          arrived := s.arrived ++ [i] }
      else s
  | .giveUp i => { s with waiting := s.waiting.erase i }
  | .update id change => { s with tasks := (repository.update id change s.clock s.tasks).2 }
  | .delete id => { s with tasks := (repository.delete id s.tasks).2 }

def after (start : Moment) (moves : List Move) : Intake :=
  moves.foldl next ⟨start, [], [], [], []⟩

def arrivals (s : Intake) : List Creation := s.arrived.filterMap (s.creations[·]?)

/-- The list and every page of it are in the order of creation. -/
def Ordered (s : Intake) : Prop :=
  InOrder s.tasks ∧ ∀ filter, ∃ page, repository.list filter s.tasks = .ok page ∧ InOrder page.tasks

/-- While the creation still waits, the list holds the task of one that read the clock after it, and
a later time. -/
def Overtaken (s : Intake) (i : Nat) : Prop :=
  i ∈ s.waiting ∧ ∃ j ∈ s.arrived, i < j ∧ ∃ c d, s.creations[i]? = some c ∧
    s.creations[j]? = some d ∧ c.now.instant < d.now.instant ∧ (d.id, d.now) ∈ stamps s.tasks

end Intake

/-! ## The order of a list -/

namespace TaskList

variable {id : Uuid} {change : Change} {now : Moment} {tasks tasks' : TaskList} {task : Task}

theorem inOrder_iff_stamps : InOrder tasks ↔
    (stamps tasks).Pairwise (·.2.instant ≤ ·.2.instant) := by
  rw [InOrder, stamps, List.pairwise_map]

theorem InOrder.of_stamps (h : InOrder tasks) (hsub : stamps tasks' <+ stamps tasks) :
    InOrder tasks' :=
  inOrder_iff_stamps.mpr ((inOrder_iff_stamps.mp h).sublist hsub)

theorem inOrder_snoc : InOrder (tasks ++ [task]) ↔
    InOrder tasks ∧ ∀ other ∈ tasks, other.createdAt.instant ≤ task.createdAt.instant := by
  simp [InOrder, List.pairwise_append]

theorem stamps_modify (id : Uuid) (change : Change) (now : Moment) (tasks : TaskList) :
    stamps (modify id (·.apply change now) tasks) = stamps tasks := by
  induction tasks with
  | nil => rfl
  | cons task tasks ih =>
    rw [modify]
    split
    · rfl
    · exact congrArg ((task.id, task.createdAt) :: ·) ih

theorem stamps_update (id : Uuid) (change : Change) (now : Moment) (tasks : TaskList) :
    stamps (repository.update id change now tasks).2 = stamps tasks := by
  cases h : lookup? id tasks with
  | none => simp only [repository, h]
  | some task =>
    simp only [repository, h]
    exact stamps_modify id change now tasks

theorem stamps_delete (id : Uuid) (tasks : TaskList) :
    stamps (repository.delete id tasks).2 <+ stamps tasks := by
  cases h : lookup? id tasks with
  | none => simp only [repository, h]; exact .refl _
  | some task =>
    simp only [repository, h]
    exact (remove_sublist id tasks).map _

end TaskList

/-! ## What a move does -/

namespace Intake

variable {s s' : Intake} {move : Move} {moves : List Move} {start : Moment} {i : Nat}

theorem ordered_iff : s.Ordered ↔ InOrder s.tasks := by
  refine ⟨And.left, fun h => ⟨h, fun filter => ⟨page filter s.tasks, rfl, ?_⟩⟩⟩
  exact h.sublist (page_sublist filter s.tasks)

/-- A creation begins, or one that waits puts its task at the end of the list, or no task comes and
none changes its place. -/
inductive Passes (s : Intake) : Move → Intake → Prop
  | make (new : NewTask) (id : Uuid) : Passes s (.make new id)
    ⟨s.clock, s.tasks, s.creations ++ [⟨new, id, s.clock⟩], s.waiting ++ [s.creations.length],
      s.arrived⟩
  | arrive (i : Nat) (c : Creation) (hi : i ∈ s.waiting) (hc : s.creations[i]? = some c) :
    Passes s (.arrive i)
      ⟨s.clock, s.tasks ++ [c.new.toTask c.id c.now], s.creations, s.waiting.erase i,
        s.arrived ++ [i]⟩
  | quiet (move : Move) (clock : Moment) (tasks : TaskList) (waiting : List Nat)
    (hmove : ∀ i, move = .arrive i → i ∉ s.waiting ∨ s.creations[i]? = none)
    (hclock : s.clock.instant ≤ clock.instant) (htasks : stamps tasks <+ stamps s.tasks)
    (hwaiting : waiting <+ s.waiting) :
    Passes s move ⟨clock, tasks, s.creations, waiting, s.arrived⟩

theorem passes_next (s : Intake) (move : Move) : s.Passes move (s.next move) := by
  have hidle (move : Move)
      (hmove : ∀ i, move = .arrive i → i ∉ s.waiting ∨ s.creations[i]? = none) :
      s.Passes move s := .quiet move _ _ _ hmove (Int.le_refl _) (.refl _) (.refl _)
  cases move with
  | make new id => exact .make new id
  | arrive i =>
    simp only [next]
    split
    · next hnone => exact hidle _ fun i h => by cases h; exact .inr hnone
    · next c hc =>
      split
      · next hi => exact .arrive i c hi hc
      · next hi => exact hidle _ fun i h => by cases h; exact .inl hi
  | pass now =>
    simp only [next]
    split
    · exact hidle _ nofun
    · next h =>
      have hclock : s.clock.instant ≤ now.instant := by simpa [Moment.isBefore] using h
      exact .quiet _ now _ _ nofun hclock (.refl _) (.refl _)
  | giveUp i => exact .quiet _ _ _ _ nofun (Int.le_refl _) (.refl _) List.erase_sublist
  | update id change =>
    refine .quiet _ _ _ _ nofun (Int.le_refl _) ?_ (.refl _)
    rw [stamps_update]
  | delete id => exact .quiet _ _ _ _ nofun (Int.le_refl _) (stamps_delete id s.tasks) (.refl _)

theorem after_snoc (start : Moment) (moves : List Move) (move : Move) :
    after start (moves ++ [move]) = (after start moves).next move := List.foldl_concat ..

/-! ## What every run keeps -/

/-- The readings of the clock go up with the numbers, and the tasks in the list are those of
creations that arrived, in the order of their arrival. -/
structure Kept (s : Intake) : Prop where
  past : ∀ c ∈ s.creations, c.now.instant ≤ s.clock.instant
  readings : s.creations.Pairwise (·.now.instant ≤ ·.now.instant)
  waiting : ∀ i ∈ s.waiting, i < s.creations.length
  arrived : ∀ i ∈ s.arrived, i < s.creations.length
  tasks : stamps s.tasks <+ s.arrivals.map fun c => (c.id, c.now)

theorem Kept.of_passes (h : s.Kept) (hpass : s.Passes move s') : s'.Kept := by
  cases hpass with
  | make new id =>
    constructor
    · rw [List.forall_mem_append, List.forall_mem_singleton]
      exact ⟨h.past, Int.le_refl _⟩
    · simpa [List.pairwise_append] using ⟨h.readings, h.past⟩
    · intro i hi
      rw [List.length_append, List.length_singleton]
      rcases List.mem_append.mp hi with hi | hi
      · exact Nat.lt_succ_of_lt (h.waiting i hi)
      · rw [List.mem_singleton.mp hi]
        exact Nat.lt_succ_self _
    · intro i hi
      rw [List.length_append, List.length_singleton]
      exact Nat.lt_succ_of_lt (h.arrived i hi)
    · have hold : ∀ i ∈ s.arrived,
          (s.creations ++ [⟨new, id, s.clock⟩])[i]? = s.creations[i]? := fun i hi =>
        List.getElem?_append_left (h.arrived i hi)
      rw [arrivals, List.filterMap_congr hold]
      exact h.tasks
  | arrive i c hi hc =>
    refine ⟨h.past, h.readings, fun j hj => h.waiting j (List.mem_of_mem_erase hj), ?_, ?_⟩
    · rw [List.forall_mem_append, List.forall_mem_singleton]
      exact ⟨h.arrived, h.waiting i hi⟩
    · have harrivals : arrivals ⟨s.clock, s.tasks ++ [c.new.toTask c.id c.now], s.creations,
          s.waiting.erase i, s.arrived ++ [i]⟩ = s.arrivals ++ [c] := by
        simp [arrivals, List.filterMap_append, hc]
      rw [harrivals, List.map_append, stamps, List.map_append]
      exact h.tasks.append (.refl _)
  | quiet _ clock tasks waiting _ hclock htasks hwaiting =>
    exact ⟨fun c hc => Int.le_trans (h.past c hc) hclock, h.readings,
      fun i hi => h.waiting i (hwaiting.subset hi), h.arrived, htasks.trans h.tasks⟩

theorem kept_after (start : Moment) (moves : List Move) : (after start moves).Kept := by
  induction moves using List.reverseRecOn with
  | nil => constructor <;> simp [after, stamps]
  | append_singleton moves move ih =>
    rw [after_snoc]
    exact ih.of_passes (passes_next _ move)

theorem Kept.reading_le (h : s.Kept) {j : Nat} {c d : Creation} (hij : i ≤ j)
    (hc : s.creations[i]? = some c) (hd : s.creations[j]? = some d) :
    c.now.instant ≤ d.now.instant := by
  obtain ⟨hi, rfl⟩ := List.getElem?_eq_some_iff.mp hc
  obtain ⟨hj, rfl⟩ := List.getElem?_eq_some_iff.mp hd
  rcases Nat.eq_or_lt_of_le hij with rfl | hlt
  · exact Int.le_refl _
  · exact List.pairwise_iff_getElem.mp h.readings i j hi hj hlt

/-- A task with a later time is that of a creation that read the clock later. -/
theorem Kept.overtaken_iff (h : s.Kept) {c : Creation} (hi : i ∈ s.waiting)
    (hc : s.creations[i]? = some c) :
    s.Overtaken i ↔ ∃ task ∈ s.tasks, c.now.instant < task.createdAt.instant := by
  constructor
  · rintro ⟨-, j, -, -, c', d, hc', -, hlt, hd⟩
    obtain rfl : c = c' := Option.some_inj.mp (hc.symm.trans hc')
    obtain ⟨task, htask, hstamp⟩ := List.mem_map.mp hd
    refine ⟨task, htask, ?_⟩
    rw [(Prod.mk.inj hstamp).2]
    exact hlt
  · rintro ⟨task, htask, hlt⟩
    have hstamp : (task.id, task.createdAt) ∈ stamps s.tasks := List.mem_map_of_mem htask
    obtain ⟨d, hd, heq⟩ := List.mem_map.mp (h.tasks.subset hstamp)
    obtain ⟨j, hj, hdj⟩ := List.mem_filterMap.mp hd
    rw [← heq] at hstamp
    rw [← (Prod.mk.inj heq).2] at hlt
    have hij : i < j := by
      by_contra hle
      exact absurd (h.reading_le (Nat.le_of_not_lt hle) hdj hc) (Int.not_le.mpr hlt)
    exact ⟨hi, j, hj, hij, c, d, hc, hdj, hlt, hstamp⟩

/-- Only the arrival of a creation that is overtaken breaks the order. -/
theorem Kept.inOrder_iff (h : s.Kept) (hpass : s.Passes move s') (horder : InOrder s.tasks) :
    InOrder s'.tasks ↔ ∀ i, move = .arrive i → ¬ s.Overtaken i := by
  cases hpass with
  | make new id => simpa using horder
  | arrive i c hi hc =>
    rw [inOrder_snoc]
    simp [NewTask.toTask, horder, h.overtaken_iff hi hc]
  | quiet _ clock tasks waiting hmove hclock htasks hwaiting =>
    refine iff_of_true (horder.of_stamps htasks) fun i hi hovertaken => ?_
    obtain ⟨hmem, -, -, -, c, -, hc, -⟩ := hovertaken
    rcases hmove i hi with hnot | hnone
    · exact hnot hmem
    · rw [hnone] at hc
      cases hc

/-! ## One creation at a time -/

theorem Passes.arrived_lt_waiting (hpass : s.Passes move s') (hkept : s.Kept)
    (hone : s.waiting.length ≤ 1) (hone' : s'.waiting.length ≤ 1)
    (h : ∀ i ∈ s.waiting, ∀ j ∈ s.arrived, j < i) : ∀ i ∈ s'.waiting, ∀ j ∈ s'.arrived, j < i := by
  cases hpass with
  | make new id =>
    have hnil : s.waiting = [] := by simpa using hone'
    simpa [hnil] using hkept.arrived
  | arrive i c hi hc =>
    have hlength : s.waiting.length = 1 := Nat.le_antisymm hone (List.length_pos_of_mem hi)
    obtain ⟨only, honly⟩ := List.length_eq_one_iff.mp hlength
    obtain rfl : i = only := by simpa [honly] using hi
    simp [honly]
  | quiet _ clock tasks waiting hmove hclock htasks hwaiting =>
    exact fun i hi => h i (hwaiting.subset hi)

/-- While no two creations wait at the same time, those that arrived began before the one that
waits. -/
theorem arrived_lt_waiting
    (hone : ∀ before, before <+: moves → (after start before).waiting.length ≤ 1) :
    ∀ i ∈ (after start moves).waiting, ∀ j ∈ (after start moves).arrived, j < i := by
  induction moves using List.reverseRecOn with
  | nil => simp [after]
  | append_singleton moves move ih =>
    have hbefore := ih fun before hp => hone before (hp.trans (List.prefix_append _ _))
    have hone' := hone _ (List.prefix_refl _)
    rw [after_snoc] at hone' ⊢
    exact (passes_next _ move).arrived_lt_waiting (kept_after start moves)
      (hone moves (List.prefix_append _ _)) hone' hbefore

theorem not_overtaken_of_one
    (hone : ∀ before, before <+: moves → (after start before).waiting.length ≤ 1) :
    ¬ (after start moves).Overtaken i := by
  rintro ⟨hi, j, hj, hij, -⟩
  exact Nat.lt_asymm hij (arrived_lt_waiting hone i hi j hj)

/-! ## Order -/

theorem ordered_iff_not_overtaken (start : Moment) (moves : List Move) :
    (∀ before, before <+: moves → (after start before).Ordered) ↔
      ∀ before i, before ++ [.arrive i] <+: moves → ¬ (after start before).Overtaken i := by
  simp only [ordered_iff]
  constructor
  · intro h before i hbefore
    have horder := h before ((List.prefix_append _ _).trans hbefore)
    have hnext := h _ hbefore
    rw [after_snoc, (kept_after start before).inOrder_iff (passes_next _ _) horder] at hnext
    exact hnext i rfl
  · intro h before hbefore
    induction before using List.reverseRecOn with
    | nil => exact .nil
    | append_singleton before move ih =>
      have horder := ih ((List.prefix_append _ _).trans hbefore)
      rw [after_snoc, (kept_after start before).inOrder_iff (passes_next _ _) horder]
      rintro i rfl
      exact h before i hbefore

/-- The list is always in the order of arrival. It is in the order of creation all along exactly if
no creation arrives after one that overtook it, and so whenever creations come one at a time. -/
theorem ordered_throughout_iff (start : Moment) (moves : List Move) :
    stamps (after start moves).tasks <+ (after start moves).arrivals.map (fun c => (c.id, c.now)) ∧
    ((∀ before, before <+: moves → (after start before).Ordered) ↔
      ∀ before i, before ++ [.arrive i] <+: moves → ¬ (after start before).Overtaken i) ∧
    ((∀ before, before <+: moves → (after start before).waiting.length ≤ 1) →
      ∀ before, before <+: moves → (after start before).Ordered) := by
  refine ⟨(kept_after start moves).tasks, ordered_iff_not_overtaken start moves, fun hone => ?_⟩
  rw [ordered_iff_not_overtaken]
  intro before i hbefore
  exact not_overtaken_of_one fun earlier hp =>
    hone earlier (hp.trans ((List.prefix_append _ _).trans hbefore))

/-- The first creation reads the clock at six and has the lock after the second one, which reads the
clock at seven. -/
theorem second_creation_arrives_first :
    let six : Moment := ⟨2024, 1, 1, 6, 0, 0, 0, 0⟩
    let seven : Moment := ⟨2024, 1, 1, 7, 0, 0, 0, 0⟩
    let due : Moment := ⟨2024, 1, 2, 0, 0, 0, 0, 0⟩
    let one : Uuid := ⟨List.replicate 32 '1', by decide, by decide⟩
    let two : Uuid := ⟨List.replicate 32 '2', by decide, by decide⟩
    let s := after six [.make ⟨"first".toList, [], .pending, due⟩ one, .pass seven,
      .make ⟨"second".toList, [], .pending, due⟩ two, .arrive 1, .arrive 0]
    stamps s.tasks = [(two, seven), (one, six)] ∧ ¬ InOrder s.tasks ∧
      ¬ InOrder (page ⟨none, 1, 10⟩ s.tasks).tasks := by
  decide +kernel

end Intake

end TaskBoard
