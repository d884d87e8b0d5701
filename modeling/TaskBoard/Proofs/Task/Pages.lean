import Mathlib.Algebra.Order.Floor.Div
import TaskBoard.Proofs.Task.Intake

/-!
# The pages of a list

A list is read in pages of one size. The pages up to the last one make up the list, and every page
after it is empty.
-/

namespace TaskBoard

open TaskList

namespace Desk

/-! ## What is asked for -/

theorem effectivePage_succ (i : Nat) : effectivePage (some (i + 1)) = i + 1 := by
  simp [effectivePage, Option.filter]

theorem effectivePage_le {p bound : Nat} (hp : p ≤ bound) (hbound : 1 ≤ bound) :
    effectivePage (some p) ≤ bound := by
  cases p with
  | zero => exact hbound
  | succ i => rwa [effectivePage_succ]

theorem effectiveLimit_pos (limit : Option Nat) : 0 < effectiveLimit limit := by
  unfold effectiveLimit
  cases limit with
  | none => decide
  | some n =>
    by_cases h : 1 ≤ n
    · simp [Option.filter, h, maxLimit]
      omega
    · simp [Option.filter, h, maxLimit, defaultLimit]

theorem effectiveLimit_le (limit : Option Nat) : effectiveLimit limit ≤ maxLimit :=
  Nat.min_le_right _ _

theorem list_eq_page (status : Option Status) (page limit : Option Nat) (tasks : TaskList) :
    list repository status page limit tasks =
      .ok (TaskList.page ⟨status, effectivePage page, effectiveLimit limit⟩ tasks) := rfl

end Desk

namespace TaskList

open Desk

variable {status : Option Status} {limit : Nat} {tasks : TaskList}

theorem withStatus_eq_filter (status : Option Status) (tasks : TaskList) :
    withStatus status tasks =
      tasks.filter fun task => status = none ∨ status = some task.status := by
  unfold withStatus
  apply List.filter_congr
  intro task _
  cases status <;> simp

/-! ## One page -/

theorem page_tasks_length_le (filter : ListFilter) (tasks : TaskList) :
    (page filter tasks).tasks.length ≤ filter.limit :=
  List.length_take_le _ _

theorem page_tasks_succ (status : Option Status) (limit i : Nat) (tasks : TaskList) :
    (page ⟨status, effectivePage (some (i + 1)), limit⟩ tasks).tasks =
      ((withStatus status tasks).drop (i * limit)).take limit := by
  rw [effectivePage_succ]
  rfl

theorem page_tasks_beyond {p : Nat} (hlimit : 0 < limit)
    (hp : (withStatus status tasks).length ⌈/⌉ limit < p) :
    (page ⟨status, effectivePage (some p), limit⟩ tasks).tasks = [] := by
  obtain ⟨i, rfl⟩ := Nat.exists_eq_add_one.mpr (Nat.zero_lt_of_lt hp)
  have hend : (withStatus status tasks).length ≤ limit * i :=
    (ceilDiv_le_iff_le_mul hlimit).mp (Nat.le_of_lt_succ hp)
  rw [page_tasks_succ, List.drop_eq_nil_of_le (by rwa [Nat.mul_comm]), List.take_nil]

/-! ## All pages -/

theorem flatMap_page_tasks (status : Option Status) (hlimit : 0 < limit) (tasks : TaskList) :
    ((List.range ((withStatus status tasks).length ⌈/⌉ limit)).flatMap fun i =>
      (page ⟨status, effectivePage (some (i + 1)), limit⟩ tasks).tasks) =
        withStatus status tasks := by
  have hcover : (withStatus status tasks).length ≤
      (withStatus status tasks).length ⌈/⌉ limit * limit := by
    rw [Nat.mul_comm]
    exact (ceilDiv_le_iff_le_mul hlimit).mp (Nat.le_refl _)
  simp only [page_tasks_succ]
  exact flatMap_pages hcover

end TaskList

namespace Desk

/-- For any list, status and limit there is a size between 1 and 100 in which the list is read. Page
1 to the last page, one after the other, are the tasks that pass the filter, each once and in the
order of the list, which is that of creation if the list is in it. Every page tells how many they
are, and has no more tasks than its size; a page after the last has none. Page 0 and no page are
page 1. The position at which a page begins fits in 64 bits for every page number of 32 bits. -/
theorem pages_partition (tasks : TaskList) (status : Option Status) (limit : Option Nat) :
    let found := tasks.filter fun task => status = none ∨ status = some task.status
    let size := effectiveLimit limit
    let last := found.length ⌈/⌉ size
    let read := fun page => list repository status page limit tasks
    ∃ page : Nat → Page,
      (∀ p, read (some p) = .ok (page p)) ∧ read none = .ok (page 1) ∧ page 0 = page 1 ∧
      ((List.range last).flatMap fun i => (page (i + 1)).tasks) = found ∧
      (InOrder tasks → InOrder ((List.range last).flatMap fun i => (page (i + 1)).tasks)) ∧
      (∀ p, (page p).total = found.length ∧ (page p).tasks.length ≤ size) ∧
      (∀ p, last < p → (page p).tasks = []) ∧
      0 < size ∧ size ≤ 100 ∧
      ∀ p ≤ Text.maxU32, (effectivePage (some p) - 1) * size ≤ Text.maxU64 := by
  intro found size last read
  have hpos : 0 < size := effectiveLimit_pos limit
  have hsize : size ≤ 100 := effectiveLimit_le limit
  have hfound : withStatus status tasks = found := withStatus_eq_filter status tasks
  have hall := flatMap_page_tasks status hpos tasks
  simp only [hfound] at hall
  refine ⟨fun p => TaskList.page ⟨status, effectivePage (some p), size⟩ tasks,
    fun p => list_eq_page status (some p) limit tasks, list_eq_page status none limit tasks, rfl,
    hall, fun horder => ?_, fun p => ⟨congrArg List.length hfound, ?_⟩, fun p hp => ?_, hpos,
    hsize, fun p hp => ?_⟩
  · rw [hall]
    exact horder.sublist List.filter_sublist
  · exact page_tasks_length_le _ tasks
  · exact page_tasks_beyond hpos (hfound ▸ hp)
  · have hpage : effectivePage (some p) ≤ Text.maxU32 := effectivePage_le hp (by decide)
    have hproduct : (effectivePage (some p) - 1) * size ≤ Text.maxU32 * 100 :=
      Nat.mul_le_mul (Nat.le_trans (Nat.sub_le _ 1) hpage) hsize
    exact Nat.le_trans hproduct (by decide)

end Desk

end TaskBoard
