import TaskBoard.Cache.Overlay
import TaskBoard.Proofs.Cache.Memory
import TaskBoard.Proofs.Cache.Program

/-!
# Invalidation of the store in memory

Keys are removed pattern by pattern, each key once. When the last pattern has been worked off, no
live key that any of them covers is left, and every other entry is as it was.
-/

namespace TaskBoard.Cache

open Time

namespace Memory

def without (removed : List Key) (m : Memory) : Memory := m.filter fun e => e.key ∉ removed

theorem mem_keys_without {now : Instant} {removed : List Key} {m : Memory} {k : Key} :
    k ∈ keys now (m.without removed) ↔ k ∈ keys now m ∧ k ∉ removed := by
  simp only [mem_keys_iff, without, mem_live_filter, decide_eq_true_eq]
  constructor
  · rintro ⟨e, ⟨he, hr⟩, rfl⟩
    exact ⟨⟨e, he, rfl⟩, hr⟩
  · rintro ⟨⟨e, he, rfl⟩, hr⟩
    exact ⟨e, ⟨he, hr⟩, rfl⟩

theorem remove_without {key : Key} {removed : List Key} {m : Memory} :
    remove key (m.without removed) = m.without (removed ++ [key]) := by
  unfold remove without
  rw [List.filter_filter]
  congr 1
  funext e
  simp [and_comm]

end Memory

/-! ## The progress of a sweep -/

variable {now : Instant} {m₀ : Memory} {gone : Key → Prop} {sweep : Sweep} {m : Memory}

/-- The sweep has removed exactly these keys from the memory that it started on. -/
structure Swept (m₀ : Memory) (gone : Key → Prop) (progress : Sweep × Memory) : Prop where
  memory : progress.2 = m₀.without progress.1.removed
  removed : ∀ k, k ∈ progress.1.removed ↔ gone k

theorem Swept.congr {progress : Sweep × Memory} {gone' : Key → Prop}
    (h : Swept m₀ gone progress) (hgone : ∀ k, gone k ↔ gone' k) : Swept m₀ gone' progress :=
  ⟨h.memory, fun k => (h.removed k).trans (hgone k)⟩

theorem swept_start (m : Memory) : Swept m (fun _ => False) ({}, m) :=
  ⟨by simp [Memory.without], by simp⟩

theorem swept_dropKey (h : Swept m₀ gone (sweep, m)) (key : Key) :
    Swept m₀ (fun k => gone k ∨ k = key) ((dropKey sweep key).run (Memory.store now) m) := by
  unfold dropKey
  split
  · next hc =>
    have hkey : key ∈ sweep.removed := by simpa using hc
    refine h.congr fun k => ⟨Or.inl, ?_⟩
    rintro (hk | rfl)
    · exact hk
    · exact (h.removed k).mp hkey
  · obtain rfl : m = m₀.without sweep.removed := h.memory
    refine ⟨Memory.remove_without, fun k => ?_⟩
    exact List.mem_append.trans (or_congr (h.removed k) List.mem_singleton)

theorem swept_dropKeys (h : Swept m₀ gone (sweep, m)) (keys : List Key) :
    Swept m₀ (fun k => gone k ∨ k ∈ keys) ((dropKeys sweep keys).run (Memory.store now) m) := by
  induction keys generalizing gone sweep m with
  | nil => exact h.congr fun k => by simp
  | cons key keys ih =>
    rw [dropKeys, Program.run_bind]
    exact (ih (swept_dropKey h key)).congr fun k => by rw [List.mem_cons, or_assoc]

theorem swept_dropMatching (h : Swept m₀ gone (sweep, m)) (pattern : Pattern) :
    Swept m₀ (fun k => gone k ∨ (k ∈ Memory.keys now m₀ ∧ pattern.covers k = true))
      ((dropMatching sweep pattern).run (Memory.store now) m) := by
  refine (swept_dropKeys h ((Memory.keys now m).filter pattern.covers)).congr fun k => ?_
  -- Keys that went earlier are not listed again.
  obtain rfl : m = m₀.without sweep.removed := h.memory
  rw [List.mem_filter, Memory.mem_keys_without, h.removed k]
  tauto

theorem swept_sweepAll (h : Swept m₀ gone (sweep, m)) (patterns : List Pattern) :
    Swept m₀ (fun k => gone k ∨ (k ∈ Memory.keys now m₀ ∧ ∃ p ∈ patterns, p.covers k = true))
      ((sweepAll sweep patterns).run (Memory.store now) m) := by
  induction patterns generalizing gone sweep m with
  | nil => exact h.congr fun k => by simp
  | cons pattern patterns ih =>
    rw [sweepAll, Program.run_bind]
    refine (ih (swept_dropMatching h pattern)).congr fun k => ?_
    simp only [List.exists_mem_cons_iff]
    tauto

theorem swept_invalidate (now : Instant) (m : Memory) (patterns : List Pattern) :
    Swept m (fun k => k ∈ Memory.keys now m ∧ ∃ p ∈ patterns, p.covers k = true)
      ((invalidate patterns).run (Memory.store now) m) :=
  (swept_sweepAll (swept_start m) patterns).congr fun k => by simp

/-- After an invalidation the live entries are those that no pattern covers. -/
theorem mem_live_invalidate {later : Instant} (hle : now ≤ later) (patterns : List Pattern)
    {e : Entry} :
    e ∈ Memory.live later ((invalidate patterns).run (Memory.store now) m).2 ↔
      e ∈ Memory.live later m ∧ ¬ ∃ p ∈ patterns, p.covers e.key = true := by
  have h := swept_invalidate now m patterns
  rw [h.memory, Memory.without, Memory.mem_live_filter, decide_eq_true_eq, h.removed,
    Memory.mem_keys_iff]
  constructor
  · rintro ⟨he, hno⟩
    exact ⟨he, fun hp => hno ⟨⟨e, ((Memory.mem_live_of_le hle).mp he).1, rfl⟩, hp⟩⟩
  · rintro ⟨he, hno⟩
    exact ⟨he, fun hk => hno hk.2⟩

end TaskBoard.Cache
