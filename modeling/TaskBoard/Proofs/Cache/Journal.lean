import Mathlib.Data.List.Induction
import TaskBoard.Proofs.Cache.Memory

/-!
# The calls that made a memory

Which entries are alive is told by the calls made so far: under each key by the last one that says
what is stored there. When expired entries are dropped makes no difference.
-/

namespace TaskBoard.Cache

open Time

/-- The call says what is stored under the key from then on. -/
def Call.touches (key : Key) : Call → Bool
  | .set k _ ttl => k = key && ttl ≠ 0
  | .delete k => k = key
  | .clear => true
  | .get _ | .keysMatching _ | .ping => false

/-- A call, and when it was made. -/
structure Made where
  time : Instant
  call : Call
deriving DecidableEq

/-- The entry is the one that the call stored. -/
def Made.Puts (c : Made) (e : Entry) : Prop :=
  ∃ ttl, ttl ≠ 0 ∧ c.call = .set e.key e.value ttl ∧ e.deadline = Memory.deadline c.time ttl

/-- The last call that says what is stored under the key. -/
def latest (key : Key) (journal : List Made) : Option Made :=
  (journal.filter (·.call.touches key)).getLast?

variable {now : Instant} {m : Memory} {e : Entry} {c : Made} {key : Key} {journal : List Made}

theorem Made.Puts.touches (h : c.Puts e) : c.call.touches e.key = true := by
  obtain ⟨ttl, httl, hc, -⟩ := h
  simp [hc, Call.touches, httl]

theorem latest_snoc (key : Key) (journal : List Made) (c : Made) :
    latest key (journal ++ [c]) =
      if c.call.touches key = true then some c else latest key journal := by
  unfold latest
  rw [List.filter_append]
  cases h : c.call.touches key <;> simp [h]

/-- What happened after a moment overrules what happened before it. -/
theorem latest_append (key : Key) (earlier later : List Made) :
    latest key (earlier ++ later) = (latest key later).or (latest key earlier) := by
  unfold latest
  rw [List.filter_append, List.getLast?_append]

theorem latest_eq_none_iff :
    latest key journal = none ↔ ∀ c ∈ journal, c.call.touches key = false := by
  simp [latest]

theorem latest_eq_some (h : latest key journal = some c) :
    c ∈ journal ∧ c.call.touches key = true :=
  List.mem_filter.mp (List.mem_of_getLast? h)

namespace Memory

/-! ## One call -/

theorem store_get (now : Instant) (key : Key) (m : Memory) :
    store now (.get key) m =
      (match lookup? now key m with
        | some e => .ok e.value
        | none => .error .notFound, m) := by
  simp only [store]
  cases lookup? now key m <;> rfl

/-- After a call there live the entries whose keys it does not touch, and the entry that it
stores. -/
theorem mem_live_call (hle : c.time ≤ now) :
    e ∈ live now (store c.time c.call m).2 ↔
      (e ∈ live now m ∧ c.call.touches e.key = false) ∨ (c.Puts e ∧ isLive now e = true) := by
  obtain ⟨time, call⟩ := c
  cases call with
  | get key => simp [store_get, Call.touches, Made.Puts]
  | set key value ttl =>
    by_cases httl : ttl = 0
    · simp [store, httl, Call.touches, Made.Puts]
    · simp only [store, httl, if_false]
      rw [mem_live_put hle]
      constructor
      · rintro (⟨he, hkey⟩ | ⟨rfl, hlive⟩)
        · exact Or.inl ⟨he, by simp [Call.touches, Ne.symm hkey]⟩
        · exact Or.inr ⟨⟨ttl, httl, rfl, rfl⟩, hlive⟩
      · rintro (⟨he, hkey⟩ | ⟨⟨ttl', -, hcall, hdeadline⟩, hlive⟩)
        · exact Or.inl ⟨he, fun h => by simp [Call.touches, h, httl] at hkey⟩
        · cases hcall
          exact Or.inr ⟨by cases e; simp_all, hlive⟩
  | keysMatching pattern => simp [store, Call.touches, Made.Puts]
  | delete key =>
    simp only [store, remove]
    rw [mem_live_filter]
    simp [Call.touches, Made.Puts, Ne, eq_comm (a := key)]
  | clear => simp [store, live, Call.touches, Made.Puts]
  | ping => simp [store, Call.touches, Made.Puts]

theorem distinct_call (h : m.Distinct) (now : Instant) (c : Call) :
    (store now c m).2.Distinct := by
  cases c with
  | get key => rwa [store_get]
  | set key value ttl =>
    unfold store
    by_cases httl : ttl = 0
    · simpa [httl] using h
    · simpa [httl] using h.put
  | keysMatching pattern | ping => exact h
  | delete key => exact h.filter _
  | clear => exact distinct_nil

/-! ## All calls -/

def afterCalls (m : Memory) (journal : List Made) : Memory :=
  journal.foldl (fun m c => (store c.time c.call m).2) m

theorem afterCalls_snoc (m : Memory) (journal : List Made) (c : Made) :
    afterCalls m (journal ++ [c]) = (store c.time c.call (afterCalls m journal)).2 := by
  simp [afterCalls]

/-- The live entries are those that the last calls about their keys stored, and those that were
there from the first and that no call has been about. -/
theorem mem_live_afterCalls (h : ∀ c ∈ journal, c.time ≤ now) :
    e ∈ live now (afterCalls m journal) ↔
      (match latest e.key journal with
        | some c => c.Puts e
        | none => e ∈ m) ∧ isLive now e = true := by
  -- The last call either says what is stored under the key or leaves that to those before it.
  induction journal using List.reverseRecOn with
  | nil => exact mem_live_iff
  | append_singleton journal c ih =>
    rw [List.forall_mem_append, List.forall_mem_singleton] at h
    rw [afterCalls_snoc, mem_live_call h.2, ih h.1, latest_snoc]
    cases htouch : c.call.touches e.key with
    | true => simp
    | false =>
      have hputs : ¬ c.Puts e := fun hp => by simp [hp.touches] at htouch
      simp [hputs]

theorem distinct_afterCalls (h : m.Distinct) (journal : List Made) :
    (afterCalls m journal).Distinct := by
  induction journal using List.reverseRecOn with
  | nil => exact h
  | append_singleton journal c ih =>
    rw [afterCalls_snoc]
    exact distinct_call ih c.time c.call

end Memory

end TaskBoard.Cache
