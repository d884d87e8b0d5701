import Mathlib.Data.List.Dedup
import Mathlib.Data.Set.Card
import TaskBoard.Proofs.Cache.Journal

/-!
# What the store in memory answers

The store in memory answers from its history: a key has the value that was last stored under it,
unless it has been deleted or cleared since, for less than its time to live. Entries that have
expired stay in the memory until something else is stored, and nobody can tell.
-/

namespace TaskBoard.Cache

open Time

/-! ## Sessions -/

/-- Time passes, or a call is made. -/
inductive Use where
  | pause (d : Duration)
  | call (c : Call)

/-- A memory in use, with the calls made on it so far. -/
structure Session where
  clock : Instant
  memory : Memory
  journal : List Made

namespace Session

def reply (s : Session) (c : Call) : c.Reply := (Memory.store s.clock c s.memory).1

def next (s : Session) : Use → Session
  | .pause d => { s with clock := s.clock + d }
  | .call c =>
    { s with
      memory := (Memory.store s.clock c s.memory).2
      journal := s.journal ++ [⟨s.clock, c⟩] }

def after (s : Session) (uses : List Use) : Session := uses.foldl next s

def opening (start : Instant) : Session := ⟨start, [], []⟩

/-- The keys that a read would find. -/
def found (s : Session) : Set Key := {key | ∃ value, s.reply (.get key) = .ok value}

/-- The memory without its expired entries. -/
def swept (s : Session) : Session := { s with memory := Memory.live s.clock s.memory }

/-- What is true of a session that began with an empty memory. -/
structure Kept (s : Session) : Prop where
  memory : s.memory = Memory.afterCalls [] s.journal
  past : ∀ c ∈ s.journal, c.time ≤ s.clock

variable {s t : Session} {key : Key}

theorem Kept.next (h : s.Kept) (use : Use) : (s.next use).Kept := by
  cases use with
  | pause d => exact ⟨h.memory, fun c hc => Nat.le_trans (h.past c hc) (Nat.le_add_right _ _)⟩
  | call c =>
    refine ⟨?_, ?_⟩
    · simp only [Session.next]
      rw [Memory.afterCalls_snoc, h.memory]
    · simp only [Session.next]
      rw [List.forall_mem_append, List.forall_mem_singleton]
      exact ⟨h.past, Nat.le_refl _⟩

theorem kept_after (start : Instant) (uses : List Use) : ((opening start).after uses).Kept := by
  induction uses using List.reverseRecOn with
  | nil => exact ⟨rfl, by simp [after, opening]⟩
  | append_singleton uses use ih =>
    unfold after
    rw [List.foldl_append]
    exact ih.next use

theorem Kept.distinct (h : s.Kept) : s.memory.Distinct := by
  rw [h.memory]
  exact Memory.distinct_afterCalls Memory.distinct_nil s.journal

/-! ## Reads -/

theorem reply_get (s : Session) (key : Key) :
    s.reply (.get key) = match Memory.lookup? s.clock key s.memory with
      | some e => .ok e.value
      | none => .error .notFound :=
  congrArg Prod.fst (Memory.store_get s.clock key s.memory)

/-- What was stored at `time` has not outlived its time to live. A deadline past the end of the
clock is never reached. -/
def Fresh (s : Session) (time : Instant) (ttl : Duration) : Prop :=
  s.clock - time < ttl ∨ Memory.horizon ≤ time + ttl

theorem isLive_iff_fresh {time : Instant} {ttl : Duration} {e : Entry} (hle : time ≤ s.clock)
    (h : e.deadline = Memory.deadline time ttl) :
    Memory.isLive s.clock e = true ↔ s.Fresh time ttl := by
  unfold Memory.isLive Fresh
  rw [h, Memory.deadline]
  by_cases hd : time + ttl < Memory.horizon
  · have hno : ¬ Memory.horizon ≤ time + ttl := Nat.not_le.mpr hd
    simp only [hd, if_true, decide_eq_true_eq, hno, or_false]
    exact (Nat.sub_lt_iff_lt_add' hle).symm
  · simp [hd, Nat.not_lt.mp hd]

theorem Kept.mem_live_iff (h : s.Kept) {e : Entry} :
    e ∈ Memory.live s.clock s.memory ↔
      ∃ time ttl, latest e.key s.journal = some ⟨time, .set e.key e.value ttl⟩ ∧
        e.deadline = Memory.deadline time ttl ∧ s.Fresh time ttl := by
  rw [h.memory, Memory.mem_live_afterCalls h.past]
  constructor
  · rintro ⟨hput, hlive⟩
    cases hlatest : latest e.key s.journal with
    | none => simp [hlatest] at hput
    | some c =>
      rw [hlatest] at hput
      obtain ⟨ttl, -, hcall, hdeadline⟩ := hput
      have hle : c.time ≤ s.clock := h.past c (latest_eq_some hlatest).1
      exact ⟨c.time, ttl, by rw [← hcall], hdeadline, (isLive_iff_fresh hle hdeadline).mp hlive⟩
  · rintro ⟨time, ttl, hlatest, hdeadline, hfresh⟩
    obtain ⟨hmem, htouches⟩ := latest_eq_some hlatest
    have httl : ttl ≠ 0 := by simpa [Call.touches] using htouches
    rw [hlatest]
    exact ⟨⟨ttl, httl, rfl, hdeadline⟩, (isLive_iff_fresh (h.past _ hmem) hdeadline).mpr hfresh⟩

theorem Kept.get_eq_ok_iff (h : s.Kept) (key : Key) (value : Bytes) :
    s.reply (.get key) = .ok value ↔
      ∃ time ttl, latest key s.journal = some ⟨time, .set key value ttl⟩ ∧ s.Fresh time ttl := by
  rw [reply_get]
  constructor
  · intro hget
    cases hlookup : Memory.lookup? s.clock key s.memory with
    | none => simp [hlookup] at hget
    | some e =>
      obtain ⟨hlive, rfl⟩ := (Memory.lookup?_eq_some_iff h.distinct).mp hlookup
      obtain rfl : e.value = value := by simpa [hlookup] using hget
      obtain ⟨time, ttl, hlatest, -, hfresh⟩ := h.mem_live_iff.mp hlive
      exact ⟨time, ttl, hlatest, hfresh⟩
  · rintro ⟨time, ttl, hlatest, hfresh⟩
    -- No other entry with this key is alive, so the lookup finds this one.
    have hlive : ⟨key, value, Memory.deadline time ttl⟩ ∈ Memory.live s.clock s.memory :=
      h.mem_live_iff.mpr ⟨time, ttl, hlatest, rfl, hfresh⟩
    rw [(Memory.lookup?_eq_some_iff h.distinct).mpr ⟨hlive, rfl⟩]

theorem get_eq_not_found (hno : key ∉ s.found) : s.reply (.get key) = .error .notFound := by
  rw [reply_get]
  cases hlookup : Memory.lookup? s.clock key s.memory with
  | none => rfl
  | some e => exact absurd ⟨e.value, by rw [reply_get, hlookup]⟩ hno

/-! ## Keys -/

theorem mem_keys_iff_found (s : Session) (key : Key) :
    key ∈ Memory.keys s.clock s.memory ↔ key ∈ s.found := by
  rw [Memory.mem_keys_iff]
  constructor
  · rintro ⟨e, he, hkey⟩
    cases hlookup : Memory.lookup? s.clock key s.memory with
    | none => exact absurd hkey (Memory.lookup?_eq_none_iff.mp hlookup e he)
    | some e => exact ⟨e.value, by rw [reply_get, hlookup]⟩
  · rintro ⟨value, hget⟩
    by_contra hno
    have hnone : Memory.lookup? s.clock key s.memory = none :=
      Memory.lookup?_eq_none_iff.mpr fun e he hkey => hno ⟨e, he, hkey⟩
    simp [reply_get, hnone] at hget

theorem Kept.keys_nodup (h : s.Kept) : (Memory.keys s.clock s.memory).Nodup :=
  h.distinct.filter _

theorem Kept.count_eq (h : s.Kept) :
    Memory.count s.clock s.memory = s.found.ncard := by
  have hfound : s.found = ((Memory.keys s.clock s.memory).toFinset : Set Key) := by
    ext key
    rw [List.coe_toFinset]
    exact (mem_keys_iff_found s key).symm
  rw [hfound, Set.ncard_coe_finset, List.toFinset_card_of_nodup h.keys_nodup]
  rfl

theorem Kept.reply_keysMatching (h : s.Kept) (pattern : Pattern) :
    ∃ keys, s.reply (.keysMatching pattern) = .ok keys ∧ keys.Nodup ∧
      ∀ key, key ∈ keys ↔ key ∈ s.found ∧ pattern.covers key = true := by
  refine ⟨_, rfl, h.keys_nodup.filter _, fun key => ?_⟩
  rw [List.mem_filter, mem_keys_iff_found]

/-! ## What cannot be told apart -/

/-- Whatever is done from now on, both answer the same. -/
def Alike (s t : Session) : Prop :=
  ∀ later, (∀ c, (s.after later).reply c = (t.after later).reply c) ∧
    Memory.count (s.after later).clock (s.after later).memory =
      Memory.count (t.after later).clock (t.after later).memory

/-- From now on the same entries are alive in both. -/
structure SameLive (s t : Session) : Prop where
  clock : s.clock = t.clock
  live : ∀ now, s.clock ≤ now → Memory.live now s.memory = Memory.live now t.memory

theorem SameLive.lookup (h : SameLive s t) (key : Key) :
    Memory.lookup? s.clock key s.memory = Memory.lookup? t.clock key t.memory := by
  unfold Memory.lookup?
  rw [h.live _ (Nat.le_refl _), h.clock]

theorem SameLive.keys (h : SameLive s t) :
    Memory.keys s.clock s.memory = Memory.keys t.clock t.memory := by
  unfold Memory.keys
  rw [h.live _ (Nat.le_refl _), h.clock]

theorem SameLive.reply (h : SameLive s t) (c : Call) : s.reply c = t.reply c := by
  cases c with
  | get key => rw [reply_get, reply_get, h.lookup]
  | set key value ttl => by_cases httl : ttl = 0 <;> simp [Session.reply, Memory.store, httl]
  | keysMatching pattern =>
    unfold Session.reply Memory.store
    simp only [h.keys]
  | delete key | clear | ping => rfl

theorem SameLive.next (h : SameLive s t) (use : Use) : SameLive (s.next use) (t.next use) := by
  cases use with
  | pause d =>
    refine ⟨congrArg (· + d) h.clock, fun now hle => h.live now ?_⟩
    exact Nat.le_trans (Nat.le_add_right _ _) hle
  | call c =>
    refine ⟨h.clock, fun now hle => ?_⟩
    simp only [Session.next]
    cases c with
    | get key =>
      rw [Memory.store_get, Memory.store_get]
      exact h.live now hle
    | set key value ttl =>
      by_cases httl : ttl = 0
      · simpa [Memory.store, httl] using h.live now hle
      · -- Both are swept first, and what the sweep leaves is the same.
        simp only [Memory.store, httl, if_false, Memory.put]
        rw [h.live _ (Nat.le_refl _), h.clock]
    | keysMatching pattern | ping => exact h.live now hle
    | delete key =>
      simp only [Memory.store, Memory.remove]
      rw [Memory.live_filter, Memory.live_filter, h.live now hle]
    | clear => rfl

theorem SameLive.alike (h : SameLive s t) : s.Alike t := by
  intro later
  induction later generalizing s t with
  | nil => exact ⟨h.reply, congrArg List.length h.keys⟩
  | cons use later ih => exact ih (h.next use)

theorem swept_alike (s : Session) : s.swept.Alike s :=
  SameLive.alike ⟨rfl, fun _ hle => Memory.live_live hle⟩

theorem reply_set_zero (s : Session) (key : Key) (value : Bytes) :
    s.reply (.set key value 0) = .error (.invalidTtl 0) := rfl

theorem set_zero_alike (s : Session) (key : Key) (value : Bytes) :
    (s.next (.call (.set key value 0))).Alike s :=
  SameLive.alike ⟨rfl, fun _ _ => rfl⟩

/-- After any calls, with any time between them: a read finds what the last call about its key
stored, if that is fresh; a listing gives, once each, the keys that a read would find and that its
pattern covers; the count is the number of keys that a read would find; a call that stores with no
time to live is refused; and neither that call nor dropping the expired entries at any moment makes
a difference to any later answer. -/
theorem answers_from_latest_calls (start : Instant) (uses : List Use) :
    let s := (opening start).after uses
    (∀ key value, s.reply (.get key) = .ok value ↔
      ∃ time ttl, latest key s.journal = some ⟨time, .set key value ttl⟩ ∧ s.Fresh time ttl) ∧
    (∀ key, key ∉ s.found → s.reply (.get key) = .error .notFound) ∧
    (∀ pattern, ∃ keys, s.reply (.keysMatching pattern) = .ok keys ∧ keys.Nodup ∧
      ∀ key, key ∈ keys ↔ key ∈ s.found ∧ pattern.covers key = true) ∧
    Memory.count s.clock s.memory = s.found.ncard ∧
    (∀ key value, s.reply (.set key value 0) = .error (.invalidTtl 0) ∧
      (s.next (.call (.set key value 0))).Alike s) ∧
    s.swept.Alike s := by
  intro s
  have h : s.Kept := kept_after start uses
  exact ⟨h.get_eq_ok_iff, fun key => get_eq_not_found, h.reply_keysMatching, h.count_eq,
    fun key value => ⟨reply_set_zero s key value, set_zero_alike s key value⟩, swept_alike s⟩

end Session

end TaskBoard.Cache
