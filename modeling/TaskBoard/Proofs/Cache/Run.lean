import TaskBoard.Proofs.Cache.Capture
import TaskBoard.Proofs.Cache.Coverage
import TaskBoard.Proofs.Cache.Invalidation
import TaskBoard.Proofs.Cache.Respond

/-!
# Runs of the overlay over the store in memory

Requests come one after another, with time passing between them and while a client reads. The main
lemma says which entries are alive after one request.
-/

namespace TaskBoard.Cache

open Http Time

/-- A request, what the origin answers if it is asked, and how the client reads the answer. -/
structure Exchange where
  request : Request
  origin : Response
  /-- How many pieces of the body the client reads, if not all. -/
  limit : Option Nat
  /-- The time from the request to the end of the reading. -/
  lasting : Duration

structure Scene where
  clock : Instant
  memory : Memory

namespace Exchange

def key (settings : Settings) (x : Exchange) : Key := settings.space.key (target x.request)

/-- The answer, the store after it, and how often the origin was asked. -/
def respond (settings : Settings) (s : Scene) (x : Exchange) : Answer × Memory × Nat :=
  Cache.respond settings (Memory.store s.clock) x.request (fun calls => (x.origin, calls + 1))
    s.memory 0

def response (settings : Settings) (s : Scene) (x : Exchange) : Response :=
  (x.respond settings s).1.response

/-- The origin is not asked. -/
def FromStore (settings : Settings) (s : Scene) (x : Exchange) : Prop :=
  (x.respond settings s).2.2 = 0

def finished (s : Scene) (x : Exchange) : Instant := s.clock + x.lasting

/-- What the request and the reading of its answer leave behind. -/
def finish (settings : Settings) (s : Scene) (x : Exchange) : Scene :=
  let (answer, m, _) := x.respond settings s
  let (_, _, m) := answer.deliver settings (Memory.store (x.finished s)) x.limit m
  ⟨x.finished s, m⟩

def entry (settings : Settings) (x : Exchange) (finished : Instant) : Entry :=
  ⟨x.key settings, x.origin.body.bytes, Memory.deadline finished settings.ttl⟩

/-- The store with the body in it. A body with no time to live is not taken. -/
def stored (settings : Settings) (s : Scene) (x : Exchange) : Memory :=
  if settings.ttl = 0 then s.memory
  else Memory.put (x.finished s) (x.key settings) x.origin.body.bytes settings.ttl s.memory

end Exchange

/-- A read that the store did not answer and whose own answer may be stored: a plain success whose
body came to its clean end before the client and is no longer than may be kept. -/
structure Populates (settings : Settings) (s : Scene) (x : Exchange) : Prop where
  read : x.request.method = .get
  missed : ¬ x.FromStore settings s
  kept : x.origin.status = 200 ∨ x.origin.status = 201
  captured : settings.Captures x.limit x.origin.body

/-- The request may change what a read of this key would be answered. -/
def Exchange.Invalidates (settings : Settings) (x : Exchange) (key : Key) : Prop :=
  x.request.method.isWrite = true ∧ settings.space.Collects x.request.uri.path key

/-! ## One request -/

variable {settings : Settings} {s : Scene} {x : Exchange}

theorem run_lookup (key : Key) (now : Instant) (m : Memory) :
    (lookup key).run (Memory.store now) m =
      match Memory.lookup? now key m with
      | some e => ((some e.value, [.hit]), m)
      | none => ((none, [.miss]), m) := by
  unfold lookup
  rw [Program.run, Memory.store]
  cases Memory.lookup? now key m <;> rfl

theorem run_commit (key : Key) (body : Bytes) (now : Instant) (m : Memory) :
    ((commit settings key body).run (Memory.store now) m).2 =
      if settings.ttl = 0 then m else Memory.put now key body settings.ttl m := by
  by_cases h : settings.ttl = 0 <;> simp [commit, Program.run, Memory.store, h]

theorem isWrite_get : Method.isWrite .get = false := by decide

theorem respond_of_hit (henabled : settings.enabled = true) (hget : x.request.method = .get)
    {e : Entry} (h : Memory.lookup? s.clock (x.key settings) s.memory = some e) :
    x.respond settings s = (⟨replay e.value, none, [.hit]⟩, s.memory, 0) := by
  unfold Exchange.respond Cache.respond
  rw [course_of_read henabled hget]
  simp only
  rw [run_lookup, show settings.space.key (target x.request) = x.key settings from rfl, h]

theorem respond_of_miss (henabled : settings.enabled = true) (hget : x.request.method = .get)
    (h : Memory.lookup? s.clock (x.key settings) s.memory = none) :
    x.respond settings s =
      (⟨x.origin, if isKept x.origin.status then some (x.key settings) else none, [.miss]⟩,
        s.memory, 1) := by
  unfold Exchange.respond Cache.respond
  rw [course_of_read henabled hget]
  simp only
  rw [run_lookup, show settings.space.key (target x.request) = x.key settings from rfl, h]

theorem respond_of_write (henabled : settings.enabled = true)
    (hwrite : x.request.method.isWrite = true) :
    x.respond settings s =
      let swept := (invalidate (settings.space.patterns (target x.request))).run
        (Memory.store s.clock) s.memory
      (⟨x.origin, none, swept.1.events⟩, swept.2, 1) :=
  respond_write (course_of_write henabled hwrite)

theorem respond_of_passthrough (hpass : x.request.method.isPassthrough = true) :
    x.respond settings s = (⟨x.origin, none, []⟩, s.memory, 1) :=
  respond_pass (course_of_passthrough hpass)

theorem fromStore_iff_lookup (henabled : settings.enabled = true)
    (hget : x.request.method = .get) :
    x.FromStore settings s ↔ ∃ e, Memory.lookup? s.clock (x.key settings) s.memory = some e := by
  unfold Exchange.FromStore
  cases h : Memory.lookup? s.clock (x.key settings) s.memory with
  | some e => simp [respond_of_hit henabled hget h]
  | none => simp [respond_of_miss henabled hget h]

/-! ## What one request leaves behind -/

theorem finish_of_not_kept {answer : Answer} {m : Memory} {calls : Nat}
    (h : x.respond settings s = (answer, m, calls)) (hkept : answer.keptAs = none) :
    x.finish settings s = ⟨x.finished s, m⟩ := by
  unfold Exchange.finish Answer.deliver
  rw [h]
  simp only [hkept]

theorem finish_of_captures {response : Response} {key : Key} {events : List Event} {m : Memory}
    {calls : Nat} (h : x.respond settings s = (⟨response, some key, events⟩, m, calls))
    (hcap : settings.Captures x.limit response.body) :
    x.finish settings s =
      ⟨x.finished s, if settings.ttl = 0 then m
        else Memory.put (x.finished s) key response.body.bytes settings.ttl m⟩ := by
  unfold Exchange.finish Answer.deliver
  rw [h]
  simp only [afterReading_of_captures key hcap, run_commit]

theorem finish_of_not_captures {response : Response} {key : Key} {events : List Event}
    {m : Memory} {calls : Nat}
    (h : x.respond settings s = (⟨response, some key, events⟩, m, calls))
    (hcap : ¬ settings.Captures x.limit response.body) :
    x.finish settings s = ⟨x.finished s, m⟩ := by
  obtain ⟨more, hmore⟩ := afterReading_of_not_captures key hcap
  unfold Exchange.finish Answer.deliver
  rw [h]
  simp only [hmore, Program.run]

theorem finish_of_write (henabled : settings.enabled = true)
    (hwrite : x.request.method.isWrite = true) :
    x.finish settings s = ⟨x.finished s,
      ((invalidate (settings.space.patterns (target x.request))).run (Memory.store s.clock)
        s.memory).2⟩ :=
  finish_of_not_kept (respond_of_write henabled hwrite) rfl

theorem finish_of_passthrough (hpass : x.request.method.isPassthrough = true) :
    x.finish settings s = ⟨x.finished s, s.memory⟩ :=
  finish_of_not_kept (respond_of_passthrough hpass) rfl

theorem Populates.lookup_eq_none (henabled : settings.enabled = true) (h : Populates settings s x) :
    Memory.lookup? s.clock (x.key settings) s.memory = none := by
  have hmissed := h.missed
  rw [fromStore_iff_lookup henabled h.read] at hmissed
  exact Option.eq_none_iff_forall_ne_some.mpr fun e he => hmissed ⟨e, he⟩

theorem finish_of_populates (henabled : settings.enabled = true) (h : Populates settings s x) :
    x.finish settings s = ⟨x.finished s, x.stored settings s⟩ := by
  have hkept : isKept x.origin.status = true := by simpa [isKept] using h.kept
  have hmiss := respond_of_miss henabled h.read (h.lookup_eq_none henabled)
  rw [if_pos hkept] at hmiss
  exact finish_of_captures hmiss h.captured

theorem finish_of_not_populates (henabled : settings.enabled = true)
    (hget : x.request.method = .get) (h : ¬ Populates settings s x) :
    x.finish settings s = ⟨x.finished s, s.memory⟩ := by
  cases hl : Memory.lookup? s.clock (x.key settings) s.memory with
  | some e => exact finish_of_not_kept (respond_of_hit henabled hget hl) rfl
  | none =>
    have hmiss := respond_of_miss henabled hget hl
    by_cases hkept : isKept x.origin.status = true
    · rw [if_pos hkept] at hmiss
      refine finish_of_not_captures hmiss fun hcap => h ⟨hget, ?_, ?_, hcap⟩
      · rw [fromStore_iff_lookup henabled hget, hl]
        simp
      · simpa [isKept] using hkept
    · rw [if_neg hkept] at hmiss
      exact finish_of_not_kept hmiss rfl

/-- What a request and the reading of its answer can do: store a body, clear a collection, or leave
the store as it was. -/
theorem finish_cases (henabled : settings.enabled = true) (s : Scene) (x : Exchange) :
    (Populates settings s x ∧ x.finish settings s = ⟨x.finished s, x.stored settings s⟩) ∨
    (x.request.method.isWrite = true ∧ x.finish settings s = ⟨x.finished s,
      ((invalidate (settings.space.patterns (target x.request))).run (Memory.store s.clock)
        s.memory).2⟩) ∨
    (¬ Populates settings s x ∧ x.request.method.isWrite = false ∧
      x.finish settings s = ⟨x.finished s, s.memory⟩) := by
  by_cases hget : x.request.method = .get
  · have hread : x.request.method.isWrite = false := by rw [hget]; exact isWrite_get
    by_cases hpop : Populates settings s x
    · exact Or.inl ⟨hpop, finish_of_populates henabled hpop⟩
    · exact Or.inr (Or.inr ⟨hpop, hread, finish_of_not_populates henabled hget hpop⟩)
  · cases hpass : x.request.method.isPassthrough with
    | true =>
      exact Or.inr (Or.inr ⟨fun h => hget h.read, by simp [Method.isWrite, hpass],
        finish_of_passthrough hpass⟩)
    | false =>
      have hwrite : x.request.method.isWrite = true := by
        simp [Method.isWrite, Method.isRead, hpass, hget]
      exact Or.inr (Or.inl ⟨hwrite, finish_of_write henabled hwrite⟩)

theorem not_invalidates_of_not_write {key : Key} (h : x.request.method.isWrite = false) :
    ¬ x.Invalidates settings key := fun hinv => by simp [hinv.1] at h

theorem not_populates_of_write (h : x.request.method.isWrite = true) :
    ¬ Populates settings s x := by
  intro hpop
  rw [hpop.read, isWrite_get] at h
  cases h

theorem Populates.key_ne (henabled : settings.enabled = true) (h : Populates settings s x)
    {e : Entry} (he : e ∈ Memory.live s.clock s.memory) : e.key ≠ x.key settings :=
  Memory.lookup?_eq_none_iff.mp (h.lookup_eq_none henabled) e he

/-- The live entries after a read that may be stored. With no time to live, its own is dead at
once. -/
theorem mem_live_stored (henabled : settings.enabled = true) (hpop : Populates settings s x)
    (hclock : x.finished s < Memory.horizon) {e : Entry} :
    e ∈ Memory.live (x.finished s) (x.stored settings s) ↔
      (e ∈ Memory.live s.clock s.memory ∨ e = x.entry settings (x.finished s)) ∧
        Memory.isLive (x.finished s) e = true := by
  have hle : s.clock ≤ x.finished s := Nat.le_add_right _ _
  unfold Exchange.stored
  split
  · next httl =>
    have hdead : e = x.entry settings (x.finished s) → ¬ Memory.isLive (x.finished s) e = true := by
      rintro rfl
      rw [Exchange.entry, Memory.isLive_deadline_iff hclock, httl]
      exact Nat.lt_irrefl _
    rw [Memory.mem_live_of_le hle]
    constructor
    · rintro ⟨he, hlive⟩
      exact ⟨Or.inl he, hlive⟩
    · rintro ⟨he | he, hlive⟩
      · exact ⟨he, hlive⟩
      · exact absurd hlive (hdead he)
  · rw [Memory.mem_live_put (Nat.le_refl _), Memory.mem_live_of_le hle]
    constructor
    · rintro (⟨⟨he, hlive⟩, -⟩ | ⟨he, hlive⟩)
      · exact ⟨Or.inl he, hlive⟩
      · exact ⟨Or.inr he, hlive⟩
    · rintro ⟨he | he, hlive⟩
      · exact Or.inl ⟨⟨he, hlive⟩, hpop.key_ne henabled he⟩
      · exact Or.inr ⟨he, hlive⟩

/-- The live entries after a request: those that are still alive and that it does not invalidate,
and the entry of its own body if it may be stored. -/
theorem mem_live_finish (henabled : settings.enabled = true)
    (hclock : x.finished s < Memory.horizon) {e : Entry} :
    e ∈ Memory.live (x.finished s) (x.finish settings s).memory ↔
      (e ∈ Memory.live s.clock s.memory ∧ ¬ x.Invalidates settings e.key ∨
        Populates settings s x ∧ e = x.entry settings (x.finished s)) ∧
      Memory.isLive (x.finished s) e = true := by
  have hle : s.clock ≤ x.finished s := Nat.le_add_right _ _
  rcases finish_cases henabled s x with ⟨hpop, hfinish⟩ | ⟨hwrite, hfinish⟩ | ⟨hpop, hread, hfinish⟩
  · have hno : ¬ x.Invalidates settings e.key :=
      not_invalidates_of_not_write (by rw [hpop.read]; exact isWrite_get)
    rw [hfinish, mem_live_stored henabled hpop hclock]
    simp only [hno, hpop, not_false_eq_true, and_true, true_and]
  · have hinv : x.Invalidates settings e.key ↔
        ∃ p ∈ settings.space.patterns (target x.request), p.covers e.key = true := by
      rw [patterns_cover_iff_collects]
      exact and_iff_right hwrite
    rw [hfinish, mem_live_invalidate hle, Memory.mem_live_of_le hle, hinv]
    simp only [not_populates_of_write hwrite, false_and, or_false]
    exact and_right_comm
  · have hno : ¬ x.Invalidates settings e.key := not_invalidates_of_not_write hread
    rw [hfinish, Memory.mem_live_of_le hle]
    simp only [hno, hpop, not_false_eq_true, and_true, false_and, or_false]

theorem distinct_finish (henabled : settings.enabled = true) (h : s.memory.Distinct) :
    (x.finish settings s).memory.Distinct := by
  rcases finish_cases henabled s x with ⟨-, hfinish⟩ | ⟨-, hfinish⟩ | ⟨-, -, hfinish⟩
  · rw [hfinish]
    unfold Exchange.stored
    split
    · exact h
    · exact h.put
  · rw [hfinish, (swept_invalidate s.clock s.memory _).memory]
    exact h.filter _
  · rw [hfinish]
    exact h

end TaskBoard.Cache
