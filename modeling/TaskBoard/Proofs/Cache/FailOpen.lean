import TaskBoard.Proofs.Cache.Capture
import TaskBoard.Proofs.Cache.Respond

/-!
# A store that fails does not show

A store may answer any call with anything, or fail it. Unless it answers a read with a body, the
client gets what the origin answers, and the origin is asked once. The calls that a request makes
are the same whatever the origin's answer is, but for the one that stores it.
-/

namespace TaskBoard.Cache

open Http

variable {σ ω : Type}

/-! ## One request from its first call to the end of the reading -/

/-- The origin, with how often it has been asked. -/
def counted (origin : ω → Response × ω) : ω × Nat → Response × (ω × Nat) := fun w =>
  let (response, v) := origin w.1
  (response, v, w.2 + 1)

structure Trace where
  response : Response
  /-- What the client has read of the body. -/
  reading : Reading
  /-- The calls made on the store, in order. -/
  calls : List Call
  /-- How often the origin has been asked. -/
  asked : Nat

/-- A client that reads `limit` pieces of the answer, or all of it. -/
def trace (settings : Settings) (store : Store σ) (r : Request) (origin : ω → Response × ω)
    (limit : Option Nat) (s : σ) (w : ω) : Trace :=
  let answered := respond settings store.logged r (counted origin) (s, []) (w, 0)
  let delivered := answered.1.deliver settings store.logged limit answered.2.1
  ⟨answered.1.response, delivered.1, delivered.2.2.2, answered.2.2.2⟩

/-- The client has got the origin's answer, which was asked for once. -/
structure Trace.Passes (t : Trace) (own : Response) (limit : Option Nat) : Prop where
  asked : t.asked = 1
  response : t.response = own
  reading : t.reading = own.body.read limit

variable {settings : Settings} {store : Store σ} {r : Request} {origin : ω → Response × ω}
  {limit : Option Nat} {s : σ} {w : ω}

/-! ## Delivery -/

theorem run_commit_logged (key : Key) (body : Bytes) (s : σ) (calls : List Call) :
    ((commit settings key body).run store.logged (s, calls)).2.2 =
      calls ++ [.set key body settings.ttl] := by
  unfold commit Store.logged
  rcases hset : store (.set key body settings.ttl) s with ⟨reply, s'⟩
  cases reply <;> simp [Program.run, hset]

open Classical in
/-- At most one call is made while an answer is read. It stores the whole body. -/
theorem deliver_of_kept {answer : Answer} {key : Key} (h : answer.keptAs = some key)
    (calls : List Call) :
    (answer.deliver settings store.logged limit (s, calls)).2.2.2 =
      calls ++ if settings.Captures limit answer.response.body then
        [.set key answer.response.body.bytes settings.ttl] else [] := by
  unfold Answer.deliver
  rw [h]
  by_cases hcap : settings.Captures limit answer.response.body
  · rw [if_pos hcap]
    simp only [afterReading_of_captures key hcap]
    exact run_commit_logged key answer.response.body.bytes s calls
  · obtain ⟨events, hevents⟩ := afterReading_of_not_captures key hcap
    rw [if_neg hcap, List.append_nil]
    simp only [hevents, Program.run]

/-! ## Courses -/

theorem trace_pass (h : course settings r = .pass) :
    (trace settings store r origin limit s w).Passes (origin w).1 limit ∧
      (trace settings store r origin limit s w).calls = [] := by
  unfold trace
  rw [respond_pass h]
  exact ⟨⟨rfl, rfl, rfl⟩, rfl⟩

theorem trace_write {patterns : List Pattern} (h : course settings r = .write patterns) :
    (trace settings store r origin limit s w).Passes (origin w).1 limit ∧
      ∀ c ∈ (trace settings store r origin limit s w).calls, c.Sweeps patterns := by
  unfold trace
  rw [respond_write h]
  exact ⟨⟨rfl, rfl, rfl⟩, (asks_invalidate patterns).run_logged s⟩

theorem trace_found {key : Key} {body : Bytes} (h : course settings r = .read key)
    (hget : (store (.get key) s).1 = .ok body) :
    trace settings store r origin limit s w =
      ⟨replay body, (replay body).body.read limit, [.get key], 0⟩ := by
  have hlogged : (store.logged (.get key) (s, [])).1 = .ok body := hget
  unfold trace
  rw [respond_found h hlogged]
  rfl

open Classical in
/-- The only call after a lookup stores the answer, if it is one to keep and has been read to its
end. -/
theorem trace_missed {key : Key} {e : StoreError} (h : course settings r = .read key)
    (hget : (store (.get key) s).1 = .error e) :
    (trace settings store r origin limit s w).Passes (origin w).1 limit ∧
      (trace settings store r origin limit s w).calls =
        .get key :: if isKept (origin w).1.status = true ∧
            settings.Captures limit (origin w).1.body then
          [.set key (origin w).1.body.bytes settings.ttl] else [] := by
  have hlogged : (store.logged (.get key) (s, [])).1 = .error e := hget
  unfold trace
  rw [respond_missed h hlogged]
  refine ⟨⟨rfl, rfl, deliver_reading _ _⟩, ?_⟩
  by_cases hkept : isKept (origin w).1.status = true
  · simp only [hkept, true_and]
    exact deliver_of_kept (if_pos hkept) [.get key]
  · simp only [hkept]
    exact congrArg Prod.snd (deliver_of_not_kept (if_neg hkept))

/-! ## Every request -/

/-- Whatever the store answers: a read asks it once, gets its body alone if it has one, and else
the origin's answer, which is then offered to the store at most once, under the key that was asked
for and with the time to live of the settings; every other request gets the origin's answer, a write
after calls that only list and delete keys, and a request that passes the cache without any. -/
theorem trace_fails_open (settings : Settings) (henabled : settings.enabled = true)
    (store : Store σ) (r : Request) (origin : ω → Response × ω) (limit : Option Nat) (s : σ)
    (w : ω) :
    let key := settings.space.key (target r)
    let own := (origin w).1
    let t := trace settings store r origin limit s w
    (r.method = .get →
      (∀ body, (store (.get key) s).1 = .ok body →
        t.calls = [.get key] ∧ t.asked = 0 ∧ t.response = replay body ∧
          t.response.status = 200 ∧ t.response.body.bytes = body ∧
          t.reading = t.response.body.read limit) ∧
      (∀ e, (store (.get key) s).1 = .error e →
        t.Passes own limit ∧
          (isKept own.status = true ∧ settings.Captures limit own.body ∧
              t.calls = [.get key, .set key own.body.bytes settings.ttl] ∨
            ¬ (isKept own.status = true ∧ settings.Captures limit own.body) ∧
              t.calls = [.get key]))) ∧
    (r.method ≠ .get → r.method ≠ .head → r.method ≠ .options →
      t.Passes own limit ∧ ∀ c ∈ t.calls, c.Sweeps (settings.space.patterns (target r))) ∧
    (r.method = .head ∨ r.method = .options → t.Passes own limit ∧ t.calls = []) := by
  intro key own t
  refine ⟨fun hget => ⟨fun body hfound => ?_, fun e hmissed => ?_⟩, fun hget hhead hoptions => ?_,
    fun hpass => ?_⟩
  · have ht : t = _ := trace_found (course_of_read henabled hget) hfound
    rw [ht]
    exact ⟨rfl, rfl, rfl, rfl, Body.bytes_fixed body, rfl⟩
  · have ht : t.Passes own limit ∧ t.calls = _ :=
      trace_missed (course_of_read henabled hget) hmissed
    refine ⟨ht.1, ?_⟩
    by_cases hstored : isKept own.status = true ∧ settings.Captures limit own.body
    · exact Or.inl ⟨hstored.1, hstored.2, ht.2.trans (by rw [if_pos hstored])⟩
    · exact Or.inr ⟨hstored, ht.2.trans (by rw [if_neg hstored])⟩
  · have hwrite : r.method.isWrite = true := by
      simp [Method.isWrite, Method.isRead, Method.isPassthrough, hget, hhead, hoptions]
    exact trace_write (course_of_write henabled hwrite)
  · have hpass : r.method.isPassthrough = true := by simpa [Method.isPassthrough] using hpass
    exact trace_pass (course_of_passthrough hpass)

/-- A store that is down every other time and keeps nothing. -/
def flaky : Store Nat
  | .keysMatching _, n =>
    (if n % 2 = 0 then .ok [⟨"v1:tasks".toList⟩] else .error (.unavailable "down"), n + 1)
  | .delete _, n => (if n % 2 = 0 then .ok () else .error (.unavailable "down"), n + 1)
  | .get _, n => (.error (.unavailable "down"), n + 1)
  | .set .., n | .clear, n | .ping, n => (.error (.unavailable "down"), n + 1)

/-- An answer that breaks off reaches the client as it is, after a read and after a write. -/
theorem flaky_store_does_not_show :
    let read : Request := ⟨.get, ⟨"/api/v1/tasks".toList, none⟩, [], []⟩
    let write : Request := ⟨.post, ⟨"/api/v1/tasks".toList, none⟩, [], []⟩
    let broken : Response := ⟨200, [], [.ok [0x5B], .error "cut off"], none⟩
    let origin : Unit → Response × Unit := fun w => (broken, w)
    let ofRead := trace .standard flaky read origin none 0 ()
    let ofWrite := trace .standard flaky write origin none 0 ()
    (ofRead.reading.items = broken.body ∧ ofRead.calls = [.get ⟨"v1:tasks".toList⟩]) ∧
      ofWrite.reading.items = broken.body ∧ ofWrite.asked = 1 := by
  intro read write broken origin ofRead ofWrite
  obtain ⟨hread, -, -⟩ := trace_fails_open .standard rfl flaky read origin none 0 ()
  obtain ⟨-, hwrite, -⟩ := trace_fails_open .standard rfl flaky write origin none 0 ()
  constructor
  · obtain ⟨hpasses, hcalls⟩ := (hread rfl).2 _ rfl
    have hkey : Settings.standard.space.key (target read) = ⟨"v1:tasks".toList⟩ := by decide
    refine ⟨by rw [hpasses.reading]; rfl, ?_⟩
    rcases hcalls with ⟨-, hcaptures, -⟩ | ⟨-, hcalls⟩
    · exact absurd hcaptures.1.1 (by decide)
    · rw [hcalls, hkey]
  · obtain ⟨hpasses, -⟩ := hwrite (by decide) (by decide) (by decide)
    exact ⟨by rw [hpasses.reading]; rfl, hpasses.asked⟩

end TaskBoard.Cache
