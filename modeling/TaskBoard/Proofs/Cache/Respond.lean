import TaskBoard.Cache.Overlay
import TaskBoard.Proofs.Cache.Program

/-!
# How a request is answered

One equation for each course that a request takes, over every store and every origin; what becomes
of the origin; and the calls that each course makes on the store.
-/

namespace TaskBoard.Cache

open Http

/-! ## Courses -/

variable {settings : Settings} {r : Request}

theorem course_of_read (henabled : settings.enabled = true) (hget : r.method = .get) :
    course settings r = .read (settings.space.key (target r)) := by
  simp [course, henabled, hget, Method.isPassthrough, Method.isRead, Method.get, Method.head,
    Method.options]

theorem course_of_passthrough (h : r.method.isPassthrough = true) :
    course settings r = .pass := by
  simp [course, h]

theorem course_of_write (henabled : settings.enabled = true) (h : r.method.isWrite = true) :
    course settings r = .write (settings.space.patterns (target r)) := by
  simp only [Method.isWrite, Bool.and_eq_true, Bool.not_eq_true'] at h
  simp [course, henabled, h.1, h.2]

theorem get_of_course_read {key : Key} (h : course settings r = .read key) :
    r.method = .get := by
  unfold course at h
  split at h
  · cases h
  · split at h
    · next hread => exact of_decide_eq_true hread
    · cases h

/-! ## Answers -/

variable {σ ω : Type} {store : Store σ} {origin : ω → Response × ω} {s : σ} {w : ω}

theorem respond_pass (h : course settings r = .pass) :
    respond settings store r origin s w = (⟨(origin w).1, none, []⟩, s, (origin w).2) := by
  unfold respond
  rw [h]

theorem respond_write {patterns : List Pattern} (h : course settings r = .write patterns) :
    respond settings store r origin s w =
      (⟨(origin w).1, none, ((invalidate patterns).run store s).1.events⟩,
        ((invalidate patterns).run store s).2, (origin w).2) := by
  unfold respond
  rw [h]

theorem run_lookup_found {key : Key} {body : Bytes} (h : (store (.get key) s).1 = .ok body) :
    (lookup key).run store s = ((some body, [.hit]), (store (.get key) s).2) := by
  rw [lookup, Program.run]
  simp only [h]
  rfl

theorem run_lookup_missed {key : Key} {e : StoreError} (h : (store (.get key) s).1 = .error e) :
    (lookup key).run store s =
      ((none, if e = .notFound then [.miss] else [.lookupFailed key e, .miss]),
        (store (.get key) s).2) := by
  rw [lookup, Program.run]
  simp only [h]
  cases e <;> rfl

theorem respond_found {key : Key} {body : Bytes} (h : course settings r = .read key)
    (hget : (store (.get key) s).1 = .ok body) :
    respond settings store r origin s w =
      (⟨replay body, none, [.hit]⟩, (store (.get key) s).2, w) := by
  unfold respond
  rw [h]
  simp only [run_lookup_found hget]

theorem respond_missed {key : Key} {e : StoreError} (h : course settings r = .read key)
    (hget : (store (.get key) s).1 = .error e) :
    respond settings store r origin s w =
      (⟨(origin w).1, if isKept (origin w).1.status then some key else none,
        if e = .notFound then [.miss] else [.lookupFailed key e, .miss]⟩,
        (store (.get key) s).2, (origin w).2) := by
  unfold respond
  rw [h]
  simp only [run_lookup_missed hget]

theorem respond_response :
    (respond settings store r origin s w).1.response = (origin w).1 ∨
      ∃ body, (respond settings store r origin s w).1.response = replay body := by
  cases hc : course settings r with
  | pass => exact .inl (by rw [respond_pass hc])
  | write patterns => exact .inl (by rw [respond_write hc])
  | read key =>
    cases hget : (store (.get key) s).1 with
    | ok body => exact .inr ⟨body, by rw [respond_found hc hget]⟩
    | error e => exact .inl (by rw [respond_missed hc hget])

/-! ## What a client reads -/

theorem deliver_reading (answer : Answer) (limit : Option Nat) :
    (answer.deliver settings store limit s).1 = answer.response.body.read limit := by
  unfold Answer.deliver
  cases answer.keptAs <;> rfl

theorem deliver_of_not_kept {answer : Answer} {limit : Option Nat} (h : answer.keptAs = none) :
    (answer.deliver settings store limit s).2.2 = s := by
  unfold Answer.deliver
  rw [h]

/-! ## The origin behind the cache -/

/-- Only for a read may anything but the origin answer. -/
theorem respond_of_not_get (h : r.method ≠ .get) :
    (respond settings store r origin s w).1.response = (origin w).1 ∧
      (respond settings store r origin s w).2.2 = (origin w).2 := by
  cases hc : course settings r with
  | pass =>
    rw [respond_pass hc]
    exact ⟨rfl, rfl⟩
  | write patterns =>
    rw [respond_write hc]
    exact ⟨rfl, rfl⟩
  | read key => exact absurd (get_of_course_read hc) h

/-- If a read leaves the origin as it is, it does not matter whether the origin is asked. -/
theorem respond_origin (h : r.method = .get → (origin w).2 = w) :
    (respond settings store r origin s w).2.2 = (origin w).2 := by
  by_cases hget : r.method = .get
  · cases hc : course settings r with
    | pass => rw [respond_pass hc]
    | write patterns => rw [respond_write hc]
    | read key =>
      cases hreply : (store (.get key) s).1 with
      | ok body =>
        -- The origin is not asked, and would have stayed as it is.
        rw [respond_found hc hreply]
        exact (h hget).symm
      | error e => rw [respond_missed hc hreply]
  · exact (respond_of_not_get hget).2

/-! ## Calls -/

/-- A call of an invalidation: it lists the keys of one of the patterns, or deletes a key. -/
def Call.Sweeps (patterns : List Pattern) : Call → Prop
  | .keysMatching pattern => pattern ∈ patterns
  | .delete _ => True
  | .get _ | .set .. | .clear | .ping => False

theorem asks_dropKey (patterns : List Pattern) (sweep : Sweep) (key : Key) :
    (dropKey sweep key).Asks (Call.Sweeps patterns) := by
  unfold dropKey
  split
  · trivial
  · refine ⟨trivial, fun reply => ?_⟩
    cases reply <;> trivial

theorem asks_dropKeys (patterns : List Pattern) (sweep : Sweep) (keys : List Key) :
    (dropKeys sweep keys).Asks (Call.Sweeps patterns) := by
  induction keys generalizing sweep with
  | nil => trivial
  | cons key keys ih => exact (asks_dropKey patterns sweep key).bind ih

theorem asks_dropMatching {patterns : List Pattern} (sweep : Sweep) {pattern : Pattern}
    (h : pattern ∈ patterns) : (dropMatching sweep pattern).Asks (Call.Sweeps patterns) := by
  refine ⟨h, fun reply => ?_⟩
  cases reply with
  | ok keys => exact asks_dropKeys patterns sweep keys
  | error e => trivial

theorem asks_sweepAll {patterns : List Pattern} (sweep : Sweep) {rest : List Pattern}
    (h : ∀ pattern ∈ rest, pattern ∈ patterns) :
    (sweepAll sweep rest).Asks (Call.Sweeps patterns) := by
  induction rest generalizing sweep with
  | nil => trivial
  | cons pattern rest ih =>
    rw [List.forall_mem_cons] at h
    exact (asks_dropMatching sweep h.1).bind fun sweep => ih sweep h.2

theorem asks_invalidate (patterns : List Pattern) :
    (invalidate patterns).Asks (Call.Sweeps patterns) := asks_sweepAll {} fun _ h => h

theorem asks_afterReading (key : Key) (reading : Reading) :
    (afterReading settings key reading).Asks fun c =>
      ∃ body, c = .set key body settings.ttl := by
  unfold afterReading
  split
  · trivial
  · split
    · split
      · next body _ =>
        refine ⟨⟨body, rfl⟩, fun reply => ?_⟩
        cases reply <;> trivial
      · trivial
    · trivial

/-! ## What a store keeps -/

/-- The cache never pings: what every other call keeps is kept when it answers. -/
theorem respond_keeps (keeps : σ → Prop)
    (hcall : ∀ c t, c ≠ .ping → keeps t → keeps (store c t).2) (hs : keeps s) :
    keeps (respond settings store r origin s w).2.1 := by
  cases hc : course settings r with
  | pass =>
    rw [respond_pass hc]
    exact hs
  | write patterns =>
    rw [respond_write hc]
    refine (asks_invalidate patterns).run_keeps keeps (fun c t hsweeps => hcall c t ?_) hs
    rintro rfl
    exact hsweeps
  | read key =>
    have hlookup : keeps (store (.get key) s).2 := hcall _ s nofun hs
    cases hreply : (store (.get key) s).1 with
    | ok body =>
      rw [respond_found hc hreply]
      exact hlookup
    | error e =>
      rw [respond_missed hc hreply]
      exact hlookup

theorem deliver_keeps (keeps : σ → Prop)
    (hcall : ∀ c t, c ≠ .ping → keeps t → keeps (store c t).2) (hs : keeps s) (answer : Answer)
    (limit : Option Nat) :
    keeps (answer.deliver settings store limit s).2.2 := by
  unfold Answer.deliver
  cases answer.keptAs with
  | none => exact hs
  | some key =>
    refine (asks_afterReading key _).run_keeps keeps (fun c t hset => hcall c t ?_) hs
    rintro rfl
    obtain ⟨body, hset⟩ := hset
    cases hset

end TaskBoard.Cache
