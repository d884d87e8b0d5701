import TaskBoard.Cache.Memory
import TaskBoard.Proofs.Cache.Respond
import TaskBoard.Service

/-!
# The service with its cache and without

Two runs of the service over the same requests, one with the cache over whatever store and one
without a cache: the tasks stay the same in both, and so does everything that a request other than a
read is answered.
-/

namespace TaskBoard.Service

open Http Api Cache Time

variable {σ ρ : Type}

/-! ## Visits -/

/-- A request with what it finds, and how its answer is read. -/
structure Visit (σ : Type) where
  request : Request
  clock : Instant
  occasion : Occasion
  /-- How many pieces of the body the client reads, if not all. -/
  limit : Option Nat
  /-- What the store does while the request is answered. -/
  answering : Store σ
  /-- What the store does while the answer is read. -/
  reading : Store σ

namespace Visit

variable (settings : Settings) (repo : Repository ρ)

def answer (v : Visit σ) (s : State σ ρ) : Answer × State σ ρ :=
  handle settings v.answering repo v.clock v.occasion v.request s

/-- The state once the answer has been read. -/
def next (v : Visit σ) (s : State σ ρ) : State σ ρ :=
  let (answer, s) := v.answer settings repo s
  (deliver settings v.reading answer v.limit s).2.2

/-- What reaches the client: a status, the headers, and what it reads of the body. -/
def seen (v : Visit σ) (s : State σ ρ) : Nat × Headers × Reading :=
  let (answer, s) := v.answer settings repo s
  (answer.response.status, answer.response.headers,
    (deliver settings v.reading answer v.limit s).1)

end Visit

def after (settings : Settings) (repo : Repository ρ) (start : State σ ρ) (past : List (Visit σ)) :
    State σ ρ :=
  past.foldl (fun s v => v.next settings repo s) start

def Settings.uncached (settings : Settings) : Settings := { settings with cache := none }

/-! ## The limiter -/

def Settings.admissions (settings : Settings) (clock : Instant) (a : RateLimit.Admissions) :
    RateLimit.Admissions :=
  match settings.rateLimit with
  | none => a
  | some limit => (RateLimit.allow limit clock a).2

/-- What a request is answered that the limiter refuses. -/
def Settings.refusal? (settings : Settings) (clock : Instant) (a : RateLimit.Admissions) :
    Option Response :=
  match settings.rateLimit with
  | none => none
  | some limit =>
    match (RateLimit.allow limit clock a).1 with
    | .admitted _ => none
    | .refused => some (ApiError.rateLimited (RateLimit.retryAfter limit)).response

/-- The answer as it leaves the service. -/
def outgoing (r : Request) (inner : Cache.Answer) : Answer :=
  let response := inner.response
  let reported := if isError response.status then
    [Event.errorResponse r response.status response.report] else []
  ⟨(withAllowed (place r.uri.path) r.method response).forMethod r.method, inner.keptAs,
    inner.events.map .cache ++ reported⟩

section Limiter

variable {settings : Settings} {store : Store σ} {repo : Repository ρ} {clock : Instant}
  {o : Occasion} {r : Request} {s : State σ ρ}

/-- The limiter decides first, and remembers that it did; then the request goes its way. -/
theorem handle_eq :
    handle settings store repo clock o r s =
      let t : State σ ρ := { s with admissions := settings.admissions clock s.admissions }
      match settings.refusal? clock s.admissions with
      | none => (outgoing r (route settings store repo o r t).1, (route settings store repo o r t).2)
      | some refusal => (outgoing r ⟨refusal, none, []⟩, t) := by
  unfold handle Settings.admissions Settings.refusal?
  cases settings.rateLimit with
  | none => rfl
  | some limit =>
    simp only
    rcases RateLimit.allow limit clock s.admissions with ⟨verdict, admissions⟩
    cases verdict <;> rfl

theorem handle_of_admitted (h : settings.refusal? clock s.admissions = none) :
    handle settings store repo clock o r s =
      let routed := route settings store repo o r
        { s with admissions := settings.admissions clock s.admissions }
      (outgoing r routed.1, routed.2) := by
  rw [handle_eq, h]

theorem handle_of_refused {refusal : Response}
    (h : settings.refusal? clock s.admissions = some refusal) :
    handle settings store repo clock o r s =
      (outgoing r ⟨refusal, none, []⟩,
        { s with admissions := settings.admissions clock s.admissions }) := by
  rw [handle_eq, h]

end Limiter

/-! ## Routes -/

section Routes

variable {settings : Settings} {store : Store σ} {repo : Repository ρ} {o : Occasion} {r : Request}
  {s : State σ ρ}

theorem taskOrigin_of_get {p : Place} (hget : r.method = .get) (tasks : ρ) :
    (taskOrigin repo o p r tasks).2 = tasks := by
  unfold taskOrigin
  rw [hget]
  cases p <;> rfl

/-- Where requests are about tasks, the cache is asked, if there is one. -/
theorem route_of_tasks (hnowhere : place r.uri.path ≠ .nowhere)
    (hhealth : place r.uri.path ≠ .health) :
    route settings store repo o r s =
      match settings.cache with
      | none =>
        let answered := taskOrigin repo o (place r.uri.path) r s.repo
        (⟨answered.1, none, []⟩, { s with repo := answered.2 })
      | some cache =>
        let answered :=
          respond cache store r (taskOrigin repo o (place r.uri.path) r) s.store s.repo
        (answered.1, { s with store := answered.2.1, repo := answered.2.2 }) := by
  unfold route
  cases hp : place r.uri.path with
  | nowhere => exact absurd hp hnowhere
  | health => exact absurd hp hhealth
  | tasks => cases settings.cache <;> rfl
  | task segment => cases settings.cache <;> rfl

theorem route_of_health (hp : place r.uri.path = .health) :
    route settings store repo o r s =
      if r.method = .get || r.method = .head then
        (⟨health o.now (store .ping s.store).1, none, []⟩,
          { s with store := (store .ping s.store).2 })
      else (⟨notAllowed, none, []⟩, s) := by
  unfold route
  rw [hp]

theorem route_of_nowhere (hp : place r.uri.path = .nowhere) :
    route settings store repo o r s = (⟨.empty 404, none, []⟩, s) := by
  unfold route
  rw [hp]

theorem admissions_route : (route settings store repo o r s).2.admissions = s.admissions := by
  by_cases hnowhere : place r.uri.path = .nowhere
  · rw [route_of_nowhere hnowhere]
  · by_cases hhealth : place r.uri.path = .health
    · rw [route_of_health hhealth]
      split <;> rfl
    · rw [route_of_tasks hnowhere hhealth]
      cases settings.cache <;> rfl

/-- The tasks are what the task handlers make of them, whether they were asked or not. -/
theorem repo_route : (route settings store repo o r s).2.repo =
    (taskOrigin repo o (place r.uri.path) r s.repo).2 := by
  by_cases hnowhere : place r.uri.path = .nowhere
  · rw [route_of_nowhere hnowhere, hnowhere]
    rfl
  · by_cases hhealth : place r.uri.path = .health
    · rw [route_of_health hhealth, hhealth]
      split <;> rfl
    · rw [route_of_tasks hnowhere hhealth]
      cases settings.cache with
      | none => rfl
      | some cache => exact respond_origin fun hget => taskOrigin_of_get hget s.repo

theorem response_route (hget : r.method ≠ .get) (hhealth : place r.uri.path ≠ .health) :
    (route settings store repo o r s).1.response =
      (taskOrigin repo o (place r.uri.path) r s.repo).1 := by
  by_cases hnowhere : place r.uri.path = .nowhere
  · rw [route_of_nowhere hnowhere, hnowhere]
    rfl
  · rw [route_of_tasks hnowhere hhealth]
    cases settings.cache with
    | none => rfl
    | some cache => exact (respond_of_not_get hget).1

end Routes

/-! ## One visit -/

section OneVisit

variable {settings : Settings} {repo : Repository ρ} {v : Visit σ} {s s' : State σ ρ}

theorem seen_eq (s : State σ ρ) : v.seen settings repo s =
    let response := (v.answer settings repo s).1.response
    (response.status, response.headers, response.body.read v.limit) := by
  unfold Visit.seen deliver
  cases settings.cache with
  | none => rfl
  | some cache => simp only [deliver_reading]

theorem next_of_deliver (s : State σ ρ) :
    (v.next settings repo s).repo = (v.answer settings repo s).2.repo ∧
      (v.next settings repo s).admissions = (v.answer settings repo s).2.admissions := by
  unfold Visit.next deliver
  cases settings.cache <;> exact ⟨rfl, rfl⟩

theorem admissions_next (s : State σ ρ) :
    (v.next settings repo s).admissions = settings.admissions v.clock s.admissions := by
  rw [(next_of_deliver s).2, Visit.answer]
  cases h : settings.refusal? v.clock s.admissions with
  | none =>
    rw [handle_of_admitted h]
    exact admissions_route
  | some refusal => rw [handle_of_refused h]

theorem repo_next (s : State σ ρ) :
    (v.next settings repo s).repo =
      match settings.refusal? v.clock s.admissions with
      | none => (taskOrigin repo v.occasion (place v.request.uri.path) v.request s.repo).2
      | some _ => s.repo := by
  rw [(next_of_deliver s).1, Visit.answer]
  cases h : settings.refusal? v.clock s.admissions with
  | none =>
    rw [handle_of_admitted h]
    exact repo_route
  | some refusal => rw [handle_of_refused h]

/-- The same tasks, and the same admissions. -/
structure Agree (s s' : State σ ρ) : Prop where
  repo : s.repo = s'.repo
  admissions : s.admissions = s'.admissions

theorem Agree.next (h : Agree s s') :
    Agree (v.next settings repo s) (v.next settings.uncached repo s') := by
  constructor
  · rw [repo_next, repo_next, h.repo, h.admissions]
    rfl
  · rw [admissions_next, admissions_next, h.admissions]
    rfl

/-- A request that reaches the health check and is not a read: its answer tells whether the store is
reachable. -/
structure Visit.Probes (settings : Settings) (v : Visit σ) (a : RateLimit.Admissions) : Prop where
  place : place v.request.uri.path = .health
  head : v.request.method = .head
  admitted : settings.refusal? v.clock a = none

theorem seen_of_not_probe (h : Agree s s') (hget : v.request.method ≠ .get)
    (hprobe : ¬ v.Probes settings s.admissions) :
    v.seen settings repo s = v.seen settings.uncached repo s' := by
  suffices hanswer : (v.answer settings repo s).1.response =
      (v.answer settings.uncached repo s').1.response by
    rw [seen_eq, seen_eq, hanswer]
  unfold Visit.answer
  cases hrefusal : settings.refusal? v.clock s.admissions with
  | some refusal =>
    have hrefusal' : settings.uncached.refusal? v.clock s'.admissions = some refusal :=
      h.admissions ▸ hrefusal
    rw [handle_of_refused hrefusal, handle_of_refused hrefusal']
  | none =>
    have hrefusal' : settings.uncached.refusal? v.clock s'.admissions = none :=
      h.admissions ▸ hrefusal
    rw [handle_of_admitted hrefusal, handle_of_admitted hrefusal']
    simp only [outgoing]
    congr 2
    by_cases hhealth : place v.request.uri.path = .health
    · -- Neither a read nor a probe: the method is not allowed, and the store is not pinged.
      have hhead : v.request.method ≠ .head := fun hhead => hprobe ⟨hhealth, hhead, hrefusal⟩
      rw [route_of_health hhealth, route_of_health hhealth, if_neg (by simp [hget, hhead]),
        if_neg (by simp [hget, hhead])]
    · rw [response_route hget hhealth, response_route hget hhealth, h.repo]

/-- A health check without a body tells whether the store answers a ping, and nothing else. -/
theorem seen_of_probe (hprobe : v.Probes settings s.admissions) :
    v.seen settings repo s =
      (if (v.answering .ping s.store).1.isOk then 200 else 503,
        [⟨contentType, asciiBytes "application/json"⟩], Body.read v.limit []) := by
  obtain ⟨hplace, hhead, hadmitted⟩ := hprobe
  rw [seen_eq, Visit.answer, handle_of_admitted hadmitted, route_of_health hplace]
  simp only [hhead, hplace, outgoing]
  cases (v.answering .ping s.store).1 <;> rfl

/-- Only the answer to a probe depends on the store, and on nothing but whether a ping succeeds. -/
theorem seen_eq_iff (h : Agree s s') (hget : v.request.method ≠ .get) :
    v.seen settings repo s = v.seen settings.uncached repo s' ↔
      (v.Probes settings s.admissions →
        (v.answering .ping s.store).1.isOk = (v.answering .ping s'.store).1.isOk) := by
  by_cases hprobe : v.Probes settings s.admissions
  · have hprobe' : v.Probes settings.uncached s'.admissions :=
      ⟨hprobe.place, hprobe.head, h.admissions ▸ hprobe.admitted⟩
    rw [seen_of_probe hprobe, seen_of_probe hprobe', imp_iff_right hprobe]
    cases (v.answering .ping s.store).1 <;> cases (v.answering .ping s'.store).1 <;>
      simp [Except.isOk, Except.toBool]
  · exact iff_of_true (seen_of_not_probe h hget hprobe) fun hping => absurd hping hprobe

/-! ## What a ping finds -/

variable {π : Type} {view : σ → π}

/-- What a ping finds out about the store is in a part of it that only pings touch. -/
structure PingsAlone (view : σ → π) (store : Store σ) : Prop where
  reply : ∀ t t', view t = view t' → (store .ping t).1 = (store .ping t').1
  after : ∀ t t', view t = view t' → view (store .ping t).2 = view (store .ping t').2
  others : ∀ c t, c ≠ .ping → view (store c t).2 = view t

/-- A store for the cache, and another one for the health check. -/
def beside (kept : Store σ) (probed : Store π) : Store (σ × π)
  | .ping, t =>
    let (reply, u) := probed .ping t.2
    (reply, t.1, u)
  | c, t =>
    let (reply, u) := kept c t.1
    (reply, u, t.2)

theorem pingsAlone_beside (kept : Store σ) (probed : Store π) :
    PingsAlone Prod.snd (beside kept probed) where
  reply t t' h := congrArg (fun u => (probed .ping u).1) h
  after t t' h := congrArg (fun u => (probed .ping u).2) h
  others c t hc := by
    cases c with
    | ping => exact absurd rfl hc
    | _ => rfl

theorem view_route {store : Store σ} {o : Occasion} {r : Request} (h : PingsAlone view store) :
    view (route settings store repo o r s).2.store =
      if place r.uri.path = .health ∧ (r.method = .get ∨ r.method = .head) then
        view (store .ping s.store).2
      else view s.store := by
  by_cases hnowhere : place r.uri.path = .nowhere
  · rw [route_of_nowhere hnowhere, if_neg (by simp [hnowhere])]
  · by_cases hhealth : place r.uri.path = .health
    · rw [route_of_health hhealth]
      by_cases hmethod : r.method = .get ∨ r.method = .head
      · rw [if_pos (by simpa using hmethod), if_pos ⟨hhealth, hmethod⟩]
      · rw [if_neg (by simpa using hmethod), if_neg fun hping => hmethod hping.2]
    · rw [route_of_tasks hnowhere hhealth, if_neg fun hping => hhealth hping.1]
      cases settings.cache with
      | none => rfl
      | some cache =>
        exact respond_keeps (fun t => view t = view s.store)
          (fun c t hc ht => (h.others c t hc).trans ht) rfl

theorem view_next (h : PingsAlone view v.answering) (h' : PingsAlone view v.reading) :
    view (v.next settings repo s).store =
      if settings.refusal? v.clock s.admissions = none ∧ place v.request.uri.path = .health ∧
          (v.request.method = .get ∨ v.request.method = .head) then
        view (v.answering .ping s.store).2
      else view s.store := by
  have hdeliver : view (v.next settings repo s).store =
      view (v.answer settings repo s).2.store := by
    unfold Visit.next deliver
    cases settings.cache with
    | none => rfl
    | some cache =>
      exact deliver_keeps (fun t => view t = view (v.answer settings repo s).2.store)
        (fun c t hc ht => (h'.others c t hc).trans ht) rfl _ _
  rw [hdeliver, Visit.answer]
  cases hrefusal : settings.refusal? v.clock s.admissions with
  | some refusal =>
    rw [handle_of_refused hrefusal, if_neg (by simp)]
  | none =>
    rw [handle_of_admitted hrefusal]
    simp only [view_route h, true_and]

end OneVisit

/-! ## Runs -/

section Runs

variable {settings : Settings} {repo : Repository ρ} {s s' : State σ ρ} {past : List (Visit σ)}
  {π : Type} {view : σ → π}

theorem Agree.run (h : Agree s s') :
    Agree (after settings repo s past) (after settings.uncached repo s' past) := by
  induction past generalizing s s' with
  | nil => exact h
  | cons v past ih => exact ih h.next

theorem view_after (h : Agree s s') (hview : view s.store = view s'.store)
    (hpast : ∀ v ∈ past, PingsAlone view v.answering ∧ PingsAlone view v.reading) :
    view (after settings repo s past).store =
      view (after settings.uncached repo s' past).store := by
  induction past generalizing s s' with
  | nil => exact hview
  | cons v past ih =>
    rw [List.forall_mem_cons] at hpast
    obtain ⟨⟨hanswering, hreading⟩, hrest⟩ := hpast
    refine ih h.next ?_ hrest
    have hrefusal : settings.refusal? v.clock s.admissions =
        settings.uncached.refusal? v.clock s'.admissions := by
      rw [h.admissions]
      rfl
    rw [view_next hanswering hreading, view_next hanswering hreading, hview, hrefusal,
      hanswering.after _ _ hview]

/-- The cache, whatever its store does, does not show in the tasks nor in the answer to anything but
a read, save one: a health check without a body asks the store itself, with the cache and without.
It is answered the same exactly if a ping succeeds in both runs or in neither, and so always if the
store does not answer pings by what else it is asked. -/
theorem cache_unseen_by_writes (settings : Settings) (repo : Repository ρ) (stored stored' : σ)
    (tasks : ρ) (admissions : RateLimit.Admissions) (past : List (Visit σ)) (v : Visit σ) :
    let cached := after settings repo ⟨stored, tasks, admissions⟩ past
    let plain := after settings.uncached repo ⟨stored', tasks, admissions⟩ past
    cached.repo = plain.repo ∧
    (v.request.method ≠ .get →
      (v.seen settings repo cached = v.seen settings.uncached repo plain ↔
        (v.Probes settings cached.admissions →
          (v.answering .ping cached.store).1.isOk = (v.answering .ping plain.store).1.isOk))) ∧
    ∀ (π : Type) (view : σ → π), view stored = view stored' →
      (∀ u ∈ v :: past, PingsAlone view u.answering ∧ PingsAlone view u.reading) →
      v.request.method ≠ .get →
        v.seen settings repo cached = v.seen settings.uncached repo plain := by
  intro cached plain
  have hagree : Agree cached plain := Agree.run ⟨rfl, rfl⟩
  refine ⟨hagree.repo, seen_eq_iff hagree, fun π view hview halone hget => ?_⟩
  rw [List.forall_mem_cons] at halone
  have hviews : view cached.store = view plain.store := view_after ⟨rfl, rfl⟩ hview halone.2
  refine (seen_eq_iff hagree hget).mpr fun _ => ?_
  rw [halone.1.1.reply _ _ hviews]

end Runs

def dawn : Occasion := ⟨⟨2024, 5, 1, 6, 0, 0, 0, 0⟩, ⟨List.replicate 32 '0', rfl, by decide⟩⟩

/-- A store in memory for the cache, and one that is down for the health check. -/
def halfDown : Store (Memory × Unit) :=
  beside (Memory.store 0) fun _ u => (.error (.unavailable "down"), u)

def visitAtDawn (store : Store σ) (m : Method) (path : String) : Visit σ :=
  ⟨⟨m, ⟨path.toList, none⟩, [], []⟩, 0, dawn, none, store, store⟩

/-- A task that the cache keeps is deleted, and then the health is checked. -/
theorem probe_after_deletion :
    let settings : Settings := ⟨some .standard, some ⟨Duration.ofSeconds 60, 3⟩⟩
    let task : Task := ⟨dawn.id, ['a'], [], .pending, dawn.now, dawn.now, dawn.now⟩
    let read := visitAtDawn halfDown .get "/api/v1/tasks/00000000000000000000000000000000"
    let deletion := visitAtDawn halfDown .delete "/api/v1/tasks/00000000000000000000000000000000"
    let probe := visitAtDawn halfDown .head "/health"
    let start : State (Memory × Unit) TaskList := ⟨([], ()), [task], []⟩
    let cached := after settings TaskList.repository start [read, deletion]
    let plain := after settings.uncached TaskList.repository start [read, deletion]
    (read.next settings TaskList.repository start).store.1.length = 1 ∧
      cached.repo = [] ∧ cached.repo = plain.repo ∧
      (probe.seen settings TaskList.repository cached).1 = 503 ∧
      probe.seen settings TaskList.repository cached =
        probe.seen settings.uncached TaskList.repository plain := by
  intro settings task read deletion probe start cached plain
  have hhalf : PingsAlone Prod.snd halfDown := pingsAlone_beside _ _
  have halone : ∀ u ∈ [probe, read, deletion],
      PingsAlone Prod.snd u.answering ∧ PingsAlone Prod.snd u.reading := by
    simp only [List.forall_mem_cons, List.not_mem_nil, false_imp_iff, implies_true, and_true]
    exact ⟨⟨hhalf, hhalf⟩, ⟨hhalf, hhalf⟩, hhalf, hhalf⟩
  obtain ⟨hrepo, -, hseen⟩ := cache_unseen_by_writes settings TaskList.repository ([], ()) ([], ())
    [task] [] [read, deletion] probe
  exact ⟨by decide +kernel, by decide +kernel, hrepo, by decide +kernel,
    hseen Unit Prod.snd rfl halone (by decide)⟩

/-- A store in memory whose pings fail once anything else has been asked of it. -/
def downOnceAsked : Store (Memory × Bool)
  | .ping, t => (if t.2 then .error (.unavailable "down") else .ok (), t)
  | c, t =>
    let (reply, entries) := Memory.store 0 c t.1
    (reply, entries, true)

/-- With the cache, a listing is looked up in the store before the health is checked; without it,
nothing has been asked of the store. The check is not a read, and is answered differently. -/
theorem probe_after_listing :
    let settings : Settings := ⟨some .standard, none⟩
    let listing := visitAtDawn downOnceAsked .get "/api/v1/tasks"
    let probe := visitAtDawn downOnceAsked .head "/health"
    let start : State (Memory × Bool) TaskList := ⟨([], false), [], []⟩
    let cached := after settings TaskList.repository start [listing]
    let plain := after settings.uncached TaskList.repository start [listing]
    probe.request.method ≠ .get ∧
      (probe.seen settings TaskList.repository cached).1 = 503 ∧
      (probe.seen settings.uncached TaskList.repository plain).1 = 200 ∧
      probe.seen settings TaskList.repository cached ≠
        probe.seen settings.uncached TaskList.repository plain := by
  intro settings listing probe start cached plain
  have hcached : (probe.seen settings TaskList.repository cached).1 = 503 := by decide +kernel
  have hplain : (probe.seen settings.uncached TaskList.repository plain).1 = 200 := by
    decide +kernel
  refine ⟨by decide, hcached, hplain, fun hsame => ?_⟩
  rw [hsame, hplain] at hcached
  exact absurd hcached (by decide)

end TaskBoard.Service
