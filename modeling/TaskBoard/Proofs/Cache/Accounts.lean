import Mathlib
import TaskBoard.Cache.Counter
import TaskBoard.Proofs.Cache.Capture
import TaskBoard.Proofs.Cache.Respond

/-!
# What the counters add up to

A ledger follows many requests before one store: what each is answered, which calls are made on the
store and how it replies, and what is reported. Answers are read some time later, or not at all. The
counters agree at every moment with the requests and with the calls.
-/

namespace TaskBoard.Cache

open Http

/-! ## Calls and the replies to them -/

abbrev Replied := (c : Call) × c.Reply

variable {σ : Type}

/-- A store that writes down the calls made on it and its replies, in order. -/
def Store.recorded (store : Store σ) : Store (σ × List Replied) := fun c s =>
  let (r, t) := store c s.1
  (r, t, s.2 ++ [⟨c, r⟩])

namespace Replied

def isGet : Replied → Bool
  | ⟨.get _, _⟩ => true
  | _ => false

def isSet : Replied → Bool
  | ⟨.set .., _⟩ => true
  | _ => false

def isHit : Replied → Bool
  | ⟨.get _, .ok _⟩ => true
  | _ => false

/-- The operation that failed, if one did. That a key is not there is no failure. -/
def failure? : Replied → Option Operation
  | ⟨.get _, .error e⟩ => if e = .notFound then none else some .get
  | ⟨.set .., .error _⟩ => some .set
  | ⟨.keysMatching _, .error _⟩ => some .keysMatching
  | ⟨.delete _, .error _⟩ => some .delete
  | _ => none

def deleted? : Replied → Option Key
  | ⟨.delete key, .ok _⟩ => some key
  | _ => none

/-- What the overlay reports of a call. -/
def report : Replied → List Event
  | ⟨.get _, .ok _⟩ => [.hit]
  | ⟨.get key, .error e⟩ => if e = .notFound then [.miss] else [.lookupFailed key e, .miss]
  | ⟨.set .., .ok _⟩ => [.stored]
  | ⟨.set key .., .error e⟩ => [.storingFailed key e]
  | ⟨.keysMatching pattern, .error e⟩ => [.listingFailed pattern e]
  | ⟨.delete key, .error e⟩ => [.deletionFailed key e]
  | _ => []

end Replied

/-! ## Requests before a store -/

structure Visit where
  request : Request
  /-- What the origin answers if it is asked. -/
  own : Response
  answer : Answer
  /-- The calls that were made before the answer was there. -/
  calls : List Replied
  /-- Whether the answer has been read, and how many pieces of it if not all. -/
  reading : Option (Option Nat) := none

def Visit.readTo (v : Visit) (limit : Option Nat) : Visit := { v with reading := some limit }

structure Ledger (σ : Type) where
  store : σ
  calls : List Replied := []
  events : List Event := []
  visits : List Visit := []

inductive Turn where
  | request (r : Request) (own : Response)
  /-- The client of the request with this number reads its answer. -/
  | read (i : Nat) (limit : Option Nat)

section

variable (settings : Settings) (store : Store σ)

def attend (s : σ) (r : Request) (own : Response) : Visit × σ :=
  let (answer, (s, calls), _) :=
    respond settings store.recorded r (fun _ => (own, ())) (s, []) ()
  ({ request := r, own, answer, calls }, s)

namespace Ledger

def request (l : Ledger σ) (r : Request) (own : Response) : Ledger σ :=
  let (v, s) := attend settings store l.store r own
  { store := s
    calls := l.calls ++ v.calls
    events := l.events ++ v.answer.events
    visits := l.visits ++ [v] }

def read (l : Ledger σ) (i : Nat) (v : Visit) (limit : Option Nat) : Ledger σ :=
  let (_, events, s, calls) := v.answer.deliver settings store.recorded limit (l.store, [])
  { store := s
    calls := l.calls ++ calls
    events := l.events ++ events
    visits := l.visits.set i (v.readTo limit) }

def next (l : Ledger σ) : Turn → Ledger σ
  | .request r own => l.request settings store r own
  | .read i limit =>
    match l.visits[i]? with
    -- A body can be read once.
    | some v => if v.reading = none then l.read settings store i v limit else l
    | none => l

def after (s : σ) (turns : List Turn) : Ledger σ := turns.foldl (next settings store) { store := s }

end Ledger

end

namespace Visit

def isRead (v : Visit) : Bool := v.request.method.isRead

def isWrite (v : Visit) : Bool := v.request.method.isWrite

/-- The keys that were deleted before the answer was there, each once. -/
def deletedKeys (v : Visit) : List Key := (v.calls.filterMap Replied.deleted?).dedup

/-- A read that the store did not answer, with an own answer that was read to its clean end and is
no longer than may be kept. -/
structure Populates (settings : Settings) (v : Visit) : Prop where
  read : v.isRead = true
  missed : ∀ x ∈ v.calls, x.isHit = false
  kept : v.own.status = 200 ∨ v.own.status = 201
  captured : ∃ limit, v.reading = some limit ∧ settings.Captures limit v.own.body

end Visit

open Counter in
open Classical in
/-- The counters agree with the requests and the calls so far. -/
structure Ledger.Balanced (settings : Settings) (l : Ledger σ) : Prop where
  lookups : hits.total l.events + misses.total l.events = l.visits.countP Visit.isRead
  hits : hits.total l.events = l.calls.countP Replied.isHit
  failures : ∀ operation, (storeErrors operation).total l.events =
    l.calls.countP (·.failure? = some operation)
  stores : stored.total l.events + (storeErrors .set).total l.events =
    l.visits.countP (·.Populates settings)
  deletions : invalidatedKeys.total l.events =
    ((l.visits.filter Visit.isWrite).flatMap Visit.deletedKeys).length

/-! ## What is reported of the calls -/

open Counter in
structure Agrees (events : List Event) (calls : List Replied) : Prop where
  lookups : hits.total events + misses.total events = calls.countP Replied.isGet
  hits : hits.total events = calls.countP Replied.isHit
  failures : ∀ operation, (storeErrors operation).total events =
    calls.countP (·.failure? = some operation)
  stores : stored.total events + (storeErrors .set).total events = calls.countP Replied.isSet

theorem Counter.total_append (counter : Counter) (a b : List Event) :
    counter.total (a ++ b) = counter.total a + counter.total b := by
  induction a with
  | nil => exact (Nat.zero_add _).symm
  | cons event a ih => exact (congrArg (event.adds counter + ·) ih).trans (Nat.add_assoc ..).symm

theorem Agrees.nil {events : List Event}
    (h : ∀ counter : Counter, counter ≠ .invalidatedKeys → counter.total events = 0) :
    Agrees events [] := by
  constructor <;> simp [h]

theorem Agrees.append {events events' : List Event} {calls calls' : List Replied}
    (h : Agrees events calls) (h' : Agrees events' calls') :
    Agrees (events ++ events') (calls ++ calls') := by
  constructor
  · rw [Counter.total_append, Counter.total_append, List.countP_append, ← h.lookups, ← h'.lookups]
    omega
  · rw [Counter.total_append, List.countP_append, h.hits, h'.hits]
  · intro operation
    rw [Counter.total_append, List.countP_append, h.failures, h'.failures]
  · rw [Counter.total_append, Counter.total_append, List.countP_append, ← h.stores, ← h'.stores]
    omega

theorem agrees_report (x : Replied) : Agrees x.report [x] := by
  obtain ⟨c, reply⟩ := x
  cases c with
  | get key =>
    cases reply with
    | ok body => exact ⟨rfl, rfl, fun operation => by cases operation <;> rfl, rfl⟩
    | error e => cases e <;> exact ⟨rfl, rfl, fun operation => by cases operation <;> rfl, rfl⟩
  | set key value ttl | keysMatching pattern | delete key | clear | ping =>
    cases reply <;> exact ⟨rfl, rfl, fun operation => by cases operation <;> rfl, rfl⟩

theorem agrees_reports (calls : List Replied) : Agrees (calls.flatMap Replied.report) calls := by
  induction calls with
  | nil => exact Agrees.nil fun _ _ => rfl
  | cons x calls ih => exact (agrees_report x).append ih

theorem invalidatedKeys_reports (calls : List Replied) :
    Counter.invalidatedKeys.total (calls.flatMap Replied.report) = 0 := by
  induction calls with
  | nil => rfl
  | cons x calls ih =>
    rw [List.flatMap_cons, Counter.total_append, ih]
    obtain ⟨c, reply⟩ := x
    cases c with
    | get key =>
      cases reply with
      | ok body => rfl
      | error e => cases e <;> rfl
    | set key value ttl | keysMatching pattern | delete key | clear | ping =>
      cases reply <;> rfl

/-! ## Sweeps -/

/-- The progress of an invalidation is what the calls so far have come to. -/
structure Tallied (sweep : Sweep) (calls : List Replied) : Prop where
  removed : sweep.removed = calls.filterMap Replied.deleted?
  failures : sweep.failures = calls.flatMap Replied.report
  nodup : sweep.removed.Nodup

variable {store : Store σ} {sweep : Sweep} {calls : List Replied} {s : σ × List Replied}

theorem Tallied.snoc (h : Tallied sweep calls) (x : Replied) (hx : x.deleted? = none) :
    Tallied { sweep with failures := sweep.failures ++ x.report } (calls ++ [x]) := by
  refine ⟨?_, ?_, h.nodup⟩
  · rw [List.filterMap_append, List.filterMap_cons_none hx, h.removed]
    exact (List.append_nil _).symm
  · rw [List.flatMap_append, h.failures, List.flatMap_singleton]

theorem Tallied.snoc_deleted (h : Tallied sweep calls) {key : Key} (hnew : key ∉ sweep.removed) :
    Tallied { sweep with removed := sweep.removed ++ [key] }
      (calls ++ [⟨.delete key, .ok ()⟩]) := by
  refine ⟨?_, ?_, ?_⟩
  · rw [List.filterMap_append, h.removed]
    rfl
  · rw [List.flatMap_append, h.failures]
    exact (List.append_nil _).symm
  · change (sweep.removed ++ [key]).Nodup
    rw [← List.concat_eq_append]
    exact h.nodup.concat hnew

def Tallies (store : Store σ) (s : σ × List Replied) (p : Program Sweep) : Prop :=
  Tallied (p.run store.recorded s).1 (p.run store.recorded s).2.2

theorem Tallies.bind {p : Program Sweep} {f : Sweep → Program Sweep} (h : Tallies store s p)
    (hf : ∀ {sweep s}, Tallied sweep s.2 → Tallies store s (f sweep)) :
    Tallies store s (p.bind f) := by
  unfold Tallies
  rw [Program.run_bind]
  exact hf h

theorem tallies_dropKey (key : Key) (h : Tallied sweep s.2) :
    Tallies store s (dropKey sweep key) := by
  unfold dropKey
  by_cases hgone : sweep.removed.contains key = true
  · rw [if_pos hgone]
    exact h
  · rw [if_neg hgone]
    rcases hstore : store (.delete key) s.1 with ⟨reply, t⟩
    cases reply with
    | ok _ =>
      simp only [Tallies, Program.run, Store.recorded, hstore]
      exact h.snoc_deleted fun hin => hgone (List.contains_iff_mem.mpr hin)
    | error e =>
      simp only [Tallies, Program.run, Store.recorded, hstore]
      exact h.snoc ⟨.delete key, .error e⟩ rfl

theorem tallies_dropKeys (keys : List Key) (h : Tallied sweep s.2) :
    Tallies store s (dropKeys sweep keys) := by
  induction keys generalizing sweep s with
  | nil => exact h
  | cons key keys ih => exact (tallies_dropKey key h).bind ih

theorem tallies_dropMatching (pattern : Pattern) (h : Tallied sweep s.2) :
    Tallies store s (dropMatching sweep pattern) := by
  unfold dropMatching
  rcases hstore : store (.keysMatching pattern) s.1 with ⟨reply, t⟩
  cases reply with
  | ok keys =>
    simp only [Tallies, Program.run, Store.recorded, hstore]
    refine tallies_dropKeys keys ?_
    simpa [Replied.report] using h.snoc ⟨.keysMatching pattern, .ok keys⟩ rfl
  | error e =>
    simp only [Tallies, Program.run, Store.recorded, hstore]
    exact h.snoc ⟨.keysMatching pattern, .error e⟩ rfl

theorem tallies_sweepAll (patterns : List Pattern) (h : Tallied sweep s.2) :
    Tallies store s (sweepAll sweep patterns) := by
  induction patterns generalizing sweep s with
  | nil => exact h
  | cons pattern patterns ih => exact (tallies_dropMatching pattern h).bind ih

theorem tallies_invalidate (store : Store σ) (s : σ) (patterns : List Pattern) :
    Tallies store (s, []) (invalidate patterns) :=
  tallies_sweepAll patterns ⟨rfl, rfl, List.nodup_nil⟩

theorem Program.Asks.run_recorded {α : Type} {kind : Call → Prop} {p : Program α}
    (h : p.Asks kind) (s : σ) : ∀ x ∈ (p.run store.recorded (s, [])).2.2, kind x.1 := by
  refine h.run_keeps (fun t : σ × List Replied => ∀ x ∈ t.2, kind x.1) ?_ (by simp)
  intro c t hc ht x hx
  rcases List.mem_append.mp hx with hx | hx
  · exact ht x hx
  · obtain rfl := List.mem_singleton.mp hx
    exact hc

/-! ## One request -/

/-- What one answered request has to do with the calls that were made for it. -/
structure Visit.Settled (v : Visit) : Prop where
  agrees : Agrees v.answer.events v.calls
  gets : v.calls.countP Replied.isGet = if v.isRead then 1 else 0
  sets : v.calls.countP Replied.isSet = 0
  deletions : Counter.invalidatedKeys.total v.answer.events =
    if v.isWrite then v.deletedKeys.length else 0
  keptAs : v.answer.keptAs.isSome = true ↔ v.isRead = true ∧
    (∀ x ∈ v.calls, x.isHit = false) ∧ (v.own.status = 200 ∨ v.own.status = 201)
  response : v.answer.keptAs.isSome = true → v.answer.response = v.own

variable {v : Visit}

theorem settled_pass (hread : v.isRead = false) (hwrite : v.isWrite = false)
    (hanswer : v.answer = ⟨v.own, none, []⟩) (hcalls : v.calls = []) : v.Settled where
  agrees := by
    rw [hanswer, hcalls]
    exact Agrees.nil fun _ _ => rfl
  gets := by simp [hread, hcalls]
  sets := by simp [hcalls]
  deletions := by
    rw [hwrite, hanswer]
    rfl
  keptAs := by simp [hread, hanswer]
  response := by simp [hanswer]

theorem settled_found {key : Key} {body : Bytes} (hread : v.isRead = true)
    (hwrite : v.isWrite = false) (hanswer : v.answer = ⟨replay body, none, [.hit]⟩)
    (hcalls : v.calls = [⟨.get key, .ok body⟩]) : v.Settled where
  agrees := by
    rw [hanswer, hcalls]
    exact agrees_report ⟨.get key, .ok body⟩
  gets := by simp [hread, hcalls, Replied.isGet]
  sets := by simp [hcalls, Replied.isSet]
  deletions := by
    rw [hwrite, hanswer]
    rfl
  keptAs := by simp [hanswer, hcalls, Replied.isHit]
  response := by simp [hanswer]

theorem settled_missed {key : Key} {e : StoreError} (hread : v.isRead = true)
    (hwrite : v.isWrite = false)
    (hanswer : v.answer = ⟨v.own, if isKept v.own.status then some key else none,
      Replied.report ⟨.get key, .error e⟩⟩)
    (hcalls : v.calls = [⟨.get key, .error e⟩]) : v.Settled where
  agrees := by
    rw [hanswer, hcalls]
    exact agrees_report ⟨.get key, .error e⟩
  gets := by simp [hread, hcalls, Replied.isGet]
  sets := by simp [hcalls, Replied.isSet]
  deletions := by
    rw [hwrite, hanswer]
    cases e <;> rfl
  keptAs := by simp [hread, hanswer, hcalls, Replied.isHit, isKept]
  response := by simp [hanswer]

theorem settled_write {patterns : List Pattern} (hread : v.isRead = false)
    (hwrite : v.isWrite = true) (hanswer : v.answer = ⟨v.own, none, sweep.events⟩)
    (htally : Tallied sweep v.calls) (hsweeps : ∀ x ∈ v.calls, x.1.Sweeps patterns) :
    v.Settled where
  agrees := by
    have hcount : Agrees [.invalidated sweep.removed.length] [] := by
      refine Agrees.nil fun counter hne => ?_
      cases counter <;> first | rfl | exact absurd rfl hne
    rw [hanswer, ← List.append_nil v.calls]
    exact (htally.failures ▸ agrees_reports v.calls).append hcount
  gets := by
    rw [hread, if_neg Bool.false_ne_true, List.countP_eq_zero]
    rintro ⟨c, reply⟩ hx hget
    cases c with
    | get key => exact hsweeps _ hx
    | set key value ttl | keysMatching pattern | delete key | clear | ping => cases hget
  sets := by
    rw [List.countP_eq_zero]
    rintro ⟨c, reply⟩ hx hset
    cases c with
    | set key value ttl => exact hsweeps _ hx
    | get key | keysMatching pattern | delete key | clear | ping => cases hset
  deletions := by
    -- The sweep deletes no key twice, so none is counted twice.
    have hkeys : v.deletedKeys = sweep.removed := by
      rw [Visit.deletedKeys, ← htally.removed]
      exact htally.nodup.dedup
    rw [hwrite, if_pos rfl, hkeys, hanswer]
    change Counter.invalidatedKeys.total (sweep.failures ++ [.invalidated _]) = _
    rw [Counter.total_append, htally.failures, invalidatedKeys_reports, Nat.zero_add]
    rfl
  keptAs := by simp [hread, hanswer]
  response := by simp [hanswer]

variable {settings : Settings}

theorem settled_attend (henabled : settings.enabled = true) (store : Store σ) (s : σ) (r : Request)
    (own : Response) : (attend settings store s r own).1.Settled := by
  by_cases hget : r.method = .get
  · have hread : r.method.isRead = true := decide_eq_true hget
    have hwrite : r.method.isWrite = false := by simp [Method.isWrite, hread]
    have hcourse := course_of_read henabled hget
    rcases hreply : store (.get (settings.space.key (target r))) s with ⟨reply, t⟩
    have hrecorded : store.recorded (.get (settings.space.key (target r))) (s, []) =
        (reply, t, [⟨.get (settings.space.key (target r)), reply⟩]) := by
      simp [Store.recorded, hreply]
    unfold attend
    cases reply with
    | ok body =>
      rw [respond_found hcourse (congrArg Prod.fst hrecorded), hrecorded]
      exact settled_found hread hwrite rfl rfl
    | error e =>
      rw [respond_missed hcourse (congrArg Prod.fst hrecorded), hrecorded]
      exact settled_missed hread hwrite rfl rfl
  · have hread : r.method.isRead = false := decide_eq_false hget
    by_cases hpass : r.method.isPassthrough = true
    · have hwrite : r.method.isWrite = false := by simp [Method.isWrite, hpass]
      unfold attend
      rw [respond_pass (course_of_passthrough hpass)]
      exact settled_pass hread hwrite rfl rfl
    · have hwrite : r.method.isWrite = true := by simp [Method.isWrite, hread, hpass]
      unfold attend
      rw [respond_write (course_of_write henabled hwrite)]
      exact settled_write hread hwrite rfl (tallies_invalidate store s _)
        ((asks_invalidate _).run_recorded s)

/-! ## One reading -/

variable {key : Key} {limit : Option Nat}

theorem total_of_afterReading_done {reading : Reading} {events : List Event}
    (h : afterReading settings key reading = .done events) (counter : Counter) :
    counter.total events = 0 := by
  unfold afterReading at h
  cases hfailure : reading.items.failure? with
  | some reason =>
    -- A body that fails is reported, but no counter counts it.
    simp only [hfailure] at h
    cases h
    rfl
  | none =>
    simp only [hfailure] at h
    split at h
    · split at h
      · cases h
      · cases h
        rfl
    · cases h
      rfl

theorem run_commit_recorded (settings : Settings) (store : Store σ) (key : Key) (body : Bytes)
    (s : σ) :
    ∃ x : Replied, x.isSet = true ∧
      ((commit settings key body).run store.recorded (s, [])).1 = x.report ∧
      ((commit settings key body).run store.recorded (s, [])).2.2 = [x] := by
  unfold commit
  rcases hstore : store (.set key body settings.ttl) s with ⟨reply, t⟩
  refine ⟨⟨.set key body settings.ttl, reply⟩, rfl, ?_⟩
  cases reply <;> simp [Program.run, Store.recorded, hstore, Replied.report]

theorem Visit.Settled.readTo (h : v.Settled) (limit : Option Nat) : (v.readTo limit).Settled :=
  ⟨h.agrees, h.gets, h.sets, h.deletions, h.keptAs, h.response⟩

theorem populates_iff (settings : Settings) (limit : Option Nat) (hsettled : v.Settled) :
    (v.readTo limit).Populates settings ↔
      v.answer.keptAs.isSome = true ∧ settings.Captures limit v.answer.response.body := by
  constructor
  · rintro ⟨hread, hmissed, hkept, limit', hreading, hcaptures⟩
    obtain rfl : limit = limit' := Option.some.inj hreading
    have hkeep := hsettled.keptAs.mpr ⟨hread, hmissed, hkept⟩
    exact ⟨hkeep, by rwa [hsettled.response hkeep]⟩
  · rintro ⟨hkeep, hcaptures⟩
    obtain ⟨hread, hmissed, hkept⟩ := hsettled.keptAs.mp hkeep
    rw [hsettled.response hkeep] at hcaptures
    exact ⟨hread, hmissed, hkept, limit, rfl, hcaptures⟩

open Classical in
/-- What reading an answer reports, and which calls it makes: one that stores the body if it is to
be stored, and else none. -/
structure ReadingSettled (settings : Settings) (v : Visit) (limit : Option Nat) (events : List Event)
    (calls : List Replied) : Prop where
  agrees : Agrees events calls
  gets : calls.countP Replied.isGet = 0
  sets : calls.countP Replied.isSet =
    if (v.readTo limit).Populates settings then 1 else 0
  deletions : Counter.invalidatedKeys.total events = 0

theorem readingSettled_stored (hpopulates : (v.readTo limit).Populates settings)
    {x : Replied} (hset : x.isSet = true) : ReadingSettled settings v limit x.report [x] where
  agrees := agrees_report x
  gets := by
    obtain ⟨c, reply⟩ := x
    cases c <;> first | rfl | cases hset
  sets := by simp [hpopulates, hset]
  deletions := by
    have hreports := invalidatedKeys_reports [x]
    rwa [List.flatMap_singleton] at hreports

theorem readingSettled_nothing (hpopulates : ¬ (v.readTo limit).Populates settings)
    {events : List Event} (h : ∀ counter : Counter, counter.total events = 0) :
    ReadingSettled settings v limit events [] where
  agrees := Agrees.nil fun counter _ => h counter
  gets := rfl
  sets := by simp [hpopulates]
  deletions := h _

theorem readingSettled_deliver (settings : Settings) (hsettled : v.Settled) (store : Store σ)
    (s : σ) (limit : Option Nat) :
    let t := v.answer.deliver settings store.recorded limit (s, [])
    ReadingSettled settings v limit t.2.1 t.2.2.2 := by
  intro t
  have hiff := populates_iff settings limit hsettled
  cases hkeptAs : v.answer.keptAs with
  | none =>
    have ht : t = (v.answer.response.body.read limit, [], s, []) := by
      simp only [t, Answer.deliver, hkeptAs]
    rw [ht]
    exact readingSettled_nothing (by simp [hiff, hkeptAs]) fun _ => rfl
  | some key =>
    have ht : t = (v.answer.response.body.read limit,
        (afterReading settings key (v.answer.response.body.read limit)).run store.recorded
          (s, [])) := by
      simp only [t, Answer.deliver, hkeptAs]
    rw [ht]
    by_cases hcaptures : settings.Captures limit v.answer.response.body
    · rw [afterReading_of_captures key hcaptures]
      obtain ⟨x, hset, hevents, hcalls⟩ :=
        run_commit_recorded settings store key v.answer.response.body.bytes s
      rw [hevents, hcalls]
      exact readingSettled_stored (by simp [hiff, hkeptAs, hcaptures]) hset
    · obtain ⟨events, hdone⟩ := afterReading_of_not_captures key hcaptures
      rw [hdone]
      exact readingSettled_nothing (by simp [hiff, hcaptures]) (total_of_afterReading_done hdone)

/-! ## All requests -/

open Classical in
structure Ledger.Kept (settings : Settings) (l : Ledger σ) : Prop where
  agrees : Agrees l.events l.calls
  gets : l.calls.countP Replied.isGet = l.visits.countP Visit.isRead
  sets : l.calls.countP Replied.isSet = l.visits.countP (·.Populates settings)
  deletions : Counter.invalidatedKeys.total l.events =
    ((l.visits.filter Visit.isWrite).flatMap Visit.deletedKeys).length
  settled : ∀ v ∈ l.visits, v.Settled

variable {l : Ledger σ}

theorem Visit.not_populates_of_unread (h : v.reading = none) : ¬ v.Populates settings := by
  rintro ⟨-, -, -, limit, hreading, -⟩
  rw [h] at hreading
  cases hreading

theorem Ledger.Kept.request (h : l.Kept settings) (henabled : settings.enabled = true)
    (store : Store σ) (r : Request) (own : Response) :
    (l.request settings store r own).Kept settings := by
  have hv := settled_attend henabled store l.store r own
  have hunread : (attend settings store l.store r own).1.reading = none := rfl
  unfold Ledger.request
  generalize attend settings store l.store r own = attended at hv hunread
  obtain ⟨v, s⟩ := attended
  simp only at hv hunread
  constructor
  · exact h.agrees.append hv.agrees
  · rw [List.countP_append, List.countP_append, List.countP_singleton, h.gets, hv.gets]
  · rw [List.countP_append, List.countP_append, List.countP_singleton, h.sets, hv.sets]
    simp [Visit.not_populates_of_unread hunread]
  · rw [Counter.total_append, h.deletions, hv.deletions, List.filter_append, List.flatMap_append,
      List.length_append]
    cases hwrite : v.isWrite <;> simp [hwrite]
  · exact List.forall_mem_append.mpr ⟨h.settled, List.forall_mem_singleton.mpr hv⟩

theorem Ledger.Kept.read (h : l.Kept settings) (store : Store σ) {i : Nat}
    (hi : l.visits[i]? = some v) (hunread : v.reading = none) (limit : Option Nat) :
    (l.read settings store i v limit).Kept settings := by
  obtain ⟨hlt, rfl⟩ := List.getElem?_eq_some_iff.mp hi
  have hreading :=
    readingSettled_deliver settings (h.settled _ (List.getElem_mem hlt)) store l.store limit
  have hnot : ¬ l.visits[i].Populates settings := Visit.not_populates_of_unread hunread
  unfold Ledger.read
  generalize l.visits[i].answer.deliver settings store.recorded limit (l.store, []) = delivered
    at hreading
  obtain ⟨_, events, s, calls⟩ := delivered
  simp only at hreading
  -- The visit stands at one place of the list, and only its reading changes.
  obtain ⟨before, after, hvisits, -, hset⟩ : ∃ before after,
      l.visits = before ++ l.visits[i] :: after ∧ before.length = i ∧
        l.visits.set i (l.visits[i].readTo limit) = before ++ l.visits[i].readTo limit :: after :=
    List.exists_of_set hlt
  have hgets := h.gets
  have hsets := h.sets
  have hdeletions := h.deletions
  have hsettled := h.settled
  rw [hvisits] at hgets hsets hdeletions hsettled
  generalize l.visits[i] = v at *
  rw [hset]
  constructor
  · exact h.agrees.append hreading.agrees
  · rw [List.countP_append, hgets, hreading.gets, List.countP_append, List.countP_append]
    rfl
  · rw [List.countP_append, hsets, hreading.sets, List.countP_append, List.countP_append,
      List.countP_cons_of_neg (by simpa using hnot)]
    by_cases hpopulates : (v.readTo limit).Populates settings
    · rw [if_pos hpopulates, List.countP_cons_of_pos (by simpa using hpopulates)]
      rfl
    · rw [if_neg hpopulates, List.countP_cons_of_neg (by simpa using hpopulates)]
      rfl
  · rw [Counter.total_append, hdeletions, hreading.deletions, Nat.add_zero, List.filter_append,
      List.filter_append, List.flatMap_append, List.flatMap_append, List.filter_cons,
      List.filter_cons]
    have hwrite : (v.readTo limit).isWrite = v.isWrite := rfl
    rw [hwrite]
    cases v.isWrite <;> rfl
  · intro u hu
    rcases List.mem_append.mp hu with hu | hu
    · exact hsettled u (List.mem_append_left _ hu)
    rcases List.mem_cons.mp hu with rfl | hu
    · exact (hsettled v (by simp)).readTo limit
    · exact hsettled u (by simp [hu])

theorem Ledger.Kept.next (h : l.Kept settings) (henabled : settings.enabled = true)
    (store : Store σ) (turn : Turn) : (l.next settings store turn).Kept settings := by
  cases turn with
  | request r own => exact h.request henabled store r own
  | read i limit =>
    unfold Ledger.next
    simp only
    split
    · next v hi =>
      split
      · next hunread => exact h.read store hi hunread limit
      · exact h
    · exact h

theorem kept_after (henabled : settings.enabled = true) (store : Store σ) (s : σ)
    (turns : List Turn) : (Ledger.after settings store s turns).Kept settings := by
  induction turns using List.reverseRecOn with
  | nil => exact ⟨Agrees.nil fun _ _ => rfl, rfl, rfl, rfl, nofun⟩
  | append_singleton turns turn ih =>
    unfold Ledger.after at ih ⊢
    rw [List.foldl_append]
    exact ih.next henabled store turn

/-- After any requests before any store, with answers that were read or were not: the hits and the
misses are as many as the reads, and the hits as many as the lookups that found a body. For each
operation the errors are as many as its failed calls. The bodies stored and not stored are as many
as the answers to be stored that were read to the end. The deleted keys are those of each write,
each key counted once in a write. -/
theorem counters_account_for_requests (settings : Settings) (henabled : settings.enabled = true)
    (store : Store σ) (s : σ) (turns : List Turn) :
    (Ledger.after settings store s turns).Balanced settings := by
  have h := kept_after henabled store s turns
  exact ⟨h.agrees.lookups.trans h.gets, h.agrees.hits, h.agrees.failures,
    h.agrees.stores.trans h.sets, h.deletions⟩

/-- The store in memory, except that every fourth call fails. -/
def unreliable : Store (Memory × Nat) := fun c (m, n) =>
  if n % 4 = 3 then (.error (.unavailable "down"), m, n + 1)
  else
    let (r, m) := Memory.store 0 c m
    (r, m, n + 1)

/-- A list is asked for three times before an answer is read. Of the three answers the first is not
stored because the call fails, the second is stored, and the third is not read to the end. Then the
list is found once; one listing fails, the next finds the key, and the last lookup fails. -/
def listingsAndCreations : List Turn :=
  let list : Request := ⟨.get, ⟨"/api/v1/tasks".toList, none⟩, [], []⟩
  let creation : Request := ⟨.post, ⟨"/api/v1/tasks".toList, none⟩, [], []⟩
  let own : Response := ⟨200, [], [.ok [0x5B], .ok [0x5D]], none⟩
  [.request list own, .request list own, .request list own, .read 0 none, .read 1 none,
    .read 2 (some 2), .request list own, .request creation own, .request creation own,
    .request list own]

theorem counters_before_unreliable_store :
    Settings.standard.enabled = true ∧
    (Ledger.after .standard unreliable ([], 0) listingsAndCreations).Balanced .standard ∧
    Counter.all.map (fun counter =>
      counter.total (Ledger.after .standard unreliable ([], 0) listingsAndCreations).events) =
        [1, 4, 1, 1, 1, 1, 1, 0] := by
  refine ⟨rfl, counters_account_for_requests .standard rfl unreliable ([], 0) _, ?_⟩
  cbv

end TaskBoard.Cache
