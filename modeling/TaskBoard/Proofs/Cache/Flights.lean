import TaskBoard.Proofs.Cache.Journal
import TaskBoard.Proofs.Cache.Respond

/-!
# Requests in flight

Any number of requests are on their way through the overlay at the same time. Each makes its calls
in its own order; between two of them others may make theirs, requests may come or be given up, and
time may pass. A request that nothing comes between is answered as if it were alone.
-/

namespace TaskBoard.Cache

open Http Time

/-! ## One request -/

/-- Where a request waits without a call to make. -/
inductive Halt where
  /-- The origin has it next. What it answers to a read may be kept. -/
  | atOrigin (keep : Option Key) (events : List Event)
  /-- The client is about to read the answer. -/
  | answered (answer : Answer)
  | ended

structure Flight where
  request : Request
  /-- The calls to be made until it halts. -/
  program : Program Halt

def invalidating (patterns : List Pattern) : Program Halt :=
  (invalidate patterns).bind fun sweep => .done (.atOrigin none sweep.events)

def entering (settings : Settings) (r : Request) : Program Halt :=
  match course settings r with
  | .pass => .done (.atOrigin none [])
  | .write patterns => invalidating patterns
  | .read key => (lookup key).bind fun
    | (some body, events) => .done (.answered ⟨replay body, none, events⟩)
    | (none, events) => .done (.atOrigin (some key) events)

def answering (keep : Option Key) (events : List Event) (response : Response) : Answer :=
  ⟨response, if isKept response.status then keep else none, events⟩

def reading (settings : Settings) (answer : Answer) (limit : Option Nat) : Program Halt :=
  match answer.keptAs with
  | none => .done .ended
  | some key =>
    (afterReading settings key (answer.response.body.read limit)).bind fun _ => .done .ended

/-! ## All requests -/

structure Traffic where
  clock : Instant
  memory : Memory
  /-- The calls so far, each with the number of the request that made it. -/
  journal : List (Nat × Made)
  flights : List Flight

inductive Move where
  | pause (d : Duration)
  | enter (r : Request)
  /-- The request makes the call that it has next. -/
  | call (i : Nat)
  | answer (i : Nat) (response : Response)
  /-- The client reads this many pieces of the answer, or all. -/
  | read (i : Nat) (limit : Option Nat)
  /-- Nobody waits for the request any longer. -/
  | drop (i : Nat)

namespace Traffic

variable (settings : Settings)

def goOn (t : Traffic) (i : Nat) (f : Flight) (p : Program Halt) : Traffic :=
  { t with flights := t.flights.set i { f with program := p } }

def call (t : Traffic) (i : Nat) (f : Flight) (c : Call) (more : c.Reply → Program Halt) :
    Traffic :=
  let (reply, m) := Memory.store t.clock c t.memory
  { t.goOn i f (more reply) with
    memory := m
    journal := t.journal ++ [(i, ⟨t.clock, c⟩)] }

/-- A move for which a request is not in the right place changes nothing. -/
def next (t : Traffic) : Move → Traffic
  | .pause d => { t with clock := t.clock + d }
  | .enter r => { t with flights := t.flights ++ [⟨r, entering settings r⟩] }
  | .call i =>
    match t.flights[i]? with
    | some ⟨r, .ask c more⟩ => t.call i ⟨r, .ask c more⟩ c more
    | _ => t
  | .answer i response =>
    match t.flights[i]? with
    | some ⟨r, .done (.atOrigin keep events)⟩ =>
      t.goOn i ⟨r, .done (.atOrigin keep events)⟩
        (.done (.answered (answering keep events response)))
    | _ => t
  | .read i limit =>
    match t.flights[i]? with
    | some ⟨r, .done (.answered answer)⟩ =>
      t.goOn i ⟨r, .done (.answered answer)⟩ (reading settings answer limit)
    | _ => t
  | .drop i =>
    match t.flights[i]? with
    | some f => t.goOn i f (.done .ended)
    | none => t

def after (t : Traffic) (moves : List Move) : Traffic := moves.foldl (next settings) t

def opening (start : Instant) (m : Memory) : Traffic := ⟨start, m, [], []⟩

end Traffic

/-! ## What a move does -/

/-- How a request goes on that makes no call. -/
inductive Resumes (settings : Settings) : Program Halt → Program Halt → Prop
  | answered (keep : Option Key) (events : List Event) (response : Response) :
    Resumes settings (.done (.atOrigin keep events))
      (.done (.answered (answering keep events response)))
  | read (answer : Answer) (limit : Option Nat) :
    Resumes settings (.done (.answered answer)) (reading settings answer limit)
  | dropped (p : Program Halt) : Resumes settings p (.done .ended)

inductive Traffic.Passes (settings : Settings) (t : Traffic) : Traffic → Prop
  | pause (d : Duration) : Passes settings t { t with clock := t.clock + d }
  | enter (r : Request) :
    Passes settings t { t with flights := t.flights ++ [⟨r, entering settings r⟩] }
  | call (i : Nat) (f : Flight) (c : Call) (more : c.Reply → Program Halt)
    (hf : t.flights[i]? = some f) (hp : f.program = .ask c more) :
    Passes settings t (t.call i f c more)
  | resume (i : Nat) (f : Flight) (p : Program Halt) (hf : t.flights[i]? = some f)
    (hp : Resumes settings f.program p) : Passes settings t (t.goOn i f p)
  | idle : Passes settings t t

variable {settings : Settings}

theorem Traffic.passes_next (settings : Settings) (t : Traffic) (move : Move) :
    t.Passes settings (t.next settings move) := by
  cases move with
  | pause d => exact .pause d
  | enter r => exact .enter r
  | call i =>
    simp only [next]
    split
    · next r c more hf => exact .call i _ c more hf rfl
    · exact .idle
  | answer i response =>
    simp only [next]
    split
    · next r keep events hf => exact .resume i _ _ hf (.answered keep events response)
    · exact .idle
  | read i limit =>
    simp only [next]
    split
    · next r answer hf => exact .resume i _ _ hf (.read answer limit)
    · exact .idle
  | drop i =>
    simp only [next]
    split
    · next f hf => exact .resume i f _ hf (.dropped f.program)
    · exact .idle

/-! ## A request alone -/

variable {σ ω : Type} {store : Store σ} {r : Request} {origin : ω → Response × ω} {s : σ} {w : ω}

/-- Up to its first halt a request does what `respond` does before the origin is asked. -/
theorem run_entering (settings : Settings) (store : Store σ) (r : Request)
    (origin : ω → Response × ω) (s : σ) (w : ω) :
    let (halt, s') := (entering settings r).run store s
    match halt with
    | .atOrigin keep events => respond settings store r origin s w =
        (answering keep events (origin w).1, s', (origin w).2)
    | .answered answer => respond settings store r origin s w = (answer, s', w)
    | .ended => False := by
  unfold entering
  cases hc : course settings r with
  | pass => simpa [Program.run, answering] using respond_pass hc
  | write patterns =>
    simp only [invalidating, Program.run_bind]
    rw [Program.run, respond_write hc]
    simp [answering]
  | read key =>
    simp only [Program.run_bind]
    cases hreply : (store (.get key) s).1 with
    | ok body =>
      rw [run_lookup_found hreply]
      exact respond_found hc hreply
    | error e =>
      rw [run_lookup_missed hreply]
      exact respond_missed hc hreply

theorem run_reading (settings : Settings) (store : Store σ) (answer : Answer)
    (limit : Option Nat) (s : σ) :
    ((reading settings answer limit).run store s).2 =
      (answer.deliver settings store limit s).2.2 := by
  unfold reading Answer.deliver
  cases answer.keptAs with
  | none => rfl
  | some key =>
    simp only [Program.run_bind]
    rfl

namespace Traffic

/-- What is left by a request that makes its calls with nothing between them. -/
theorem after_calls (settings : Settings) {t : Traffic} {i : Nat} {r : Request}
    {p : Program Halt} (h : t.flights[i]? = some ⟨r, p⟩) :
    ∃ n,
      (t.after settings (List.replicate n (.call i))).clock = t.clock ∧
      (t.after settings (List.replicate n (.call i))).memory =
        (p.run (Memory.store t.clock) t.memory).2 ∧
      (t.after settings (List.replicate n (.call i))).flights[i]? =
        some ⟨r, .done (p.run (Memory.store t.clock) t.memory).1⟩ := by
  induction p generalizing t with
  | done halt => exact ⟨0, rfl, rfl, h⟩
  | ask c more ih =>
    have hi : i < t.flights.length := (List.getElem?_eq_some_iff.mp h).1
    have hnext : t.next settings (.call i) = t.call i ⟨r, .ask c more⟩ c more := by
      simp only [next, h]
    obtain ⟨n, hn⟩ := ih (Memory.store t.clock c t.memory).1 (t := t.next settings (.call i))
      (by rw [hnext]; exact List.getElem?_set_self hi)
    refine ⟨n + 1, ?_⟩
    rw [List.replicate_succ]
    rw [hnext] at hn
    simp only [after, List.foldl_cons, hnext]
    exact hn

theorem flights_goOn {t : Traffic} {i : Nat} {f : Flight} (h : t.flights[i]? = some f)
    (p : Program Halt) : (t.goOn i f p).flights[i]? = some ⟨f.request, p⟩ :=
  List.getElem?_set_self (List.getElem?_eq_some_iff.mp h).1

/-- A request that nothing comes between leaves what `respond` and `deliver` leave. -/
theorem after_alone (settings : Settings) (t : Traffic) (r : Request) (response : Response)
    (limit : Option Nat) :
    ∃ n k,
      let i := t.flights.length
      (t.after settings (.enter r :: List.replicate n (.call i) ++
        .answer i response :: .read i limit :: List.replicate k (.call i))).memory =
      let answered := respond settings (Memory.store t.clock) r (fun _ => (response, ()))
        t.memory ()
      (answered.1.deliver settings (Memory.store t.clock) limit answered.2.1).2.2 := by
  have hentered := run_entering settings (Memory.store t.clock) r (fun _ => (response, ()))
    t.memory ()
  obtain ⟨n, hclock, hmemory, hflight⟩ := after_calls settings (t := t.next settings (.enter r))
    (i := t.flights.length) (r := r) (p := entering settings r) (by simp [next])
  simp only [next] at hclock hmemory hflight
  rcases hrun : (entering settings r).run (Memory.store t.clock) t.memory with ⟨halt, m⟩
  rw [hrun] at hentered hmemory hflight
  generalize ht₁ : (after settings { t with flights := t.flights ++ [⟨r, entering settings r⟩] }
    (List.replicate n (.call t.flights.length))) = t₁ at hclock hmemory hflight
  -- Wherever it first halts, it comes to have the answer of `respond` read by the client.
  have hread : ∃ answer,
      respond settings (Memory.store t.clock) r (fun _ => (response, ())) t.memory () =
        (answer, m, ()) ∧
      let t₃ := (t₁.next settings (.answer t.flights.length response)).next settings
        (.read t.flights.length limit)
      t₃.flights[t.flights.length]? = some ⟨r, reading settings answer limit⟩ ∧
        t₃.memory = m ∧ t₃.clock = t.clock := by
    cases halt with
    | atOrigin keep events =>
      have hgoOn := flights_goOn hflight (.done (.answered (answering keep events response)))
      refine ⟨_, hentered, ?_⟩
      simp only [next, hflight, hgoOn]
      exact ⟨flights_goOn hgoOn _, hmemory, hclock⟩
    | answered answer =>
      refine ⟨answer, hentered, ?_⟩
      simp only [next, hflight]
      exact ⟨flights_goOn hflight _, hmemory, hclock⟩
    | ended => exact hentered.elim
  obtain ⟨answer, hrespond, hflight₃, hmemory₃, hclock₃⟩ := hread
  obtain ⟨k, -, hmemory₄, -⟩ := after_calls settings hflight₃
  refine ⟨n, k, ?_⟩
  rw [hclock₃, hmemory₃, run_reading] at hmemory₄
  simp only [hrespond, ← hmemory₄, ← ht₁]
  simp only [after, List.foldl_cons, List.foldl_append, List.cons_append, next]

end Traffic

end TaskBoard.Cache
