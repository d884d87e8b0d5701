import TaskBoard.Proofs.RateLimit.SlidingWindow
import TaskBoard.Proofs.Service.Failures

/-!
# Refused requests leave no trace

A request that the limiter refuses still drops the admissions that no longer count at its time. They
would have been dropped by the next request anyhow, and nothing else has changed: what follows goes
on as if the request had never been sent.
-/

namespace TaskBoard.RateLimit

open Time

variable {settings : Settings} {now later : Instant}

/-! ## The queue -/

theorem dropWhile_dropWhile_counts {window : Duration} (hle : now ≤ later) (a : Admissions) :
    (a.dropWhile (!counts window now ·)).dropWhile (!counts window later ·) =
      a.dropWhile (!counts window later ·) := by
  induction a with
  | nil => rfl
  | cons t a ih =>
    cases hnow : counts window now t with
    | true => rw [List.dropWhile_cons_of_neg (by simp [hnow])]
    | false =>
      -- What does not count now does not count later either, so it is dropped on both sides.
      have hlater : counts window later t = false :=
        Bool.eq_false_iff.mpr fun h => by simp [counts_of_le hle h] at hnow
      rw [List.dropWhile_cons_of_pos (by simp [hnow]), ih,
        List.dropWhile_cons_of_pos (by simp [hlater])]

/-- Dropping early what no longer counts changes no later decision, nor what is then kept. -/
theorem allow_dropWhile (hle : now ≤ later) (a : Admissions) :
    allow settings later (a.dropWhile (!counts settings.window now ·)) =
      allow settings later a := by
  unfold allow
  rw [dropWhile_dropWhile_counts hle]

theorem allow_of_refused {a : Admissions} (h : (allow settings now a).1 = .refused) :
    (allow settings now a).2 = a.dropWhile (!counts settings.window now ·) := by
  unfold allow at h ⊢
  simp only at h ⊢
  split at h
  · cases h
  · next hfull => rw [if_neg hfull]

end TaskBoard.RateLimit

namespace TaskBoard.Service

open Http Api Cache Time

variable {σ ρ : Type}

/-! ## Timelines -/

/-- Visits in the order of time, with any time between them. -/
structure Timeline (σ : Type) where
  visits : List (Visit σ)
  inOrder : (visits.map (·.clock)).Pairwise (· ≤ ·)

/-- The timeline on which one visit has not been made. The others come at their times. -/
def Timeline.without (line : Timeline σ) (i : Nat) : Timeline σ :=
  ⟨line.visits.eraseIdx i, line.inOrder.sublist ((line.visits.eraseIdx_sublist i).map _)⟩

/-- What the limiter decides, if there is one. -/
def Settings.verdict? (settings : Settings) (clock : Instant) (a : RateLimit.Admissions) :
    Option RateLimit.Verdict :=
  settings.rateLimit.map fun limit => (RateLimit.allow limit clock a).1

/-- What a visit comes to. -/
structure Served where
  verdict : Option RateLimit.Verdict
  /-- The status, the headers and what the client has read. -/
  seen : Nat × Headers × Reading

section

variable (settings : Settings) (repo : Repository ρ)

def Visit.served (v : Visit σ) (s : State σ ρ) : Served :=
  ⟨settings.verdict? v.clock s.admissions, v.seen settings repo s⟩

def transcript (s : State σ ρ) : List (Visit σ) → List Served
  | [] => []
  | v :: vs => v.served settings repo s :: transcript (v.next settings repo s) vs

end

variable {settings : Settings} {repo : Repository ρ} {limit : RateLimit.Settings}

/-! ## Refusals -/

theorem verdict?_eq (hlimit : settings.rateLimit = some limit) (clock : Instant)
    (a : RateLimit.Admissions) :
    settings.verdict? clock a = some (RateLimit.allow limit clock a).1 := by
  rw [Settings.verdict?, hlimit]
  rfl

theorem refusal?_eq_none_iff {clock : Instant} {a : RateLimit.Admissions} :
    settings.refusal? clock a = none ↔ settings.verdict? clock a ≠ some .refused := by
  unfold Settings.refusal? Settings.verdict?
  cases settings.rateLimit with
  | none => simp
  | some limit => cases h : (RateLimit.allow limit clock a).1 <;> simp [h]

/-- Only the limiter answers with the status 429. -/
theorem status_route_ne {store : Store σ} {o : Occasion} {r : Request} {s : State σ ρ} :
    (route settings store repo o r s).1.response.status ≠ 429 := by
  have horigin : ∀ p, (taskOrigin repo o p r s.repo).1.status ≠ 429 := by
    intro p h429
    have hconcludes : Concludes repo r.method s.repo (taskOrigin repo o p r s.repo) :=
      taskOrigin_concludes p s.repo
    rcases hconcludes with h | ⟨h, -⟩ <;> simp [h429, changes] at h
  by_cases hnowhere : place r.uri.path = .nowhere
  · simp [route_of_nowhere hnowhere, Response.empty]
  · by_cases hhealth : place r.uri.path = .health
    · rw [route_of_health hhealth]
      split
      · cases (store .ping s.store).1 <;> simp [health, Response.json]
      · simp [notAllowed, Response.empty]
    · rw [route_of_tasks hnowhere hhealth]
      cases settings.cache with
      | none => exact horigin _
      | some cache =>
        let origin := taskOrigin repo o (place r.uri.path) r
        have hresponse : (respond cache store r origin s.store s.repo).1.response =
            (origin s.repo).1 ∨ ∃ body,
              (respond cache store r origin s.store s.repo).1.response = replay body :=
          respond_response
        rcases hresponse with h | ⟨body, h⟩
        · exact h ▸ horigin _
        · have hok : (replay body).status = 200 := rfl
          exact h ▸ hok ▸ by decide

theorem verdict?_of_status {v : Visit σ} {s : State σ ρ}
    (h : (v.seen settings repo s).1 = 429) :
    settings.verdict? v.clock s.admissions = some .refused := by
  by_contra hverdict
  rw [status_seen, Visit.answer, handle_of_admitted (refusal?_eq_none_iff.mpr hverdict),
    status_outgoing] at h
  exact status_route_ne h

theorem next_of_refused (hlimit : settings.rateLimit = some limit) {v : Visit σ} {s : State σ ρ}
    (h : (RateLimit.allow limit v.clock s.admissions).1 = .refused) :
    v.next settings repo s = { s with
      admissions := s.admissions.dropWhile (!RateLimit.counts limit.window v.clock ·) } := by
  have hrefusal : settings.refusal? v.clock s.admissions =
      some (ApiError.rateLimited (RateLimit.retryAfter limit)).response := by
    simp [Settings.refusal?, hlimit, h]
  have hadmissions : settings.admissions v.clock s.admissions =
      s.admissions.dropWhile (!RateLimit.counts limit.window v.clock ·) := by
    simp [Settings.admissions, hlimit, RateLimit.allow_of_refused h]
  unfold Visit.next Visit.answer deliver
  rw [handle_of_refused hrefusal, hadmissions]
  cases settings.cache with
  | none => rfl
  | some cache => simp only [outgoing, deliver_of_not_kept]

/-! ## What cannot be told apart -/

/-- From this time on the two are served alike: they differ at most in admissions on which the
limiter decides the same. -/
structure Alike (limit : RateLimit.Settings) (now : Instant) (s t : State σ ρ) : Prop where
  store : s.store = t.store
  repo : s.repo = t.repo
  decisions : ∀ later, now ≤ later →
    RateLimit.allow limit later s.admissions = RateLimit.allow limit later t.admissions

variable {now : Instant} {s t : State σ ρ} {v : Visit σ}

theorem Alike.refl (limit : RateLimit.Settings) (now : Instant) (s : State σ ρ) :
    Alike limit now s s := ⟨rfl, rfl, fun _ _ => rfl⟩

theorem alike_of_refused (hlimit : settings.rateLimit = some limit)
    (h : (RateLimit.allow limit v.clock s.admissions).1 = .refused) :
    Alike limit v.clock (v.next settings repo s) s := by
  rw [next_of_refused hlimit h]
  exact ⟨rfl, rfl, fun later hle => RateLimit.allow_dropWhile hle s.admissions⟩

/-- Whoever decides alike keeps the same admissions afterwards: one visit makes both the same. -/
theorem Alike.answer (h : Alike limit now s t) (hlimit : settings.rateLimit = some limit)
    (hle : now ≤ v.clock) : v.answer settings repo s = v.answer settings repo t := by
  obtain ⟨hstore, hrepo, hdecisions⟩ := h
  cases s
  cases t
  simp only at hstore hrepo hdecisions
  subst hstore hrepo
  simp only [Visit.answer, handle, hlimit, hdecisions v.clock hle]

theorem Alike.served (h : Alike limit now s t) (hlimit : settings.rateLimit = some limit)
    (hle : now ≤ v.clock) : v.served settings repo s = v.served settings repo t := by
  unfold Visit.served Visit.seen
  rw [h.answer hlimit hle, verdict?_eq hlimit, verdict?_eq hlimit, h.decisions v.clock hle]

theorem Alike.next (h : Alike limit now s t) (hlimit : settings.rateLimit = some limit)
    (hle : now ≤ v.clock) : v.next settings repo s = v.next settings repo t := by
  unfold Visit.next
  rw [h.answer hlimit hle]

theorem Alike.transcript (h : Alike limit now s t) (hlimit : settings.rateLimit = some limit)
    {visits : List (Visit σ)} (hlater : ∀ v ∈ visits, now ≤ v.clock) :
    transcript settings repo s visits = transcript settings repo t visits ∧
      Alike limit now (after settings repo s visits) (after settings repo t visits) := by
  cases visits with
  | nil => exact ⟨rfl, h⟩
  | cons v visits =>
    have hle : now ≤ v.clock := hlater v List.mem_cons_self
    have hnext : v.next settings repo s = v.next settings repo t := h.next hlimit hle
    simp only [Service.transcript, after, List.foldl_cons, h.served hlimit hle, hnext, true_and]
    exact .refl ..

/-! ## Runs -/

/-- Without a visit that was refused, the rest of a run goes on as it did. -/
theorem transcript_eraseIdx (hlimit : settings.rateLimit = some limit) {visits : List (Visit σ)}
    (horder : (visits.map (·.clock)).Pairwise (· ≤ ·)) {i : Nat} {r : Served}
    (hserved : (transcript settings repo s visits)[i]? = some r)
    (hrefused : r.verdict = some .refused) :
    transcript settings repo s (visits.eraseIdx i) =
        (transcript settings repo s visits).eraseIdx i ∧
      ∃ v ∈ visits, Alike limit v.clock (after settings repo s visits)
        (after settings repo s (visits.eraseIdx i)) := by
  induction visits generalizing s i with
  | nil => simp [transcript] at hserved
  | cons v visits ih =>
    rw [List.map_cons, List.pairwise_cons] at horder
    cases i with
    | zero =>
      have hlater : ∀ u ∈ visits, v.clock ≤ u.clock := fun u hu =>
        horder.1 u.clock (List.mem_map_of_mem hu)
      obtain rfl : v.served settings repo s = r := by simpa [transcript] using hserved
      rw [Visit.served, verdict?_eq hlimit, Option.some_inj] at hrefused
      have halike : Alike limit v.clock (v.next settings repo s) s :=
        alike_of_refused hlimit hrefused
      obtain ⟨hsame, hafter⟩ := halike.transcript hlimit hlater
      exact ⟨hsame.symm, v, List.mem_cons_self, hafter⟩
    | succ i =>
      rw [transcript, List.getElem?_cons_succ] at hserved
      obtain ⟨hsame, u, hu, hafter⟩ := ih horder.2 hserved
      refine ⟨?_, u, List.mem_cons_of_mem v hu, hafter⟩
      simp only [List.eraseIdx_cons_succ, transcript, hsame]

theorem exists_of_transcript {visits : List (Visit σ)} {i : Nat} {r : Served}
    (h : (transcript settings repo s visits)[i]? = some r) :
    ∃ (v : Visit σ) (t : State σ ρ), r = v.served settings repo t := by
  induction visits generalizing s i with
  | nil => simp [transcript] at h
  | cons v visits ih =>
    cases i with
    | zero => exact ⟨v, s, by simpa [transcript] using h.symm⟩
    | succ i => exact ih h

/-- A request that is answered with the status 429, wherever it comes in a run, was refused by the
limiter, and the run without it is the same run: every other request is admitted or refused as
before and gets the same answer, the tasks and the store end up the same, and so does every decision
of the limiter from then on. -/
theorem refused_as_if_never_sent (settings : Settings) (repo : Repository ρ) (start : State σ ρ)
    (line : Timeline σ) (i : Nat) (r : Served)
    (hserved : (transcript settings repo start line.visits)[i]? = some r)
    (h429 : r.seen.1 = 429) :
    let whole := after settings repo start line.visits
    let rest := after settings repo start (line.without i).visits
    r.verdict = some .refused ∧
    transcript settings repo start (line.without i).visits =
      (transcript settings repo start line.visits).eraseIdx i ∧
    rest.repo = whole.repo ∧ rest.store = whole.store ∧
    ∀ now, (∀ v ∈ line.visits, v.clock ≤ now) →
      settings.verdict? now rest.admissions = settings.verdict? now whole.admissions := by
  intro whole rest
  have hrefused : r.verdict = some .refused := by
    obtain ⟨v, t, rfl⟩ := exists_of_transcript hserved
    exact verdict?_of_status h429
  obtain ⟨limit, hlimit⟩ : ∃ limit, settings.rateLimit = some limit := by
    obtain ⟨v, t, rfl⟩ := exists_of_transcript hserved
    obtain ⟨limit, hlimit, -⟩ := Option.map_eq_some_iff.mp hrefused
    exact ⟨limit, hlimit⟩
  obtain ⟨hsame, v, hv, hafter⟩ := transcript_eraseIdx hlimit line.inOrder hserved hrefused
  refine ⟨hrefused, hsame, hafter.repo.symm, hafter.store.symm, fun now hnow => ?_⟩
  have hdecision := hafter.decisions now (hnow v hv)
  rw [verdict?_eq hlimit, verdict?_eq hlimit]
  exact congrArg (fun d => some d.1) hdecision.symm

/-- Of two requests in a minute the second is refused, and a third is admitted when the minute is
over. -/
theorem refused_creation_leaves_no_trace :
    let settings : Settings := ⟨some .standard, some ⟨Duration.ofSeconds 60, 1⟩⟩
    let visit (m : Method) (clock : Instant) : Visit Memory :=
      ⟨⟨m, ⟨"/api/v1/tasks".toList, none⟩, [], []⟩, clock, dawn, none, Memory.store clock,
        Memory.store clock⟩
    let line : Timeline Memory :=
      ⟨[visit .get 0, visit .post 1, visit .get (Duration.ofSeconds 60)], by decide⟩
    let start : State Memory TaskList := ⟨[], [], []⟩
    let whole := transcript settings TaskList.repository start line.visits
    whole.map (·.seen.1) = [200, 429, 200] ∧
      transcript settings TaskList.repository start (line.without 1).visits =
        whole.eraseIdx 1 := by
  intro settings visit line start whole
  have hstatuses : whole.map (·.seen.1) = [200, 429, 200] := by decide +kernel
  obtain ⟨-, hsame, -⟩ := refused_as_if_never_sent settings TaskList.repository start line 1 _ rfl
    (by decide +kernel)
  exact ⟨hstatuses, hsame⟩

end TaskBoard.Service
