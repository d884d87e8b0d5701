import Mathlib
import TaskBoard.Proofs.Cache.Flights

/-!
# Invalidation among other requests

While the keys of a pattern are listed and deleted one by one, other requests delete and store
the same keys. An entry that was there when the listing began does not outlive the invalidation:
every key that is left has been stored again in the meantime.
-/

namespace TaskBoard.Cache

open Http Time

/-! ## Programs that others interfere with -/

/-- The reply of a store that does not fail and in which at least the keys `left` are alive. -/
def Call.Honest (left : Set Key) : (c : Call) → c.Reply → Prop
  | .keysMatching pattern, reply =>
    ∃ keys, reply = .ok keys ∧ ∀ k ∈ left, pattern.covers k = true → k ∈ keys
  | .delete _, reply => reply = .ok ()
  | .get _, _ | .set .., _ | .clear, _ | .ping, _ => True

variable {α β : Type}

/-- The program ends with the goal if it begins with the keys `old`, and if others and it itself
do nothing to them but to touch some, which are then not old any more. -/
def Program.Ends (goal : α → Set Key → Prop) : Program α → Set Key → Prop
  | .done a, old => ∀ left ⊆ old, goal a left
  | .ask c next, old => ∀ left ⊆ old, ∀ reply, c.Honest left reply →
    (next reply).Ends goal {k ∈ left | c.touches k = false}

variable {goal : α → Set Key → Prop} {p : Program α} {old left : Set Key}

theorem Program.Ends.mono (h : p.Ends goal old) (hsub : left ⊆ old) : p.Ends goal left := by
  cases p with
  | done a => exact fun less hless => h less (hless.trans hsub)
  | ask c next => exact fun less hless => h less (hless.trans hsub)

theorem Program.Ends.imp {goal' : α → Set Key → Prop} (h : p.Ends goal old)
    (himp : ∀ a left, goal a left → goal' a left) : p.Ends goal' old := by
  induction p generalizing old with
  | done a => exact fun left hleft => himp a left (h left hleft)
  | ask c next ih => exact fun left hleft reply hreply => ih reply (h left hleft reply hreply)

theorem Program.Ends.bind {f : α → Program β} {goal' : β → Set Key → Prop}
    (h : p.Ends goal old) (hf : ∀ a left, goal a left → (f a).Ends goal' left) :
    (p.bind f).Ends goal' old := by
  induction p generalizing old with
  | done a => exact hf a old (h old (Set.Subset.refl old))
  | ask c next ih => exact fun left hleft reply hreply => ih reply (h left hleft reply hreply)

/-! ## Invalidation -/

/-- None of the old keys is among these, and none counts as removed. -/
structure Cleared (old : Set Key) (gone : Key → Prop) (sweep : Sweep) (left : Set Key) : Prop where
  fewer : left ⊆ old
  gone : ∀ k ∈ left, ¬ gone k
  kept : ∀ k ∈ left, k ∉ sweep.removed

theorem ends_dropKey {sweep : Sweep} (key : Key) (h : ∀ k ∈ old, k ∉ sweep.removed) :
    (dropKey sweep key).Ends (Cleared old (· = key)) old := by
  unfold dropKey
  split
  · next hremoved =>
    -- The key is passed over, but it is no old one: those do not count as removed.
    intro left hleft
    refine ⟨hleft, fun k hk hkey => ?_, fun k hk => h k (hleft hk)⟩
    exact h k (hleft hk) (hkey ▸ by simpa using hremoved)
  · intro left hleft reply hreply
    obtain rfl : reply = .ok () := hreply
    intro less hless
    have hne : ∀ k ∈ less, k ≠ key := fun k hk hkey => by
      simpa [Call.touches, hkey] using (hless hk).2
    refine ⟨fun k hk => hleft (hless hk).1, hne, fun k hk hmem => ?_⟩
    rcases List.mem_append.mp hmem with hmem | hmem
    · exact h k (hleft (hless hk).1) hmem
    · exact hne k hk (List.mem_singleton.mp hmem)

theorem ends_dropKeys {sweep : Sweep} (keys : List Key) (h : ∀ k ∈ old, k ∉ sweep.removed) :
    (dropKeys sweep keys).Ends (Cleared old (· ∈ keys)) old := by
  induction keys generalizing sweep old with
  | nil => exact fun left hleft => ⟨hleft, by simp, fun k hk => h k (hleft hk)⟩
  | cons key keys ih =>
    refine (ends_dropKey key h).bind fun sweep left hleft => ?_
    refine (ih hleft.kept).imp fun sweep less hless => ?_
    refine ⟨hless.fewer.trans hleft.fewer, fun k hk hmem => ?_, hless.kept⟩
    rcases List.mem_cons.mp hmem with hkey | hmem
    · exact hleft.gone k (hless.fewer hk) hkey
    · exact hless.gone k hk hmem

theorem ends_dropMatching {sweep : Sweep} (pattern : Pattern) (h : ∀ k ∈ old, k ∉ sweep.removed) :
    (dropMatching sweep pattern).Ends (Cleared old (pattern.covers · = true)) old := by
  intro left hleft reply hreply
  obtain ⟨keys, rfl, hlisted⟩ := hreply
  have hsame : {k ∈ left | (Call.keysMatching pattern).touches k = false} = left :=
    Set.sep_eq_self_iff_mem_true.mpr fun _ _ => rfl
  rw [hsame]
  refine (ends_dropKeys keys fun k hk => h k (hleft hk)).imp fun sweep less hless => ?_
  exact ⟨hless.fewer.trans hleft,
    fun k hk hcovers => hless.gone k hk (hlisted k (hless.fewer hk) hcovers), hless.kept⟩

theorem ends_sweepAll (sweep : Sweep) (patterns : List Pattern)
    (h : ∀ k ∈ old, k ∉ sweep.removed) :
    (sweepAll sweep patterns).Ends
      (Cleared old fun k => ∃ pattern ∈ patterns, pattern.covers k = true) old := by
  induction patterns generalizing sweep old with
  | nil => exact fun left hleft => ⟨hleft, by simp, fun k hk => h k (hleft hk)⟩
  | cons pattern patterns ih =>
    refine (ends_dropMatching pattern h).bind fun sweep left hleft => ?_
    refine (ih sweep hleft.kept).imp fun sweep less hless => ?_
    refine ⟨hless.fewer.trans hleft.fewer, fun k hk hcovered => ?_, hless.kept⟩
    rcases (List.exists_mem_cons_iff ..).mp hcovered with hcovers | hcovered
    · exact hleft.gone k (hless.fewer hk) hcovers
    · exact hless.gone k hk hcovered

/-- An invalidation ends before the origin, with no old key that a pattern covers. -/
def Reached (patterns : List Pattern) (halt : Halt) (left : Set Key) : Prop :=
  (∃ events, halt = .atOrigin none events) ∧
    ∀ k ∈ left, ¬ ∃ pattern ∈ patterns, pattern.covers k = true

theorem ends_invalidating (patterns : List Pattern) (old : Set Key) :
    (invalidating patterns).Ends (Reached patterns) old := by
  refine (ends_sweepAll {} patterns (by simp)).bind fun sweep left hleft => ?_
  exact fun less hless => ⟨⟨sweep.events, rfl⟩, fun k hk => hleft.gone k (hless hk)⟩

/-! ## Traffic -/

namespace Traffic

variable {settings : Settings} {t t' : Traffic}

def calls (journal : List (Nat × Made)) : List Made := journal.map (·.2)

theorem calls_append (a b : List (Nat × Made)) : calls (a ++ b) = calls a ++ calls b :=
  List.map_append

/-- What is true of all traffic that began with the memory `m`. -/
structure Kept (m : Memory) (t : Traffic) : Prop where
  memory : t.memory = Memory.afterCalls m (calls t.journal)
  past : ∀ c ∈ t.journal, c.2.time ≤ t.clock
  numbered : ∀ c ∈ t.journal, c.1 < t.flights.length

theorem Kept.passes {m : Memory} (h : t.Kept m) (hpasses : t.Passes settings t') : t'.Kept m := by
  cases hpasses with
  | pause d =>
    exact ⟨h.memory, fun c hc => Nat.le_trans (h.past c hc) (Nat.le_add_right _ _), h.numbered⟩
  | enter r =>
    refine ⟨h.memory, h.past, fun c hc => ?_⟩
    rw [List.length_append]
    exact Nat.lt_add_right _ (h.numbered c hc)
  | call i f c more hf hp =>
    have hi : i < t.flights.length := (List.getElem?_eq_some_iff.mp hf).1
    refine ⟨?_, ?_, ?_⟩
    · simp only [call, calls, List.map_append, List.map_cons, List.map_nil]
      rw [Memory.afterCalls_snoc, h.memory]
      rfl
    · simp only [call]
      rw [List.forall_mem_append, List.forall_mem_singleton]
      exact ⟨h.past, Nat.le_refl _⟩
    · simp only [call, goOn, List.length_set]
      rw [List.forall_mem_append, List.forall_mem_singleton]
      exact ⟨h.numbered, hi⟩
  | resume i f p hf hp =>
    refine ⟨h.memory, h.past, ?_⟩
    simpa only [goOn, List.length_set] using h.numbered
  | idle => exact h

/-- The live keys that none of these calls has been about. -/
def untouched (t : Traffic) (during : List (Nat × Made)) : Set Key :=
  {k | k ∈ Memory.keys t.clock t.memory ∧ ∀ c ∈ during, c.2.call.touches k = false}

theorem untouched_pause (t : Traffic) (d : Duration) (during : List (Nat × Made)) :
    { t with clock := t.clock + d }.untouched during ⊆ t.untouched during := by
  rintro k ⟨hk, hduring⟩
  obtain ⟨e, he, rfl⟩ := Memory.mem_keys_iff.mp hk
  have hlive := ((Memory.mem_live_of_le (Nat.le_add_right t.clock d)).mp he).1
  exact ⟨Memory.mem_keys_iff.mpr ⟨e, hlive, rfl⟩, hduring⟩

theorem untouched_call (t : Traffic) (i : Nat) (f : Flight) (c : Call)
    (more : c.Reply → Program Halt) (during : List (Nat × Made)) :
    (t.call i f c more).untouched (during ++ [(i, ⟨t.clock, c⟩)]) ⊆
      {k ∈ t.untouched during | c.touches k = false} := by
  rintro k ⟨hk, hduring⟩
  rw [List.forall_mem_append, List.forall_mem_singleton] at hduring
  obtain ⟨e, he, rfl⟩ := Memory.mem_keys_iff.mp hk
  have hlive : e ∈ Memory.live t.clock t.memory := by
    rcases (Memory.mem_live_call (c := ⟨t.clock, c⟩) (Nat.le_refl _)).mp he with he | he
    · exact he.1
    · simp [he.1.touches] at hduring
  exact ⟨⟨Memory.mem_keys_iff.mpr ⟨e, hlive, rfl⟩, hduring.1⟩, hduring.2⟩

/-- The store in memory does not fail, and lists all its live keys. -/
theorem honest_store (t : Traffic) (c : Call) (during : List (Nat × Made)) :
    c.Honest (t.untouched during) (Memory.store t.clock c t.memory).1 := by
  cases c with
  | keysMatching pattern =>
    exact ⟨_, rfl, fun k hk hcovers => List.mem_filter.mpr ⟨hk.1, hcovers⟩⟩
  | delete key => rfl
  | get key | set key value ttl | clear | ping => trivial

/-- The first call of the request has listed the keys of the first pattern, and these are the calls
made since, by whichever request. -/
def Since (patterns : List Pattern) (journal : List (Nat × Made)) (i : Nat)
    (during : List (Nat × Made)) : Prop :=
  ∃ before first pattern, journal = before ++ (i, first) :: during ∧ (∀ c ∈ before, c.1 ≠ i) ∧
    patterns.head? = some pattern ∧ first.call = .keysMatching pattern

/-- How far a write with these patterns has come. -/
inductive Progress (patterns : List Pattern) (t : Traffic) (i : Nat) : Program Halt → Prop
  | unstarted (hjournal : ∀ c ∈ t.journal, c.1 ≠ i) :
    Progress patterns t i (invalidating patterns)
  | started {p : Program Halt} (during : List (Nat × Made))
    (hsince : Since patterns t.journal i during)
    (hends : p.Ends (Reached patterns) (t.untouched during)) : Progress patterns t i p
  | answered (answer : Answer) (hkept : answer.keptAs = none) :
    Progress patterns t i (.done (.answered answer))
  | ended : Progress patterns t i (.done .ended)

variable {patterns : List Pattern} {i : Nat} {p : Program Halt}

theorem Since.snoc {journal during : List (Nat × Made)} (h : Since patterns journal i during)
    (c : Nat × Made) : Since patterns (journal ++ [c]) i (during ++ [c]) := by
  obtain ⟨before, first, pattern, rfl, hbefore, hfirst⟩ := h
  exact ⟨before, first, pattern, by simp, hbefore, hfirst⟩

theorem Progress.pause (h : Progress patterns t i p) (d : Duration) :
    Progress patterns { t with clock := t.clock + d } i p := by
  cases h with
  | unstarted hjournal => exact .unstarted hjournal
  | started during hsince hends =>
    exact .started during hsince (hends.mono (t.untouched_pause d during))
  | answered answer hkept => exact .answered answer hkept
  | ended => exact .ended

/-- Nothing has changed but what requests do next. -/
theorem Progress.flights (h : Progress patterns t i p) (flights : List Flight) :
    Progress patterns { t with flights } i p := by
  cases h with
  | unstarted hjournal => exact .unstarted hjournal
  | started during hsince hends => exact .started during hsince hends
  | answered answer hkept => exact .answered answer hkept
  | ended => exact .ended

/-- Another request makes a call. -/
theorem Progress.other {j : Nat} (h : Progress patterns t i p) (hne : j ≠ i) (f : Flight)
    (c : Call) (more : c.Reply → Program Halt) : Progress patterns (t.call j f c more) i p := by
  cases h with
  | unstarted hjournal =>
    refine .unstarted ?_
    simp only [call]
    rw [List.forall_mem_append, List.forall_mem_singleton]
    exact ⟨hjournal, hne⟩
  | started during hsince hends =>
    refine .started _ (hsince.snoc (j, ⟨t.clock, c⟩)) (hends.mono ?_)
    exact (t.untouched_call j f c more during).trans fun k hk => hk.1
  | answered answer hkept => exact .answered answer hkept
  | ended => exact .ended

/-- The write itself makes a call, which may be its first. -/
theorem Progress.own {c : Call} {more : c.Reply → Program Halt} (hne : patterns ≠ [])
    (h : Progress patterns t i (.ask c more)) (f : Flight) :
    Progress patterns (t.call i f c more) i (more (Memory.store t.clock c t.memory).1) := by
  generalize hp : Program.ask c more = p at h
  cases h with
  | unstarted hjournal =>
    obtain ⟨pattern, rest, rfl⟩ := List.exists_cons_of_ne_nil hne
    have hends := ends_invalidating (pattern :: rest) (t.untouched [])
    rw [← hp] at hends
    have hfirst : c = .keysMatching pattern := by
      cases hp
      rfl
    refine .started [] ⟨t.journal, ⟨t.clock, c⟩, pattern, rfl, hjournal, rfl, hfirst⟩ ?_
    refine (hends _ (Set.Subset.refl _) _ (t.honest_store c [])).mono fun k hk => ?_
    -- A listing is about no key.
    exact t.untouched_call i f c more [] ⟨hk.1, by simp [hfirst, Call.touches]⟩
  | started during hsince hends =>
    subst hp
    refine .started _ (hsince.snoc (i, ⟨t.clock, c⟩)) ?_
    exact (hends _ (Set.Subset.refl _) _ (t.honest_store c during)).mono
      (t.untouched_call i f c more during)
  | answered answer hkept => cases hp
  | ended => cases hp

theorem Progress.halted {halt : Halt} (hne : patterns ≠ [])
    (h : Progress patterns t i (.done halt)) :
    (∃ during, Since patterns t.journal i during ∧
      Reached patterns halt (t.untouched during)) ∨
    (∃ answer, halt = .answered answer ∧ answer.keptAs = none) ∨ halt = .ended := by
  generalize hp : Program.done halt = p at h
  cases h with
  | unstarted hjournal =>
    obtain ⟨pattern, rest, rfl⟩ := List.exists_cons_of_ne_nil hne
    cases hp
  | started during hsince hends =>
    subst hp
    exact Or.inl ⟨during, hsince, hends _ (Set.Subset.refl _)⟩
  | answered answer hkept =>
    cases hp
    exact Or.inr (Or.inl ⟨answer, rfl, hkept⟩)
  | ended =>
    cases hp
    exact Or.inr (Or.inr rfl)

theorem Progress.resume {q : Program Halt} (hne : patterns ≠ []) (h : Progress patterns t i p)
    (hp : Resumes settings p q) : Progress patterns t i q := by
  cases hp with
  | answered keep events response =>
    rcases h.halted hne with ⟨_, -, ⟨events, hhalt⟩, -⟩ | ⟨answer, hhalt, -⟩ | hhalt
    · cases hhalt
      exact .answered _ (by simp [answering])
    · cases hhalt
    · cases hhalt
  | read answer limit =>
    rcases h.halted hne with ⟨_, -, ⟨events, hhalt⟩, -⟩ | ⟨answer, hhalt, hkept⟩ | hhalt
    · cases hhalt
    · cases hhalt
      unfold reading
      rw [hkept]
      exact .ended
    · cases hhalt
  | dropped => exact .ended

/-! ## Runs -/

/-- Every write among the requests has come some way. -/
def Underway (settings : Settings) (t : Traffic) : Prop :=
  ∀ (i : Nat) (f : Flight), t.flights[i]? = some f → f.request.method.isWrite = true →
    Progress (settings.space.patterns (target f.request)) t i f.program

theorem patterns_ne_nil (space : KeySpace) (target : Target) : space.patterns target ≠ [] := by
  simp [KeySpace.patterns]

theorem Underway.passes {m : Memory} (henabled : settings.enabled = true) (hkept : t.Kept m)
    (h : t.Underway settings) (hpasses : t.Passes settings t') : t'.Underway settings := by
  intro i f hf hwrite
  cases hpasses with
  | pause d => exact (h i f hf hwrite).pause d
  | enter r =>
    refine Progress.flights ?_ _
    rcases Nat.lt_or_ge i t.flights.length with hi | hi
    · rw [List.getElem?_append_left hi] at hf
      exact h i f hf hwrite
    · rw [List.getElem?_append_right hi] at hf
      obtain rfl := List.mem_singleton.mp (List.mem_of_getElem? hf)
      have hentering : entering settings r =
          invalidating (settings.space.patterns (target r)) := by
        unfold entering
        rw [course_of_write henabled hwrite]
      simp only [hentering]
      -- The request has the next number, so no call so far is its own.
      exact .unstarted fun c hc => Nat.ne_of_lt (Nat.lt_of_lt_of_le (hkept.numbered c hc) hi)
  | call j g c more hg hp =>
    have hj : j < t.flights.length := (List.getElem?_eq_some_iff.mp hg).1
    by_cases hij : j = i
    · subst hij
      simp only [call] at hf
      rw [flights_goOn hg] at hf
      obtain rfl := Option.some.inj hf
      have hprogress := h j g hg hwrite
      rw [hp] at hprogress
      exact hprogress.own (patterns_ne_nil _ _) g
    · simp only [call, goOn, List.getElem?_set_ne hij] at hf
      exact (h i f hf hwrite).other hij g c more
  | resume j g p hg hp =>
    refine Progress.flights ?_ _
    by_cases hij : j = i
    · subst hij
      rw [flights_goOn hg] at hf
      obtain rfl := Option.some.inj hf
      exact (h j g hg hwrite).resume (patterns_ne_nil _ _) hp
    · simp only [goOn, List.getElem?_set_ne hij] at hf
      exact h i f hf hwrite
  | idle => exact h i f hf hwrite

theorem kept_underway_after (henabled : settings.enabled = true) (start : Instant) (m : Memory)
    (moves : List Move) :
    ((opening start m).after settings moves).Kept m ∧
      ((opening start m).after settings moves).Underway settings := by
  induction moves using List.reverseRecOn with
  | nil =>
    refine ⟨⟨rfl, by simp [after, opening], by simp [after, opening]⟩, fun i f hf => ?_⟩
    simp [after, opening] at hf
  | append_singleton moves move ih =>
    simp only [after, List.foldl_append, List.foldl_cons, List.foldl_nil] at ih ⊢
    have hpasses := passes_next settings (List.foldl (next settings) (opening start m) moves) move
    exact ⟨ih.1.passes hpasses, ih.2.passes henabled ih.1 hpasses⟩

theorem Since.latest_eq {journal during : List (Nat × Made)} (h : Since patterns journal i during)
    {key : Key} (htouched : latest key (calls during) ≠ none) :
    latest key (calls journal) = latest key (calls during) := by
  obtain ⟨before, first, pattern, rfl, -⟩ := h
  obtain ⟨c, hc⟩ := Option.ne_none_iff_exists'.mp htouched
  rw [List.append_cons, calls_append, latest_append, hc, Option.some_or]

/-- However the calls of all requests fall between each other: when a write has come to its origin,
each live entry that one of its patterns covers has been stored since the write listed the keys of
its first pattern, and no call has been about its key after that. -/
theorem covered_entries_stored_since (settings : Settings) (henabled : settings.enabled = true)
    (start : Instant) (m : Memory) (moves : List Move) (i : Nat) (f : Flight)
    (events : List Event)
    (hf : ((opening start m).after settings moves).flights[i]? = some f)
    (hwrite : f.request.method.isWrite = true)
    (horigin : f.program = .done (.atOrigin none events)) :
    let t := (opening start m).after settings moves
    let patterns := settings.space.patterns (target f.request)
    ∃ during, Since patterns t.journal i during ∧
      ∀ e ∈ Memory.live t.clock t.memory, (∃ pattern ∈ patterns, pattern.covers e.key = true) →
        ∃ c, latest e.key (calls during) = some c ∧ c.Puts e := by
  intro t patterns
  obtain ⟨hkept, hunderway⟩ := kept_underway_after henabled start m moves
  have hprogress := hunderway i f hf hwrite
  rw [horigin] at hprogress
  rcases hprogress.halted (patterns_ne_nil _ _) with ⟨during, hsince, -, hnone⟩ | ⟨_, hhalt, -⟩ |
    hhalt
  · refine ⟨during, hsince, fun e he hcovered => ?_⟩
    -- An entry that no call has been about since would be one of the old keys.
    have htouched : latest e.key (calls during) ≠ none := by
      intro hlatest
      have huntouched := latest_eq_none_iff.mp hlatest
      refine hnone e.key ⟨Memory.mem_keys_iff.mpr ⟨e, he, rfl⟩, fun c hc => ?_⟩ hcovered
      exact huntouched c.2 (List.mem_map_of_mem hc)
    have hpast : ∀ c ∈ calls t.journal, c.time ≤ t.clock := List.forall_mem_map.mpr hkept.past
    rw [hkept.memory, Memory.mem_live_afterCalls hpast, hsince.latest_eq htouched] at he
    obtain ⟨c, hc⟩ := Option.ne_none_iff_exists'.mp htouched
    rw [hc] at he
    exact ⟨c, hc, he.1⟩
  · cases hhalt
  · cases hhalt

def listingByAlice : Request :=
  ⟨.get, ⟨"/api/v1/tasks".toList, none⟩, [⟨callerHeader, asciiBytes "alice"⟩], []⟩

def creation : Request := ⟨.post, ⟨"/api/v1/tasks".toList, none⟩, [], []⟩

def foundByCreation : Entry := ⟨⟨"v1:tasks:bob".toList⟩, [0x5B], none⟩

def storedMeanwhile : Entry :=
  ⟨⟨"v1:tasks:alice".toList⟩, [0x5B, 0x5D], some (Duration.ofSeconds 300)⟩

/-- The answer to the reader, the first request, is stored while the write, the second one, is
about to delete what its first listing gave. -/
def overlapping : List Move :=
  [.enter listingByAlice, .call 0, .answer 0 ⟨200, [], .fixed [0x5B, 0x5D], none⟩,
    .enter creation, .call 1, .read 0 none, .call 0, .pause 3, .call 1, .call 1]

/-- The write clears what it found, and the entry that outlives it is a new one. -/
theorem answer_stored_meanwhile :
    (∃ pattern ∈ Settings.standard.space.patterns (target creation),
      pattern.covers foundByCreation.key = true) ∧
      ((opening 0 [foundByCreation]).after .standard overlapping).memory = [storedMeanwhile] ∧
      ∃ during, Since (Settings.standard.space.patterns (target creation))
          ((opening 0 [foundByCreation]).after .standard overlapping).journal 1 during ∧
        ∃ c, latest storedMeanwhile.key (calls during) = some c ∧ c.Puts storedMeanwhile := by
  have hfound : (Settings.standard.space.patterns (target creation)).any
      (·.covers foundByCreation.key) = true := by cbv
  have hcovered : (Settings.standard.space.patterns (target creation)).any
      (·.covers storedMeanwhile.key) = true := by cbv
  have hmemory : ((opening 0 [foundByCreation]).after .standard overlapping).memory =
      [storedMeanwhile] := by cbv
  have hflight : ((opening 0 [foundByCreation]).after .standard overlapping).flights[1]? =
      some ⟨creation, .done (.atOrigin none [.invalidated 1])⟩ := by cbv
  have hclock : ((opening 0 [foundByCreation]).after .standard overlapping).clock = 3 := by cbv
  have hlive : storedMeanwhile ∈ Memory.live 3 [storedMeanwhile] := by decide
  rw [← hmemory, ← hclock] at hlive
  obtain ⟨during, hsince, hstored⟩ := covered_entries_stored_since .standard rfl 0
    [foundByCreation] overlapping 1 ⟨creation, .done (.atOrigin none [.invalidated 1])⟩
    [.invalidated 1] hflight rfl rfl
  exact ⟨List.any_eq_true.mp hfound, hmemory, during, hsince,
    hstored storedMeanwhile hlive (List.any_eq_true.mp hcovered)⟩

end Traffic

end TaskBoard.Cache
