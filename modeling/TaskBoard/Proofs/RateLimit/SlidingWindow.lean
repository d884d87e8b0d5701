import Mathlib.Data.List.Basic
import Mathlib.Data.List.Induction
import Mathlib.Data.List.Pairwise
import Mathlib.Data.List.TakeWhile
import TaskBoard.RateLimit

/-!
# The window slides exactly

The limiter drops old admissions only at the front of its queue and only when a request comes. It
decides all the same as if it counted, among all admissions there have ever been, those within the
window before the request; and no span of time shorter than the window holds more of them than are
allowed.
-/

namespace TaskBoard.RateLimit

open Time

/-! ## Runs -/

/-- A limiter in somebody's hands. It only names the place where the admissions are kept, which its
clones share. -/
structure Handle where
  settings : Settings
  place : Nat

/-- What a request was told, and when. -/
structure Answered where
  time : Instant
  verdict : Verdict

structure Scene where
  clock : Instant
  places : Nat → Admissions
  handles : List Handle
  /-- What the requests so far were told, the first one first. -/
  answered : List Answered

inductive Occurrence where
  | pause (d : Duration)
  /-- The handle of this number is cloned. -/
  | clone (i : Nat)
  /-- A request is decided on through the handle of this number. -/
  | request (i : Nat)

def Scene.ask (s : Scene) (h : Handle) : Scene :=
  let (verdict, admissions) := allow h.settings s.clock (s.places h.place)
  { s with
    places := fun p => if p = h.place then admissions else s.places p
    answered := s.answered ++ [⟨s.clock, verdict⟩] }

/-- What is done through a handle that nobody has is not done. -/
def Scene.next (s : Scene) : Occurrence → Scene
  | .pause d => { s with clock := s.clock + d }
  | .clone i =>
    match s.handles[i]? with
    | some h => { s with handles := s.handles ++ [h] }
    | none => s
  | .request i =>
    match s.handles[i]? with
    | some h => s.ask h
    | none => s

/-- A new limiter, with one handle and no admissions. -/
def Scene.opening (settings : Settings) (start : Instant) : Scene :=
  ⟨start, fun _ => [], [⟨settings, 0⟩], []⟩

def sceneAfter (settings : Settings) (start : Instant) (past : List Occurrence) : Scene :=
  past.foldl Scene.next (.opening settings start)

def Verdict.isAdmitted : Verdict → Bool
  | admitted _ => true
  | refused => false

def admittedAt (answered : List Answered) : List Instant :=
  (answered.filter (·.verdict.isAdmitted)).map (·.time)

/-- How many of these times are less than the window before `now`. -/
def used (window : Duration) (now : Instant) (times : List Instant) : Nat :=
  (times.filter fun t => now - t < window).length

/-- The verdict that counting all admissions gives. -/
def due (settings : Settings) (now : Instant) (times : List Instant) : Verdict :=
  if used settings.window now times < settings.maxRequests then
    .admitted (settings.maxRequests - 1 - used settings.window now times)
  else .refused

/-! ## The queue -/

variable {window : Duration} {now later : Instant} {times : List Instant}

theorem counts_of_le {t : Instant} (hle : now ≤ later) (h : counts window later t = true) :
    counts window now t = true := by
  unfold counts at h ⊢
  rw [decide_eq_true_eq] at h ⊢
  exact Nat.lt_of_le_of_lt (Nat.sub_le_sub_right hle t) h

theorem counts_of_younger {s t : Instant} (hle : s ≤ t) (h : counts window now s = true) :
    counts window now t = true := by
  unfold counts at h ⊢
  rw [decide_eq_true_eq] at h ⊢
  exact Nat.lt_of_le_of_lt (Nat.sub_le_sub_left hle now) h

/-- In a queue that is in order, pruning the front drops all that no longer counts. -/
theorem dropWhile_eq_filter (h : times.Pairwise (· ≤ ·)) :
    times.dropWhile (!counts window now ·) = times.filter (counts window now) := by
  induction times with
  | nil => rfl
  | cons t times ih =>
    rw [List.pairwise_cons] at h
    by_cases ht : counts window now t = true
    · -- The oldest one still counts, so all of them do and none is dropped.
      have hall : ∀ u ∈ t :: times, counts window now u = true := by
        intro u hu
        rcases List.mem_cons.mp hu with rfl | hu
        · exact ht
        · exact counts_of_younger (h.1 u hu) ht
      rw [List.dropWhile_cons_of_neg (by simp [ht]), List.filter_eq_self.mpr hall]
    · rw [List.dropWhile_cons_of_pos (by simpa using ht), List.filter_cons_of_neg ht, ih h.2]

/-- The queue holds the last of all admissions, and those before it no longer count. -/
structure Queued (window : Duration) (now : Instant) (times queue : List Instant) : Prop where
  ordered : times.Pairwise (· ≤ ·)
  past : ∀ t ∈ times, t ≤ now
  suffix : ∃ gone, times = gone ++ queue ∧ ∀ t ∈ gone, counts window now t = false

variable {queue : List Instant}

theorem Queued.pause (h : Queued window now times queue) (hle : now ≤ later) :
    Queued window later times queue := by
  obtain ⟨gone, htimes, hgone⟩ := h.suffix
  refine ⟨h.ordered, fun t ht => Nat.le_trans (h.past t ht) hle, gone, htimes, fun t ht => ?_⟩
  have hnow := hgone t ht
  cases hlater : counts window later t with
  | false => rfl
  | true => rw [counts_of_le hle hlater] at hnow; cases hnow

theorem Queued.recent (h : Queued window now times queue) :
    queue.dropWhile (!counts window now ·) = times.filter (counts window now) := by
  obtain ⟨gone, rfl, hgone⟩ := h.suffix
  have hnone : gone.filter (counts window now) = [] :=
    List.filter_eq_nil_iff.mpr fun t ht => by simp [hgone t ht]
  rw [dropWhile_eq_filter (List.pairwise_append.mp h.ordered).2.1, List.filter_append, hnone,
    List.nil_append]

/-- What a request leaves of the queue is queued again. -/
theorem Queued.pruned (h : Queued window now times queue) :
    Queued window now times (times.filter (counts window now)) := by
  refine ⟨h.ordered, h.past, times.takeWhile (!counts window now ·), ?_, fun t ht => ?_⟩
  · rw [← dropWhile_eq_filter h.ordered, List.takeWhile_append_dropWhile]
  · simpa using List.mem_takeWhile_imp ht

theorem Queued.append (h : Queued window now times queue) :
    Queued window now (times ++ [now]) (queue ++ [now]) := by
  obtain ⟨gone, rfl, hgone⟩ := h.suffix
  refine ⟨List.pairwise_append.mpr ⟨h.ordered, List.pairwise_singleton _ _, ?_⟩, ?_, gone,
    List.append_assoc .., hgone⟩
  · intro t ht u hu
    obtain rfl := List.mem_singleton.mp hu
    exact h.past t ht
  · intro t ht
    rcases List.mem_append.mp ht with ht | ht
    · exact h.past t ht
    · exact Nat.le_of_eq (List.mem_singleton.mp ht)

theorem allow_eq {settings : Settings} (h : Queued settings.window now times queue) :
    allow settings now queue = (due settings now times,
      if used settings.window now times < settings.maxRequests then
        times.filter (counts settings.window now) ++ [now]
      else times.filter (counts settings.window now)) := by
  unfold allow due
  rw [h.recent]
  change (if used settings.window now times < settings.maxRequests then _ else _) = _
  split
  · rw [Nat.sub_right_comm]
    rfl
  · rfl

/-! ## Spans of time -/

/-- No span shorter than the window holds more of these times than are allowed. -/
def Spread (settings : Settings) (times : List Instant) : Prop :=
  ∀ first last, last - first < settings.window →
    (times.filter fun t => first ≤ t ∧ t ≤ last).length ≤ settings.maxRequests

variable {settings : Settings}

theorem spread_append (h : Spread settings times)
    (hroom : used settings.window now times < settings.maxRequests) :
    Spread settings (times ++ [now]) := by
  intro first last hspan
  rw [List.filter_append, List.length_append]
  by_cases hin : first ≤ now ∧ now ≤ last
  · -- Whatever else the span holds counts when the last one is admitted.
    have hsub : (times.filter fun t => first ≤ t ∧ t ≤ last).length ≤
        used settings.window now times := by
      apply List.Sublist.length_le
      apply List.monotone_filter_right
      intro t ht
      rw [decide_eq_true_eq] at ht ⊢
      have hle : now - t ≤ last - first :=
        Nat.le_trans (Nat.sub_le_sub_right hin.2 t) (Nat.sub_le_sub_left ht.1 last)
      exact Nat.lt_of_le_of_lt hle hspan
    rw [List.filter_cons_of_pos (by simpa using hin), List.filter_nil, List.length_singleton]
    omega
  · rw [List.filter_cons_of_neg (by simpa using hin), List.filter_nil, List.length_nil]
    exact h first last hspan

theorem getElem_le (h : times.Pairwise (· ≤ ·)) {i j : Nat} (hj : j < times.length)
    (hij : i ≤ j) : times[i] ≤ times[j] :=
  h.rel_get_of_le (a := ⟨i, Nat.lt_of_le_of_lt hij hj⟩) (b := ⟨j, hj⟩) hij

/-- From one place to another, times in order hold all that lie between the two. -/
theorem length_le_between (h : times.Pairwise (· ≤ ·)) {i n : Nat} (hj : i + n < times.length) :
    n + 1 ≤ (times.filter fun t => times[i] ≤ t ∧ t ≤ times[i + n]).length := by
  let between := (times.drop i).take (n + 1)
  have hsub : between.Sublist times := (List.take_sublist _ _).trans (List.drop_sublist _ _)
  have hlen : between.length = n + 1 := by
    simp only [between, List.length_take, List.length_drop]
    omega
  have hall : ∀ u ∈ between, decide (times[i] ≤ u ∧ u ≤ times[i + n]) = true := by
    intro u hu
    obtain ⟨k, hk, rfl⟩ := List.mem_iff_getElem.mp hu
    simp only [hlen] at hk
    simp only [between, List.getElem_take, List.getElem_drop, decide_eq_true_eq]
    exact ⟨getElem_le h (by omega) (Nat.le_add_right i k), getElem_le h hj (by omega)⟩
  have hle := (hsub.filter fun u => times[i] ≤ u ∧ u ≤ times[i + n]).length_le
  rwa [List.filter_eq_self.mpr hall, hlen] at hle

/-- Times that are as many places apart as are allowed are a window apart. -/
theorem Spread.apart (h : Spread settings times) (hord : times.Pairwise (· ≤ ·)) {i : Nat}
    {s t : Instant} (hs : times[i]? = some s) (ht : times[i + settings.maxRequests]? = some t) :
    s + settings.window ≤ t := by
  obtain ⟨hi, rfl⟩ := List.getElem?_eq_some_iff.mp hs
  obtain ⟨hj, rfl⟩ := List.getElem?_eq_some_iff.mp ht
  have hle := getElem_le hord hj (Nat.le_add_right i _)
  by_contra hnear
  -- The span between the two would hold both and all between them, which is one too many.
  have hfew := h _ _ (Nat.sub_lt_left_of_lt_add hle (Nat.lt_of_not_le hnear))
  exact Nat.not_succ_le_self _ (Nat.le_trans (length_le_between hord hj) hfew)

/-! ## Requests -/

/-- What is true of a limiter, its clones and their queue at any moment. -/
structure Kept (settings : Settings) (s : Scene) : Prop where
  shared : ∀ h ∈ s.handles, h = ⟨settings, 0⟩
  queued : Queued settings.window s.clock (admittedAt s.answered) (s.places 0)
  told : ∀ n a, s.answered[n]? = some a →
    (∀ t ∈ admittedAt (s.answered.take n), t ≤ a.time) ∧
      a.verdict = due settings a.time (admittedAt (s.answered.take n))
  spread : Spread settings (admittedAt s.answered)

variable {s : Scene}

theorem admittedAt_snoc (answered : List Answered) (a : Answered) :
    admittedAt (answered ++ [a]) =
      admittedAt answered ++ if a.verdict.isAdmitted = true then [a.time] else [] := by
  unfold admittedAt
  rw [List.filter_append, List.map_append]
  cases h : a.verdict.isAdmitted <;> simp [h]

theorem isAdmitted_due :
    (due settings now times).isAdmitted = true ↔
      used settings.window now times < settings.maxRequests := by
  unfold due
  split <;> simp [Verdict.isAdmitted, *]

theorem kept_opening (settings : Settings) (start : Instant) :
    Kept settings (.opening settings start) := by
  refine ⟨?_, ⟨List.Pairwise.nil, by simp [Scene.opening, admittedAt], [], ?_, by simp⟩, ?_, ?_⟩
  · intro h hh
    exact List.mem_singleton.mp hh
  · rfl
  · intro n a ha
    simp [Scene.opening] at ha
  · intro first last _
    exact Nat.zero_le _

theorem Kept.ask (h : Kept settings s) : Kept settings (s.ask ⟨settings, 0⟩) := by
  have hallow := allow_eq h.queued
  have hask : s.ask ⟨settings, 0⟩ =
      { s with
        places := fun p => if p = 0 then (allow settings s.clock (s.places 0)).2 else s.places p
        answered := s.answered ++
          [⟨s.clock, due settings s.clock (admittedAt s.answered)⟩] } := by
    unfold Scene.ask
    simp only [hallow]
  have hnext : admittedAt (s.ask ⟨settings, 0⟩).answered = admittedAt s.answered ++
      if used settings.window s.clock (admittedAt s.answered) < settings.maxRequests then
        [s.clock] else [] := by
    rw [hask, admittedAt_snoc]
    simp only [isAdmitted_due]
  have hplace : (s.ask ⟨settings, 0⟩).places 0 =
      if used settings.window s.clock (admittedAt s.answered) < settings.maxRequests then
        (admittedAt s.answered).filter (counts settings.window s.clock) ++ [s.clock]
      else (admittedAt s.answered).filter (counts settings.window s.clock) := by
    rw [hask]
    simp only [if_true, hallow]
  refine ⟨by rw [hask]; exact h.shared, ?_, ?_, ?_⟩
  · rw [hnext, hplace, hask]
    split
    · exact h.queued.pruned.append
    · rw [List.append_nil]
      exact h.queued.pruned
  · rw [hask]
    intro n a ha
    -- What earlier requests were told does not depend on this one.
    rcases Nat.lt_or_ge n s.answered.length with hn | hn
    · rw [List.getElem?_append_left hn] at ha
      rw [List.take_append_of_le_length (Nat.le_of_lt hn)]
      exact h.told n a ha
    · rw [List.getElem?_append_right hn] at ha
      obtain ⟨hzero, ha⟩ := List.getElem?_eq_some_iff.mp ha
      rw [List.length_singleton] at hzero
      obtain rfl : n = s.answered.length := by omega
      simp only [Nat.sub_self, List.getElem_cons_zero] at ha
      rw [List.take_left, ← ha]
      exact ⟨h.queued.past, rfl⟩
  · rw [hnext]
    split
    · next hroom => exact spread_append h.spread hroom
    · rw [List.append_nil]
      exact h.spread

theorem Kept.next (h : Kept settings s) (o : Occurrence) : Kept settings (s.next o) := by
  cases o with
  | pause d =>
    exact ⟨h.shared, h.queued.pause (Nat.le_add_right _ _), h.told, h.spread⟩
  | clone i =>
    unfold Scene.next
    cases hi : s.handles[i]? with
    | none => simpa only [hi] using h
    | some handle =>
      simp only [hi]
      refine ⟨fun other hother => ?_, h.queued, h.told, h.spread⟩
      rcases List.mem_append.mp hother with hother | hother
      · exact h.shared other hother
      · exact List.mem_singleton.mp hother ▸ h.shared handle (List.mem_of_getElem? hi)
  | request i =>
    unfold Scene.next
    cases hi : s.handles[i]? with
    | none => simpa only [hi] using h
    | some handle =>
      simp only [hi]
      rw [h.shared handle (List.mem_of_getElem? hi)]
      exact h.ask

theorem sceneAfter_snoc (settings : Settings) (start : Instant)
    (past : List Occurrence) (o : Occurrence) :
    sceneAfter settings start (past ++ [o]) = (sceneAfter settings start past).next o := by
  unfold sceneAfter
  rw [List.foldl_append]
  rfl

theorem kept_sceneAfter (settings : Settings) (start : Instant) (past : List Occurrence) :
    Kept settings (sceneAfter settings start past) := by
  induction past using List.reverseRecOn with
  | nil => exact kept_opening settings start
  | append_singleton past o ih =>
    rw [sceneAfter_snoc]
    exact ih.next o

/-- In every run of a limiter and its clones, a request is admitted exactly if fewer than the
allowed number were admitted less than the window before it, and is then told how many more there
may be; admissions that are the allowed number apart are a window apart; and so no shorter span of
time holds more of them. -/
theorem admitted_iff_room_in_window (settings : Settings) (start : Instant)
    (past : List Occurrence) :
    let answered := (sceneAfter settings start past).answered
    let admitted := admittedAt answered
    (∀ n a, answered[n]? = some a →
      let before := admittedAt (answered.take n)
      let inWindow := (before.filter fun t => a.time - t < settings.window).length
      (∀ t ∈ before, t ≤ a.time) ∧
      a.verdict = if inWindow < settings.maxRequests then
        .admitted (settings.maxRequests - 1 - inWindow) else .refused) ∧
    (∀ i s t, admitted[i]? = some s → admitted[i + settings.maxRequests]? = some t →
      s + settings.window ≤ t) ∧
    ∀ first last, last - first < settings.window →
      (admitted.filter fun t => first ≤ t ∧ t ≤ last).length ≤ settings.maxRequests := by
  intro answered admitted
  have h := kept_sceneAfter settings start past
  exact ⟨h.told, fun i s t => h.spread.apart h.queued.ordered, h.spread⟩

-- A clone uses up what its limiter has left, until exactly a window has passed.
example :
    (sceneAfter ⟨5, 2⟩ 0 [.request 0, .clone 0, .pause 4, .request 1, .request 0, .pause 1,
      .request 1, .request 0]).answered.map (·.verdict) =
        [.admitted 1, .admitted 0, .refused, .admitted 0, .refused] := by decide

end TaskBoard.RateLimit
