import TaskBoard.Proofs.RateLimit.SlidingWindow

/-!
# Asking again after a refusal

A refused client is told to ask again after a whole number of seconds. A window of less than one
second is rounded up to it, every other one is rounded down, so that the time told may be too short:
whether it is long enough in every run can be told from the window alone.
-/

namespace TaskBoard.RateLimit

open Time

variable {settings : Settings} {window : Duration} {now later start : Instant}
  {times : List Instant} {answered : List Answered}

/-! ## The time that is told -/

theorem window_le_retryAfter_iff :
    settings.window ≤ Duration.ofSeconds (retryAfter settings) ↔
      settings.window ≤ Duration.ofSeconds 1 ∨ settings.window % Duration.ofSeconds 1 = 0 := by
  unfold retryAfter Duration.ofSeconds Duration.wholeSeconds Duration.nanosPerSecond Duration
  omega

/-! ## How many admissions count -/

theorem due_eq_refused_iff :
    due settings now times = .refused ↔ settings.maxRequests ≤ used settings.window now times := by
  unfold due
  split <;> simp <;> omega

/-- The admissions that count at a moment lie within a span that is shorter than the window. -/
theorem Spread.used_le (h : Spread settings times) (hpast : ∀ t ∈ times, t ≤ now) :
    used settings.window now times ≤ settings.maxRequests := by
  unfold used
  rcases Nat.eq_zero_or_pos settings.window with hzero | hpos
  · simp [hzero]
  · -- All that counts was admitted within one window that ends now.
    have hsame : (times.filter fun t => now - t < settings.window) =
        times.filter fun t => now + 1 - settings.window ≤ t ∧ t ≤ now := by
      apply List.filter_congr
      intro t ht
      have hle := hpast t ht
      rw [decide_eq_decide]
      simp only [Duration, Instant] at *
      omega
    rw [hsame]
    apply h
    simp only [Duration, Instant] at *
    omega

/-- Time alone makes room exactly if it takes an admission out of the window. -/
theorem used_lt_used_iff (hle : now ≤ later) :
    used window later times < used window now times ↔
      ∃ t ∈ times, now - t < window ∧ window ≤ later - t := by
  have hlater : (times.filter fun t => later - t < window) =
      (times.filter fun t => now - t < window).filter fun t => later - t < window := by
    rw [List.filter_filter]
    apply List.filter_congr
    intro t _
    -- What counts later counts now.
    rw [← Bool.decide_and, decide_eq_decide]
    simp only [Instant] at *
    omega
  unfold used
  rw [hlater, List.length_filter_lt_length_iff_exists]
  simp only [List.mem_filter, decide_eq_true_eq, Nat.not_lt, and_assoc]

/-! ## A client that waits -/

/-- A request is refused, and the next one comes when its client has been told to ask again. -/
structure Waited (settings : Settings) (answered : List Answered) (n : Nat) (a b : Answered) :
    Prop where
  asked : answered[n]? = some a
  refused : a.verdict = .refused
  again : answered[n + 1]? = some b
  wait : b.time = a.time + Duration.ofSeconds (retryAfter settings)

theorem admittedAt_take_succ {n : Nat} {a : Answered} (ha : answered[n]? = some a)
    (hrefused : a.verdict = .refused) :
    admittedAt (answered.take (n + 1)) = admittedAt (answered.take n) := by
  rw [List.take_add_one, ha, Option.toList_some, admittedAt_snoc, hrefused]
  simp [Verdict.isAdmitted]

theorem Kept.full {s : Scene} (h : Kept settings s) {n : Nat} {a : Answered}
    (ha : s.answered[n]? = some a) (hrefused : a.verdict = .refused) :
    used settings.window a.time (admittedAt (s.answered.take n)) = settings.maxRequests := by
  obtain ⟨hpast, hverdict⟩ := h.told n a ha
  have hspread : Spread settings (admittedAt (s.answered.take n)) := by
    intro first last hspan
    have hsub : (admittedAt (s.answered.take n)).Sublist (admittedAt s.answered) :=
      ((List.take_sublist n s.answered).filter _).map _
    exact Nat.le_trans (hsub.filter _).length_le (h.spread first last hspan)
  apply Nat.le_antisymm (hspread.used_le hpast)
  exact due_eq_refused_iff.mp (hverdict ▸ hrefused)

theorem Kept.admitted_iff_left {s : Scene} (h : Kept settings s) {n : Nat} {a b : Answered}
    (hwaited : Waited settings s.answered n a b) :
    b.verdict.isAdmitted = true ↔
      ∃ t ∈ admittedAt (s.answered.take n),
        a.time - t < settings.window ∧ settings.window ≤ b.time - t := by
  obtain ⟨-, hb⟩ := h.told (n + 1) b hwaited.again
  rw [admittedAt_take_succ hwaited.asked hwaited.refused] at hb
  rw [hb, isAdmitted_due, ← h.full hwaited.asked hwaited.refused]
  apply used_lt_used_iff
  rw [hwaited.wait]
  exact Nat.le_add_right _ _

theorem Kept.admitted_of_window_le {s : Scene} (h : Kept settings s)
    (hpos : 0 < settings.maxRequests)
    (hle : settings.window ≤ Duration.ofSeconds (retryAfter settings)) {n : Nat} {a b : Answered}
    (hwaited : Waited settings s.answered n a b) : b.verdict.isAdmitted = true := by
  rw [← h.full hwaited.asked hwaited.refused] at hpos
  obtain ⟨t, ht⟩ := List.exists_mem_of_length_pos hpos
  rw [List.mem_filter, decide_eq_true_eq] at ht
  have hpast := (h.told n a hwaited.asked).1 t ht.1
  have hwait := hwaited.wait
  refine (h.admitted_iff_left hwaited).mpr ⟨t, ht.1, ht.2, ?_⟩
  simp only [Duration, Instant] at *
  omega

/-! ## A crowd that comes at once -/

theorem Kept.answered_ask {s : Scene} (h : Kept settings s) :
    (s.ask ⟨settings, 0⟩).answered =
      s.answered ++ [⟨s.clock, due settings s.clock (admittedAt s.answered)⟩] := by
  unfold Scene.ask
  simp only [allow_eq h.queued]

/-- The limiter has only its first handle, and its clock has not moved. -/
structure Fresh (settings : Settings) (start : Instant) (s : Scene) : Prop where
  kept : Kept settings s
  clock : s.clock = start
  handles : s.handles = [⟨settings, 0⟩]

theorem Fresh.next {s : Scene} (h : Fresh settings start s) :
    Fresh settings start (s.next (.request 0)) ∧
      (s.next (.request 0)).answered =
        s.answered ++ [⟨start, due settings start (admittedAt s.answered)⟩] := by
  have hnext : s.next (.request 0) = s.ask ⟨settings, 0⟩ := by
    unfold Scene.next
    rw [h.handles]
    rfl
  rw [hnext, ← h.clock]
  exact ⟨⟨h.kept.ask, rfl, h.handles⟩, h.kept.answered_ask⟩

theorem Fresh.pause {s : Scene} (h : Fresh settings start s) (d : Duration) :
    Fresh settings (start + d) (s.next (.pause d)) ∧ (s.next (.pause d)).answered = s.answered :=
  ⟨⟨h.kept.next (.pause d), congrArg (· + d) h.clock, h.handles⟩, rfl⟩

theorem used_replicate (n : Nat) (h : now - start < window) :
    used window now (List.replicate n start) = n := by
  unfold used
  simp [h]

theorem crowd_admitted (settings : Settings) (start : Instant) (hpos : 0 < settings.window)
    {n : Nat} (hn : n ≤ settings.maxRequests) :
    let s := sceneAfter settings start (List.replicate n (.request 0))
    Fresh settings start s ∧ s.answered.length = n ∧
      admittedAt s.answered = List.replicate n start := by
  induction n with
  | zero => exact ⟨⟨kept_opening settings start, rfl, rfl⟩, rfl, rfl⟩
  | succ n ih =>
    obtain ⟨hfresh, hlength, hadmitted⟩ := ih (Nat.le_of_succ_le hn)
    have hcounts : start - start < settings.window := by rwa [Nat.sub_self]
    have hroom : used settings.window start (List.replicate n start) < settings.maxRequests := by
      rw [used_replicate n hcounts]
      omega
    obtain ⟨hnext, hanswered⟩ := hfresh.next
    simp only [List.replicate_succ', sceneAfter_snoc]
    refine ⟨hnext, by rw [hanswered, List.length_append, hlength]; rfl, ?_⟩
    rw [hanswered, admittedAt_snoc, hadmitted, if_pos (isAdmitted_due.mpr hroom)]

/-- If the client is told less than the window, there is a run in which it is refused again: one
more request than is allowed comes at the start. -/
theorem exists_refused_again (settings : Settings) (start : Instant)
    (hlong : Duration.ofSeconds (retryAfter settings) < settings.window) :
    ∃ past n a b, Waited settings (sceneAfter settings start past).answered n a b ∧
      b.verdict = .refused := by
  let d := Duration.ofSeconds (retryAfter settings)
  have hpos : 0 < settings.window := Nat.lt_of_le_of_lt (Nat.zero_le d) hlong
  obtain ⟨hfresh, hlength, hadmitted⟩ := crowd_admitted settings start hpos (Nat.le_refl _)
  generalize hs : sceneAfter settings start (List.replicate settings.maxRequests (.request 0)) = s
    at hfresh hlength hadmitted
  -- One request too many is refused and does not count.
  obtain ⟨hfresh₁, hanswered₁⟩ := hfresh.next
  have hfull : due settings start (List.replicate settings.maxRequests start) = .refused := by
    rw [due_eq_refused_iff, used_replicate _ (by rwa [Nat.sub_self])]
  rw [hadmitted, hfull] at hanswered₁
  have hadmitted₁ : admittedAt (s.next (.request 0)).answered =
      List.replicate settings.maxRequests start := by
    rw [← hadmitted, hanswered₁, admittedAt_snoc]
    simp [Verdict.isAdmitted]
  -- The window is still full when the client asks again.
  obtain ⟨hfresh₂, hanswered₂⟩ := hfresh₁.pause d
  obtain ⟨-, hanswered₃⟩ := hfresh₂.next
  have hstill : due settings (start + d) (List.replicate settings.maxRequests start) =
      .refused := by
    rw [due_eq_refused_iff, used_replicate _ (by rwa [Nat.add_sub_cancel_left])]
  rw [hanswered₂, hadmitted₁, hstill, hanswered₁] at hanswered₃
  refine ⟨List.replicate settings.maxRequests (.request 0) ++ [.request 0] ++ [.pause d] ++
    [.request 0], settings.maxRequests, ⟨start, .refused⟩, ⟨start + d, .refused⟩, ?_, rfl⟩
  simp only [sceneAfter_snoc, hs, hanswered₃]
  refine ⟨?_, rfl, ?_, rfl⟩
  · simp [hlength]
  · simp [hlength]

/-- Whoever asks again when told to, with no request in between, is admitted exactly if one of the
admissions that filled the window has left it by then. This is so in every run exactly if the window
is at most one second or a whole number of seconds. -/
theorem waiting_suffices_iff (settings : Settings) (hpos : 0 < settings.maxRequests)
    (start : Instant) :
    (∀ past n a b,
      let answered := (sceneAfter settings start past).answered
      Waited settings answered n a b →
        (b.verdict.isAdmitted = true ↔ ∃ t ∈ admittedAt (answered.take n),
          a.time - t < settings.window ∧ settings.window ≤ b.time - t)) ∧
    ((∀ past n a b, Waited settings (sceneAfter settings start past).answered n a b →
        b.verdict.isAdmitted = true) ↔
      settings.window ≤ Duration.ofSeconds 1 ∨
        settings.window % Duration.ofSeconds 1 = 0) := by
  refine ⟨fun past n a b hwaited => (kept_sceneAfter settings start past).admitted_iff_left hwaited,
    ?_⟩
  rw [← window_le_retryAfter_iff]
  constructor
  · intro hall
    by_contra hshort
    obtain ⟨past, n, a, b, hwaited, hrefused⟩ :=
      exists_refused_again settings start (Nat.lt_of_not_le hshort)
    have hadmitted := hall past n a b hwaited
    rw [hrefused] at hadmitted
    cases hadmitted
  · intro hle past n a b hwaited
    exact (kept_sceneAfter settings start past).admitted_of_window_le hpos hle hwaited

def halfSecondApart : List Occurrence :=
  [.request 0, .pause (Duration.ofMillis 500), .request 0, .request 0,
    .pause (Duration.ofSeconds 2), .request 0]

/-- A window of two and a half seconds is told as two. That is long enough here, since the first
admission was half a second ago. -/
theorem first_admission_leaves_meanwhile :
    0 < 2 ∧
    Waited ⟨Duration.ofMillis 2500, 2⟩
      (sceneAfter ⟨Duration.ofMillis 2500, 2⟩ 0 halfSecondApart).answered 2
      ⟨Duration.ofMillis 500, .refused⟩ ⟨Duration.ofMillis 2500, .admitted 0⟩ ∧
    ∃ t ∈ admittedAt
        ((sceneAfter ⟨Duration.ofMillis 2500, 2⟩ 0 halfSecondApart).answered.take 2),
      Duration.ofMillis 500 - t < Duration.ofMillis 2500 ∧
        Duration.ofMillis 2500 ≤ Duration.ofMillis 2500 - t := by
  have hwaited : Waited ⟨Duration.ofMillis 2500, 2⟩
      (sceneAfter ⟨Duration.ofMillis 2500, 2⟩ 0 halfSecondApart).answered 2
      ⟨Duration.ofMillis 500, .refused⟩ ⟨Duration.ofMillis 2500, .admitted 0⟩ :=
    ⟨by rfl, rfl, by rfl, by rfl⟩
  have hpos : 0 < (⟨Duration.ofMillis 2500, 2⟩ : Settings).maxRequests := by decide
  obtain ⟨hleft, -⟩ := waiting_suffices_iff ⟨Duration.ofMillis 2500, 2⟩ hpos 0
  exact ⟨hpos, hwaited, (hleft halfSecondApart 2 _ _ hwaited).mp rfl⟩

/-- A window of one and a half seconds is told as one, and a client that waits for it is refused
again. -/
theorem refused_again_after_wait :
    0 < 1 ∧ retryAfter ⟨Duration.ofMillis 1500, 1⟩ = 1 ∧
    Waited ⟨Duration.ofMillis 1500, 1⟩
      (sceneAfter ⟨Duration.ofMillis 1500, 1⟩ 0
        [.request 0, .request 0, .pause (Duration.ofSeconds 1), .request 0]).answered 1
      ⟨0, .refused⟩ ⟨Duration.ofSeconds 1, .refused⟩ :=
  ⟨by decide, rfl, by rfl, rfl, by rfl, rfl⟩

end TaskBoard.RateLimit
