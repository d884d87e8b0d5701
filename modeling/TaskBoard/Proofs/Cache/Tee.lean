import TaskBoard.Proofs.Cache.FailOpen

/-!
# A body on its way to the client

The client asks for one piece after the other. Each is handed on as it comes while a copy is made,
and the copy is stored when the client asks for a piece after the last one. Seen from both ends this
is what `deliver` does at once.
-/

namespace TaskBoard.Cache

open Http

variable {σ : Type} {settings : Settings} {key : Key} {store : Store σ} {s : σ}

/-! ## Piece by piece -/

inductive Tee where
  /-- These pieces are still to come, and this much has been captured. -/
  | flowing (upstream : Body) (captured : Option Bytes)
  | closed

/-- What comes of asking for a piece. There is none after the end. -/
structure Poll where
  piece : Option (Except String Bytes)
  events : List Event
  rest : Tee

def Tee.poll (settings : Settings) (key : Key) : Tee → Program Poll
  | flowing (.ok chunk :: upstream) captured =>
    .done ⟨some (.ok chunk), [], flowing upstream (capture settings.maxBodyBytes captured chunk)⟩
  | flowing (.error reason :: _) _ =>
    .done ⟨some (.error reason), [.bodyFailed key reason], closed⟩
  | flowing [] (some bytes) =>
    (commit settings key bytes).bind fun events => .done ⟨none, events, closed⟩
  | flowing [] none => .done ⟨none, [], closed⟩
  | closed => .done ⟨none, [], closed⟩

inductive Tee.Act where
  | handed (piece : Except String Bytes)
  /-- The client is told that there is no further piece. -/
  | ended
  | called (c : Call)

def Poll.act (p : Poll) : Tee.Act :=
  match p.piece with
  | some piece => .handed piece
  | none => .ended

structure Watched (σ : Type) where
  /-- What the client and the store get to see, in order. -/
  acts : List Tee.Act
  events : List Event
  state : σ

/-- A client asks so many times, and then drops the body. -/
def watch (settings : Settings) (key : Key) (store : Store σ) : Nat → Tee → σ → Watched σ
  | 0, _, s => ⟨[], [], s⟩
  | n + 1, tee, s =>
    let (poll, s, calls) := (tee.poll settings key).run store.logged (s, [])
    let later := watch settings key store n poll.rest s
    ⟨calls.map .called ++ poll.act :: later.acts, poll.events ++ later.events, later.state⟩

theorem watch_closed (n : Nat) (s : σ) :
    watch settings key store n .closed s = ⟨List.replicate n .ended, [], s⟩ := by
  induction n with
  | zero => rfl
  | succ n ih =>
    rw [watch]
    simp only [Tee.poll, Program.run, ih]
    rfl

/-! ## What a client has read -/

theorem read_zero (body : Body) : body.read (some 0) = ⟨[], false⟩ := by
  simp [Body.read]

theorem read_nil (n : Nat) : Body.read (some (n + 1)) [] = ⟨[], true⟩ := rfl

theorem read_cons_ok (n : Nat) (chunk : Bytes) (body : Body) :
    Body.read (some (n + 1)) (.ok chunk :: body) =
      ⟨.ok chunk :: (body.read (some n)).items, (body.read (some n)).ended⟩ := by
  simp [Body.read, Body.visible, Body.failure?]

theorem read_cons_error (n : Nat) (reason : String) (body : Body) :
    Body.read (some (n + 1)) (.error reason :: body) = ⟨[.error reason], false⟩ := by
  simp [Body.read, Body.visible, Body.failure?]

theorem read_none (body : Body) : body.read none = body.read (some (body.visible.length + 1)) := by
  simp [Body.read, List.take_of_length_le]

theorem visible_eq (body : Body) :
    body.visible = body.takeWhile (·.isOk) ++ (body.dropWhile (·.isOk)).take 1 := by
  induction body with
  | nil => rfl
  | cons piece body ih =>
    cases piece with
    | ok chunk => exact congrArg (.ok chunk :: ·) ih
    | error reason => rfl

theorem failure?_eq_none_iff (body : Body) :
    body.failure? = none ↔ body.all (·.isOk) = true := by
  induction body with
  | nil => simp [Body.failure?]
  | cons piece body ih =>
    cases piece with
    | ok chunk => exact ih
    | error reason => simp [Body.failure?, Except.isOk, Except.toBool]

/-! ## From the first piece to the last -/

/-- What follows a reading if this much had been captured before it. -/
def concluding (settings : Settings) (key : Key) (captured : Option Bytes) (reading : Reading) :
    Program (List Event) :=
  match reading.items.failure? with
  | some reason => .done [.bodyFailed key reason]
  | none =>
    if reading.ended then
      (reading.items.foldl (captureItem settings.maxBodyBytes) captured).elim (.done [])
        (commit settings key)
    else .done []

theorem concluding_start (reading : Reading) :
    concluding settings key (some []) reading = afterReading settings key reading := by
  unfold concluding afterReading
  rw [captureAll_eq_foldl]
  cases reading.items.failure? with
  | some reason => rfl
  | none =>
    simp only
    split
    · cases reading.items.foldl (captureItem settings.maxBodyBytes) (some []) <;> rfl
    · rfl

theorem concluding_cons_ok (n : Nat) (chunk : Bytes) (body : Body) (captured : Option Bytes) :
    concluding settings key captured (Body.read (some (n + 1)) (.ok chunk :: body)) =
      concluding settings key (capture settings.maxBodyBytes captured chunk)
        (body.read (some n)) := by
  rw [read_cons_ok]
  rfl

/-- The pieces first, then the call, if there is one, then the end as often as it is asked for. -/
theorem watch_flowing (n : Nat) (body : Body) (captured : Option Bytes) (s : σ) :
    watch settings key store n (.flowing body captured) s =
      let (events, s', calls) :=
        (concluding settings key captured (body.read (some n))).run store.logged (s, [])
      ⟨(body.read (some n)).items.map .handed ++ calls.map .called ++
        List.replicate (n - body.visible.length) .ended, events, s'⟩ := by
  -- What is captured is carried along, so the induction is over all that may have been captured.
  induction n generalizing body captured s with
  | zero =>
    rw [read_zero]
    simp [watch, concluding, Body.failure?, Program.run]
  | succ n ih =>
    rw [watch]
    cases body with
    | nil =>
      rw [read_nil]
      cases captured with
      | none =>
        simp [Tee.poll, Program.run, watch_closed, Poll.act, Body.visible, concluding,
          Body.failure?, List.replicate_succ]
      | some bytes =>
        simp [Tee.poll, Program.run_bind, Program.run, watch_closed, Poll.act, Body.visible,
          concluding, Body.failure?, List.replicate_succ]
    | cons piece body =>
      cases piece with
      | ok chunk =>
        rw [concluding_cons_ok, read_cons_ok]
        simp only [Tee.poll, Program.run, ih]
        simp [Poll.act, Body.visible]
      | error reason =>
        -- The tee closes, and every later ask is told of the end.
        rw [read_cons_error]
        simp [Tee.poll, Program.run, watch_closed, Poll.act, Body.visible, concluding,
          Body.failure?]

theorem captures_iff (n : Nat) (body : Body) :
    settings.Captures (some n) body ↔
      body.length < n ∧ body.all (·.isOk) = true ∧ body.bytes.length ≤ settings.maxBodyBytes := by
  unfold Settings.Captures Body.Completes
  rw [failure?_eq_none_iff]
  simp only [Option.some.injEq, forall_eq']
  tauto

theorem calls_concluding (n : Nat) (body : Body) (s : σ) :
    ((concluding settings key (some []) (body.read (some n))).run store.logged (s, [])).2.2 =
      if body.length < n ∧ body.all (·.isOk) = true ∧ body.bytes.length ≤ settings.maxBodyBytes
      then [.set key body.bytes settings.ttl] else [] := by
  rw [concluding_start]
  by_cases hcap : settings.Captures (some n) body
  · rw [afterReading_of_captures key hcap, if_pos ((captures_iff n body).mp hcap)]
    exact run_commit_logged key body.bytes s []
  · obtain ⟨events, hevents⟩ := afterReading_of_not_captures key hcap
    rw [hevents, if_neg (mt (captures_iff n body).mpr hcap)]
    rfl

theorem deliver_eq_watch (response : Response) (events : List Event) (n : Nat) (s : σ) :
    (⟨response, some key, events⟩ : Answer).deliver settings store (some n) s =
      let w := watch settings key store n (.flowing response.body (some [])) s
      (response.body.read (some n), w.events, w.state) := by
  rw [watch_flowing, concluding_start]
  obtain ⟨hevents, hstate⟩ :=
    Program.run_logged store (afterReading settings key (response.body.read (some n))) s []
  unfold Answer.deliver
  simp only [hevents, hstate]

/-- Of a body that is kept under a key the client gets, however often it asks, the clean pieces in
order and the failure after them, and nothing else. The store is called if and only if the client
asks for more than all the pieces, none of them is a failure, and they are no longer than may be
kept: then once, after the last piece, with all of them. This is what `deliver` says of a client
that asks so often, or until it knows the end. -/
theorem tee_exact (settings : Settings) (key : Key) (store : Store σ) (response : Response)
    (events : List Event) (n : Nat) (s : σ) :
    let body := response.body
    let w := watch settings key store n (.flowing body (some [])) s
    let seen := body.takeWhile (·.isOk) ++ (body.dropWhile (·.isOk)).take 1
    let deliver := (⟨response, some key, events⟩ : Answer).deliver settings store
    w.acts = (seen.take n).map .handed ++
      (if body.length < n ∧ body.all (·.isOk) = true ∧ body.bytes.length ≤ settings.maxBodyBytes
        then [.called (.set key body.bytes settings.ttl)] else []) ++
      List.replicate (n - seen.length) .ended ∧
    (deliver (some n) s).1.items = seen.take n ∧
    (deliver (some n) s).2 = (w.events, w.state) ∧
    deliver none s = deliver (some (seen.length + 1)) s := by
  intro body w seen deliver
  have hseen : body.visible = seen := visible_eq body
  have hitems : (body.read (some n)).items = seen.take n := by rw [← hseen]; rfl
  have hdeliver : deliver (some n) s = (body.read (some n), w.events, w.state) :=
    deliver_eq_watch response events n s
  refine ⟨?_, by rw [hdeliver, hitems], by rw [hdeliver], ?_⟩
  · have hw : w = _ := watch_flowing n body (some []) s
    rw [hw, ← hseen]
    simp only [calls_concluding, hitems, hseen]
    split <;> rfl
  · have hnone : body.read none = body.read (some (seen.length + 1)) := hseen ▸ read_none body
    simp only [deliver, Answer.deliver]
    rw [hnone]

end TaskBoard.Cache
