import TaskBoard.Cache.Memory
import TaskBoard.Proofs.Remote.Keeper

/-!
# Times to live on a server

A server is told in whole milliseconds how long to keep a value. A time to live is rounded down to
them, and one that is shorter than a millisecond is sent as zero.
-/

namespace TaskBoard.Remote

open Cache Time Text

variable {σ : Type} {server : Server σ} {timeout : Duration} {key : Key} {value : Bytes}
  {ttl : Duration} {s : σ}

/-! ## What is sent -/

/-- A server that writes down the commands it is sent, in order. -/
def Server.logged (server : Server σ) : Server (σ × List Command) := fun c s =>
  let (r, t) := server c s.1
  (r, t, s.2 ++ [c])

theorem send_logged {α : Type} (name : String) (arguments : List Bytes) (take : Reply → Taken α)
    (sent : List Command) :
    (send server.logged timeout name arguments take (s, sent)).2.2 =
      sent ++ [command name arguments] := by
  unfold send Server.logged
  rcases server (Utf8.encode name.toList :: arguments) s with ⟨reply, t⟩
  cases reply with
  | none => rfl
  | some reply =>
    simp only
    cases reply.error? <;> rfl

/-- A command fails only because no answer to it can be used. -/
theorem send_error {α : Type} {name : String} {arguments : List Bytes} {take : Reply → Taken α}
    {e : StoreError} (h : (send server timeout name arguments take s).1 = .error e) :
    ∃ reason, e = .unavailable reason := by
  unfold send at h
  rcases hserver : server (Utf8.encode name.toList :: arguments) s with ⟨reply, t⟩
  simp only [hserver] at h
  cases reply with
  | none => exact ⟨_, (Except.error.inj h).symm⟩
  | some reply =>
    simp only at h
    cases herror : reply.error? with
    | some text =>
      simp only [herror] at h
      exact ⟨_, (Except.error.inj h).symm⟩
    | none =>
      simp only [herror] at h
      cases htake : take reply with
      | error message =>
        rw [htake] at h
        exact ⟨_, (Except.error.inj h).symm⟩
      | ok a =>
        rw [htake] at h
        cases h

def setCommand (key : Key) (millis : Nat) (value : Bytes) : Command :=
  command "PSETEX" [keyBytes key, numberBytes millis, Envelope.encode value]

theorem sent_by_set (h : ttl ≠ 0) :
    (store server.logged timeout (.set key value ttl) (s, [])).2.2 =
      [setCommand key (expiryMillis ttl) value] := by
  simp only [store, if_neg h]
  exact send_logged _ _ _ _

theorem numberBytes_injective : Function.Injective numberBytes := by
  intro a b h
  have hdigits := congrArg digits? (Utf8.encode_injective h)
  rw [digits?_decimal, digits?_decimal] at hdigits
  exact Option.some.inj hdigits

theorem setCommand_inj {a b : Nat} (h : setCommand key a value = setCommand key b value) :
    a = b := by
  unfold setCommand command at h
  apply numberBytes_injective
  simpa using h

/-! ## Whole milliseconds -/

theorem ofMillis_le_iff {n : Nat} : Duration.ofMillis n ≤ ttl ↔ n ≤ ttl.wholeMillis :=
  (Nat.le_div_iff_mul_le (by decide)).symm

theorem ofMillis_expiryMillis_le (ttl : Duration) :
    Duration.ofMillis (expiryMillis ttl) ≤ ttl :=
  ofMillis_le_iff.mpr (Nat.min_le_left _ _)

theorem le_expiryMillis {n : Nat} (hn : n ≤ maxU64) (h : Duration.ofMillis n ≤ ttl) :
    n ≤ expiryMillis ttl :=
  Nat.le_min.mpr ⟨ofMillis_le_iff.mp h, hn⟩

theorem expiryMillis_pos_iff : 0 < expiryMillis ttl ↔ Duration.ofMillis 1 ≤ ttl := by
  constructor
  · intro hpos
    have hone : Duration.ofMillis 1 ≤ Duration.ofMillis (expiryMillis ttl) :=
      Nat.mul_le_mul_right _ hpos
    exact Nat.le_trans hone (ofMillis_expiryMillis_le ttl)
  · intro hone
    exact le_expiryMillis (by decide) hone

/-! ## Usable expiries -/

/-- The server is told to keep the value for a positive number of milliseconds that is no longer
than its time to live; or the time to live is refused, and nothing is sent. -/
def SetsInTime (server : Server σ) (timeout : Duration) (key : Key) (value : Bytes)
    (ttl : Duration) (s : σ) : Prop :=
  let set := store server.logged timeout (.set key value ttl) (s, [])
  (∃ millis, 0 < millis ∧ Duration.ofMillis millis ≤ ttl ∧
    set.2.2 = [setCommand key millis value]) ∨
  (set.1 = .error (.invalidTtl ttl) ∧ set.2.2 = [])

theorem setsInTime_iff :
    SetsInTime server timeout key value ttl s ↔ ttl = 0 ∨ Duration.ofMillis 1 ≤ ttl := by
  simp only [SetsInTime]
  by_cases hzero : ttl = 0
  · subst hzero
    simp [store]
  · rw [sent_by_set hzero, ← expiryMillis_pos_iff]
    constructor
    · rintro (⟨millis, hpos, -, hsent⟩ | ⟨-, hsent⟩)
      · exact Or.inr (setCommand_inj (List.singleton_inj.mp hsent) ▸ hpos)
      · cases hsent
    · rintro (h | hpos)
      · exact absurd h hzero
      · exact Or.inl ⟨_, hpos, ofMillis_expiryMillis_le ttl, rfl⟩

/-- The store in memory accepts every time to live but zero. For an accepted one the server is sent
one command, with the longest time in 64 bits that is no longer; it is a usable one, or refused
before anything is sent, exactly if the time to live is zero or at least a millisecond. -/
theorem usable_expiry_iff_millisecond (server : Server σ) (timeout : Duration) (key : Key)
    (value : Bytes) (ttl : Duration) (s : σ) :
    (∀ now m, (Memory.store now (.set key value ttl) m).1 = .ok () ↔ ttl ≠ 0) ∧
    (ttl ≠ 0 → ∃ millis ≤ maxU64,
      (store server.logged timeout (.set key value ttl) (s, [])).2.2 =
        [setCommand key millis value] ∧
      Duration.ofMillis millis ≤ ttl ∧
      ∀ n ≤ maxU64, Duration.ofMillis n ≤ ttl → n ≤ millis) ∧
    (SetsInTime server timeout key value ttl s ↔ ttl = 0 ∨ Duration.ofMillis 1 ≤ ttl) := by
  refine ⟨fun now m => ?_, fun hne => ?_, setsInTime_iff⟩
  · unfold Memory.store
    by_cases hzero : ttl = 0 <;> simp [hzero]
  · exact ⟨expiryMillis ttl, Nat.min_le_right _ _, sent_by_set hne, ofMillis_expiryMillis_le ttl,
      fun n hn => le_expiryMillis hn⟩

/-- A second and a half is kept for as long, and the longest time to live there is for as many
milliseconds as 64 bits hold. -/
theorem usable_expiries :
    (Duration.ofMillis 1500 ≠ 0 ∧
      SetsInTime keeper 0 ⟨['k']⟩ [0x76] (Duration.ofMillis 1500) fun _ => none) ∧
    ∃ millis ≤ maxU64,
      (store keeper.logged 0 (.set ⟨['k']⟩ [0x76] (Duration.ofSeconds maxU64))
        (fun _ => none, [])).2.2 = [setCommand ⟨['k']⟩ millis [0x76]] ∧
      maxU64 ≤ millis := by
  have hone : Duration.ofMillis 1 ≤ Duration.ofMillis 1500 := by decide
  have hlong : Duration.ofMillis maxU64 ≤ Duration.ofSeconds maxU64 := by decide
  obtain ⟨-, -, husable⟩ := usable_expiry_iff_millisecond keeper 0 ⟨['k']⟩ [0x76]
    (Duration.ofMillis 1500) fun _ => none
  obtain ⟨-, hsent, -⟩ := usable_expiry_iff_millisecond keeper 0 ⟨['k']⟩ [0x76]
    (Duration.ofSeconds maxU64) fun _ => none
  obtain ⟨millis, hle, hsent, -, hlongest⟩ := hsent (by decide)
  exact ⟨⟨by decide, husable.mpr (Or.inr hone)⟩, millis, hle, hsent,
    hlongest maxU64 (Nat.le_refl _) hlong⟩

theorem keeper_refuses_submillisecond {holdings : Holdings} (hne : ttl ≠ 0)
    (hshort : ttl < Duration.ofMillis 1) :
    store keeper timeout (.set key value ttl) holdings =
      (.error (unavailable (errorMessage "ERR invalid expire time".toList)), holdings) := by
  have hzero : expiryMillis ttl = 0 :=
    Nat.eq_zero_of_not_pos (mt expiryMillis_pos_iff.mp (Nat.not_le.mpr hshort))
  simp only [store, if_neg hne, hzero, send, keeper, digits?_numberBytes, if_true]
  rfl

/-- One nanosecond less than a millisecond is accepted by the store in memory, and sent as zero,
which the server refuses. -/
theorem submillisecond_sent_as_zero :
    (Memory.store 0 (.set ⟨['k']⟩ [0x76] 999999) []).1 = .ok () ∧
    (store keeper.logged 0 (.set ⟨['k']⟩ [0x76] 999999) (fun _ => none, [])).2.2 =
      [setCommand ⟨['k']⟩ 0 [0x76]] ∧
    (store keeper 0 (.set ⟨['k']⟩ [0x76] 999999) fun _ => none).1 =
      .error (unavailable (errorMessage "ERR invalid expire time".toList)) ∧
    ¬ SetsInTime keeper 0 ⟨['k']⟩ [0x76] 999999 fun _ => none := by
  refine ⟨by rfl, sent_by_set (by decide), ?_, ?_⟩
  · rw [keeper_refuses_submillisecond (by decide) (by decide)]
  · rw [setsInTime_iff]
    decide

end TaskBoard.Remote
