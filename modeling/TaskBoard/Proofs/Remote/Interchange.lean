import TaskBoard.Proofs.Cache.Envelope
import TaskBoard.Proofs.Cache.Journal
import TaskBoard.Proofs.Remote.Keeper

/-!
# Two stores, one behaviour

The store in memory keeps bodies with deadlines, and drops what has expired when it stores
something else. A remote store keeps bodies in envelopes, and its server lets them expire. Nobody
who uses them can tell which is which.
-/

namespace TaskBoard.Remote

open Cache Time

variable {σ : Type}

/-! ## Runs -/

/-- The calls on one key or on all of them, with a time to live that is a whole number of
milliseconds up to 30 days, or none. -/
def Plain : Call → Prop
  | .get _ | .delete _ | .clear => True
  | .set _ _ ttl => ∃ millis ≤ longestMillis, ttl = Duration.ofMillis millis
  | .keysMatching _ | .ping => False

/-- Time passes, or a call is made. -/
inductive Step where
  | wait (millis : Nat)
  | call (c : Call) (plain : Plain c)

/-- A call, and what it was answered. -/
abbrev Answer := Σ c : Call, c.Reply

/-- The answers of a store, whose state changes with time as `wait` says. -/
def transcript (store : Instant → Store σ) (wait : Nat → σ → σ) (clock : Instant) (s : σ) :
    List Step → List Answer
  | [] => []
  | .wait millis :: steps =>
    transcript store wait (clock + Duration.ofMillis millis) (wait millis s) steps
  | .call c _ :: steps =>
    let (r, s) := store clock c s
    ⟨c, r⟩ :: transcript store wait clock s steps

/-- What the clock shows after the steps. -/
def clockAfter (clock : Instant) : List Step → Instant
  | [] => clock
  | .wait millis :: steps => clockAfter (clock + Duration.ofMillis millis) steps
  | .call .. :: steps => clockAfter clock steps

theorem le_clockAfter (clock : Instant) (steps : List Step) : clock ≤ clockAfter clock steps := by
  induction steps generalizing clock with
  | nil => exact Nat.le_refl _
  | cons step steps ih =>
    cases step with
    | wait millis => exact Nat.le_trans (Nat.le_add_right _ _) (ih _)
    | call c plain => exact ih clock

/-! ## The same holdings -/

section

variable {clock : Instant} {m : Memory} {held : Option Holding} {holdings : Holdings} {key : Key}
  {value : Bytes} {ending : Instant} {millis : Nat}

/-- As long as the clock runs, the entry is alive before the end and not from then on. -/
def Lasts (e : Entry) (ending : Instant) : Prop :=
  ∀ later < Memory.horizon, Memory.isLive later e = true ↔ later < ending

/-- What a server holds under a key is the live entry of a memory, with its value in an
envelope. -/
inductive Same (clock : Instant) (m : Memory) (key : Key) : Option Holding → Prop
  | absent (h : ∀ e ∈ Memory.live clock m, e.key ≠ key) : Same clock m key none
  | present (e : Entry) (h : e ∈ Memory.live clock m) (hkey : e.key = key) (left : Nat)
      (hlasts : Lasts e (clock + Duration.ofMillis left)) :
      Same clock m key (some (Envelope.encode e.value, left))

theorem ofMillis_lt_iff {a b : Nat} : Duration.ofMillis a < Duration.ofMillis b ↔ a < b := by
  have hmilli : 0 < Duration.nanosPerMilli := by decide
  exact Nat.mul_lt_mul_right hmilli

theorem Same.wait (h : Same clock m key held) (hdistinct : m.Distinct)
    (hclock : clock + Duration.ofMillis millis < Memory.horizon) :
    Same (clock + Duration.ofMillis millis) m key (passed millis held) := by
  have hle : clock ≤ clock + Duration.ofMillis millis := Nat.le_add_right _ _
  cases h with
  | absent hnone => exact .absent fun e he => hnone e ((Memory.mem_live_of_le hle).mp he).1
  | present e he hkey left hlasts =>
    simp only [passed]
    split
    · next hleft =>
      have hending : clock + Duration.ofMillis millis + Duration.ofMillis (left - millis) =
          clock + Duration.ofMillis left := by
        unfold Duration.ofMillis
        rw [Nat.add_assoc, ← Nat.add_mul, Nat.add_sub_cancel' (Nat.le_of_lt hleft)]
      have hlive : Memory.isLive (clock + Duration.ofMillis millis) e = true :=
        (hlasts _ hclock).mpr (Nat.add_lt_add_left (ofMillis_lt_iff.mpr hleft) _)
      refine .present e ((Memory.mem_live_of_le hle).mpr ⟨he, hlive⟩) hkey _ ?_
      rw [hending]
      exact hlasts
    · next hleft =>
      -- The only entry with this key has expired.
      refine .absent fun e' he' hkey' => hleft ?_
      obtain ⟨hbefore, hlive⟩ := (Memory.mem_live_of_le hle).mp he'
      obtain rfl := hdistinct.eq_of_key_eq hbefore he (hkey'.trans hkey.symm)
      exact ofMillis_lt_iff.mp (Nat.lt_of_add_lt_add_left ((hlasts _ hclock).mp hlive))

/-- A key is held as before if its live entry is the same. -/
theorem Same.congr {m' : Memory} (h : Same clock m key held)
    (hlive : ∀ e : Entry, e.key = key → (e ∈ Memory.live clock m' ↔ e ∈ Memory.live clock m)) :
    Same clock m' key held := by
  cases h with
  | absent hnone => exact .absent fun e he hkey => hnone e ((hlive e hkey).mp he) hkey
  | present e he hkey left hlasts => exact .present e ((hlive e hkey).mpr he) hkey left hlasts

structure Matches (clock : Instant) (m : Memory) (holdings : Holdings) : Prop where
  distinct : m.Distinct
  same : ∀ key, Same clock m key (holdings (keyBytes key))

theorem keyBytes_injective : Function.Injective keyBytes := by
  rintro ⟨a⟩ ⟨b⟩ h
  exact congrArg Key.mk (Text.Utf8.encode_injective h)

theorem matches_nil (clock : Instant) : Matches clock [] fun _ => none :=
  ⟨Memory.distinct_nil, fun _ => .absent fun _ he => absurd he List.not_mem_nil⟩

namespace Matches

theorem wait (h : Matches clock m holdings)
    (hclock : clock + Duration.ofMillis millis < Memory.horizon) :
    Matches (clock + Duration.ofMillis millis) m (holdings.after millis) :=
  ⟨h.distinct, fun key => (h.same key).wait h.distinct hclock⟩

theorem opened_eq (h : Matches clock m holdings) (key : Key) :
    opened (.ok ((holdings (keyBytes key)).map Prod.fst)) =
      (Memory.store clock (.get key) m).1 := by
  have hsame := h.same key
  generalize holdings (keyBytes key) = held at hsame ⊢
  simp only [Memory.store]
  cases hsame with
  | absent hnone =>
    rw [Memory.lookup?_eq_none_iff.mpr hnone]
    rfl
  | present e he hkey left hlasts =>
    rw [(Memory.lookup?_eq_some_iff h.distinct).mpr ⟨he, hkey⟩]
    exact Envelope.decode_encode e.value

theorem put (h : Matches clock m holdings) (hclock : clock < Memory.horizon) (key : Key)
    (value : Bytes) (hpos : 0 < millis) :
    Matches clock (Memory.put clock key value (Duration.ofMillis millis) m)
      (Function.update holdings (keyBytes key) (some (Envelope.encode value, millis))) := by
  refine ⟨h.distinct.put, fun key' => ?_⟩
  by_cases hkey : key' = key
  · subst hkey
    rw [Function.update_self]
    let e : Entry := ⟨key', value, Memory.deadline clock (Duration.ofMillis millis)⟩
    have hlasts : Lasts e (clock + Duration.ofMillis millis) :=
      fun later hlater => Memory.isLive_deadline_iff hlater
    have hlive : Memory.isLive clock e = true :=
      (hlasts clock hclock).mpr (Nat.lt_add_of_pos_right (ofMillis_pos hpos))
    exact .present e ((Memory.mem_live_put (Nat.le_refl _)).mpr (.inr ⟨rfl, hlive⟩)) rfl millis
      hlasts
  · rw [Function.update_of_ne (keyBytes_injective.ne hkey)]
    refine (h.same key').congr fun e he => ?_
    rw [Memory.mem_live_put (Nat.le_refl _)]
    constructor
    · rintro (⟨hold, -⟩ | ⟨rfl, -⟩)
      · exact hold
      · exact absurd he.symm hkey
    · exact fun hold => .inl ⟨hold, he ▸ hkey⟩

theorem remove (h : Matches clock m holdings) (key : Key) :
    Matches clock (Memory.remove key m) (Function.update holdings (keyBytes key) none) := by
  refine ⟨h.distinct.filter _, fun key' => ?_⟩
  by_cases hkey : key' = key
  · subst hkey
    rw [Function.update_self]
    exact .absent fun e he => of_decide_eq_true (Memory.mem_live_filter.mp he).2
  · rw [Function.update_of_ne (keyBytes_injective.ne hkey)]
    refine (h.same key').congr fun e he => ?_
    rw [Memory.remove, Memory.mem_live_filter]
    exact and_iff_left (decide_eq_true (he ▸ hkey))

end Matches

end

/-! ## The same answers -/

variable {server : Server σ} {wait : Nat → σ → σ} {holds : σ → Holdings} {clock : Instant}
  {m : Memory} {s : σ}

/-- A call is answered alike, and what is held matches the memory after it. -/
theorem Matches.call (h : Matches clock m (holds s)) (hkeeps : Keeps server wait holds)
    (hclock : clock < Memory.horizon) (timeout : Duration) {c : Call} (plain : Plain c) :
    ∃ t, store server timeout c s = ((Memory.store clock c m).1, t) ∧
      Matches clock (Memory.store clock c m).2 (holds t) := by
  cases c with
  | get key =>
    obtain ⟨t, hreply, ht⟩ := hkeeps.store_get timeout key s
    refine ⟨t, ?_, ?_⟩
    · rw [hreply, h.opened_eq]
    · rw [ht, Memory.store_get]
      exact h
  | set key value ttl =>
    obtain ⟨millis, hle, rfl⟩ := plain
    rcases Nat.eq_zero_or_pos millis with rfl | hpos
    · exact ⟨s, rfl, h⟩
    · obtain ⟨t, hreply, ht⟩ := hkeeps.store_set timeout key value hpos hle s
      have httl : Duration.ofMillis millis ≠ 0 := Nat.ne_of_gt (ofMillis_pos hpos)
      refine ⟨t, ?_, ?_⟩
      · rw [hreply, Memory.store, if_neg httl]
      · rw [ht, Memory.store, if_neg httl]
        exact h.put hclock key value hpos
  | delete key =>
    obtain ⟨t, hreply, ht⟩ := hkeeps.store_delete timeout key s
    exact ⟨t, hreply, ht ▸ h.remove key⟩
  | clear =>
    obtain ⟨t, hreply, ht⟩ := hkeeps.store_clear timeout s
    exact ⟨t, hreply, ht ▸ matches_nil clock⟩
  | keysMatching pattern | ping => exact plain.elim

theorem Matches.transcript_eq (h : Matches clock m (holds s)) (hkeeps : Keeps server wait holds)
    (timeout : Duration) {steps : List Step}
    (hclock : clockAfter clock steps < Memory.horizon) :
    transcript (fun _ => store server timeout) wait clock s steps =
      transcript Memory.store (fun _ m => m) clock m steps := by
  -- The clock runs at every step, since it does at the end.
  induction steps generalizing clock m s with
  | nil => rfl
  | cons step steps ih =>
    cases step with
    | wait millis =>
      have hlater : clock + Duration.ofMillis millis < Memory.horizon :=
        Nat.lt_of_le_of_lt (le_clockAfter _ steps) hclock
      have hwaited : Matches _ m (holds (wait millis s)) := hkeeps.wait millis s ▸ h.wait hlater
      exact ih hwaited hclock
    | call c plain =>
      have hnow : clock < Memory.horizon := Nat.lt_of_le_of_lt (le_clockAfter _ steps) hclock
      obtain ⟨t, hreply, ht⟩ := h.call hkeeps hnow timeout plain
      simp only [transcript, hreply, ih ht hclock]

/-- Whatever is done with two stores that begin empty, while the clock runs, the one in memory and
the one on a server that keeps values answer every call alike. Without a time to live neither of
them stores anything. -/
theorem stores_interchangeable (hkeeps : Keeps server wait holds) (timeout : Duration)
    (start : Instant) (s : σ) (hempty : holds s = fun _ => none) (steps : List Step)
    (hclock : clockAfter start steps < Memory.horizon) :
    transcript (fun _ => store server timeout) wait start s steps =
      transcript Memory.store (fun _ m => m) start [] steps ∧
    ∀ key value,
      (∀ now m, Memory.store now (.set key value 0) m = (.error (.invalidTtl 0), m)) ∧
      ∀ s, store server timeout (.set key value 0) s = (.error (.invalidTtl 0), s) := by
  have hmatches : Matches start [] (holds s) := hempty ▸ matches_nil start
  exact ⟨hmatches.transcript_eq hkeeps timeout hclock,
    fun key value => ⟨fun _ _ => rfl, fun _ => rfl⟩⟩

/-- A value is there for a second, and is not replaced by one without a time to live. -/
theorem keeper_interchangeable :
    let key : Key := ⟨['k']⟩
    let steps : List Step := [
      .call (.set key [104, 105] (Duration.ofMillis 1000)) ⟨1000, by decide, rfl⟩,
      .call (.set key [] 0) ⟨0, by decide, rfl⟩,
      .wait 999,
      .call (.get key) trivial,
      .wait 1,
      .call (.get key) trivial]
    let answers : List Answer := [
      ⟨.set key [104, 105] (Duration.ofMillis 1000), .ok ()⟩,
      ⟨.set key [] 0, .error (.invalidTtl 0)⟩,
      ⟨.get key, .ok [104, 105]⟩,
      ⟨.get key, .error .notFound⟩]
    clockAfter 0 steps < Memory.horizon ∧
    transcript Memory.store (fun _ m => m) 0 [] steps = answers ∧
    transcript (fun _ => store keeper 0) (fun millis holdings => holdings.after millis) 0
      (fun _ => none) steps = answers := by
  intro key steps answers
  have hclock : clockAfter 0 steps < Memory.horizon := by decide +kernel
  have hmemory : transcript Memory.store (fun _ m => m) 0 [] steps = answers := by rfl
  obtain ⟨hsame, -⟩ := stores_interchangeable keeps_keeper 0 0 (fun _ => none) rfl steps hclock
  exact ⟨hclock, hmemory, hsame.trans hmemory⟩

end TaskBoard.Remote
