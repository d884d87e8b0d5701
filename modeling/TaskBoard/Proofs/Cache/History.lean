import Mathlib.Data.List.Induction
import TaskBoard.Proofs.Cache.Run

/-!
# From which request a read is served

A read is answered from the store exactly if the run holds an earlier read of the same key that
could be stored, less than the time to live ago, and no write to its collection since. The answer is
the whole body of that read.
-/

namespace TaskBoard.Cache

open Http Time

/-! ## Runs -/

/-- Time passes, or a request is answered and its answer read. -/
inductive Occurrence where
  | pause (d : Duration)
  | exchange (x : Exchange)

def Occurrence.duration : Occurrence → Duration
  | pause d => d
  | exchange x => x.lasting

def passed : List Occurrence → Duration
  | [] => 0
  | o :: os => o.duration + passed os

def Scene.next (settings : Settings) (s : Scene) : Occurrence → Scene
  | .pause d => { s with clock := s.clock + d }
  | .exchange x => x.finish settings s

def sceneAfter (settings : Settings) (start : Instant) (past : List Occurrence) : Scene :=
  past.foldl (Scene.next settings) ⟨start, []⟩

/-- Occurrences that begin with an empty store and come to an end before the clock does. -/
structure Run where
  start : Instant
  past : List Occurrence
  inTime : start + passed past < Memory.horizon

def Run.scene (settings : Settings) (run : Run) : Scene := sceneAfter settings run.start run.past

/-- What makes later reads of a key be served with the body of `x₀`, which came between the
occurrences `earlier` and `later`. -/
structure Serves (settings : Settings) (start : Instant) (earlier : List Occurrence) (x₀ : Exchange)
    (later : List Occurrence) (key : Key) : Prop where
  populates : Populates settings (sceneAfter settings start earlier) x₀
  sameKey : x₀.key settings = key
  fresh : passed later < settings.ttl
  untouched : ∀ y, .exchange y ∈ later → ¬ y.Invalidates settings key

variable {settings : Settings} {start : Instant} {past : List Occurrence} {o : Occurrence}
  {x₀ : Exchange} {finished : Instant}

theorem passed_append (a b : List Occurrence) : passed (a ++ b) = passed a + passed b := by
  induction a with
  | nil => exact (Nat.zero_add _).symm
  | cons o a ih => rw [List.cons_append, passed, ih, passed, Nat.add_assoc]

theorem passed_snoc (past : List Occurrence) (o : Occurrence) :
    passed (past ++ [o]) = passed past + o.duration := by
  rw [passed_append, passed, passed, Nat.add_zero]

theorem sceneAfter_snoc (settings : Settings) (start : Instant) (past : List Occurrence)
    (o : Occurrence) :
    sceneAfter settings start (past ++ [o]) = (sceneAfter settings start past).next settings o := by
  simp [sceneAfter]

theorem clock_next (s : Scene) (o : Occurrence) :
    (s.next settings o).clock = s.clock + o.duration := by
  cases o <;> rfl

theorem clock_sceneAfter (settings : Settings) (start : Instant) (past : List Occurrence) :
    (sceneAfter settings start past).clock = start + passed past := by
  induction past using List.reverseRecOn with
  | nil => rfl
  | append_singleton past o ih => rw [sceneAfter_snoc, clock_next, ih, passed_snoc, Nat.add_assoc]

/-! ## What a run leaves in the store -/

/-- The run has stored the body of `x₀` and no write has removed it since. -/
def Left (settings : Settings) (start : Instant) (past : List Occurrence) (x₀ : Exchange)
    (finished : Instant) : Prop :=
  ∃ earlier later, past = earlier ++ .exchange x₀ :: later ∧
    Populates settings (sceneAfter settings start earlier) x₀ ∧
    finished = start + passed earlier + x₀.lasting ∧
    ∀ y, .exchange y ∈ later → ¬ y.Invalidates settings (x₀.key settings)

theorem not_left_nil : ¬ Left settings start [] x₀ finished := by
  rintro ⟨earlier, later, h, -⟩
  simp at h

theorem left_snoc :
    Left settings start (past ++ [o]) x₀ finished ↔
      (Left settings start past x₀ finished ∧
        ∀ y, o = .exchange y → ¬ y.Invalidates settings (x₀.key settings)) ∨
      (o = .exchange x₀ ∧ Populates settings (sceneAfter settings start past) x₀ ∧
        finished = start + passed past + x₀.lasting) := by
  constructor
  · rintro ⟨earlier, later, hpast, hpop, hfin, huntouched⟩
    rcases List.eq_nil_or_concat later with rfl | ⟨later, o', rfl⟩
    · obtain ⟨rfl, ho⟩ := List.append_inj' hpast rfl
      exact Or.inr ⟨List.singleton_inj.mp ho, hpop, hfin⟩
    · rw [List.concat_eq_append] at hpast huntouched
      rw [← List.cons_append, ← List.append_assoc] at hpast
      obtain ⟨rfl, ho⟩ := List.append_inj' hpast rfl
      obtain rfl := List.singleton_inj.mp ho
      refine Or.inl ⟨⟨earlier, later, rfl, hpop, hfin, fun y hy => ?_⟩, ?_⟩
      · exact huntouched y (List.mem_append_left _ hy)
      · rintro y rfl
        exact huntouched y (List.mem_append_right _ (List.mem_singleton.mpr rfl))
  · rintro (⟨⟨earlier, later, rfl, hpop, hfin, huntouched⟩, ho⟩ | ⟨rfl, hpop, hfin⟩)
    · refine ⟨earlier, later ++ [o], by simp, hpop, hfin, fun y hy => ?_⟩
      rcases List.mem_append.mp hy with hy | hy
      · exact huntouched y hy
      · exact ho y (List.mem_singleton.mp hy).symm
    · exact ⟨past, [], rfl, hpop, hfin, by simp⟩

/-- The live entries of the store are those that the run accounts for. -/
structure Accounted (settings : Settings) (start : Instant) (past : List Occurrence) (s : Scene) :
    Prop where
  distinct : s.memory.Distinct
  live : ∀ e, e ∈ Memory.live s.clock s.memory ↔
    ∃ x₀ finished, Left settings start past x₀ finished ∧ e = x₀.entry settings finished ∧
      Memory.isLive s.clock e = true

theorem accounted_pause {s : Scene} {d : Duration} (h : Accounted settings start past s) :
    Accounted settings start (past ++ [.pause d]) (s.next settings (.pause d)) := by
  refine ⟨h.distinct, fun e => ?_⟩
  change e ∈ Memory.live (s.clock + d) s.memory ↔ _
  have hle : s.clock ≤ s.clock + d := Nat.le_add_right _ _
  have hleft : ∀ x₀ f, Left settings start (past ++ [.pause d]) x₀ f ↔
      Left settings start past x₀ f := fun x₀ f => by rw [left_snoc]; simp
  rw [Memory.mem_live_of_le hle, h.live]
  simp only [hleft]
  constructor
  · rintro ⟨⟨x₀, f, hl, he, -⟩, hlive⟩
    exact ⟨x₀, f, hl, he, hlive⟩
  · rintro ⟨x₀, f, hl, he, hlive⟩
    exact ⟨⟨x₀, f, hl, he, Memory.isLive_of_le hle hlive⟩, hlive⟩

theorem accounted_exchange {x : Exchange} (henabled : settings.enabled = true)
    (hclock : start + passed past + x.lasting < Memory.horizon)
    (h : Accounted settings start past (sceneAfter settings start past)) :
    Accounted settings start (past ++ [.exchange x])
      ((sceneAfter settings start past).next settings (.exchange x)) := by
  have hfin : x.finished (sceneAfter settings start past) = start + passed past + x.lasting := by
    rw [Exchange.finished, clock_sceneAfter]
  refine ⟨distinct_finish henabled h.distinct, fun e => ?_⟩
  change e ∈ Memory.live (x.finished _) (x.finish settings _).memory ↔
    ∃ x₀ f, _ ∧ _ ∧ Memory.isLive (x.finished _) e = true
  have hle : (sceneAfter settings start past).clock ≤ x.finished (sceneAfter settings start past) :=
    Nat.le_add_right _ _
  rw [mem_live_finish henabled (hfin ▸ hclock), h.live]
  constructor
  · rintro ⟨⟨⟨x₀, f, hl, rfl, -⟩, hinv⟩ | ⟨hpop, rfl⟩, hlive⟩
    · refine ⟨x₀, f, left_snoc.mpr (Or.inl ⟨hl, ?_⟩), rfl, hlive⟩
      intro y hy
      cases hy
      exact hinv
    · exact ⟨x, _, left_snoc.mpr (Or.inr ⟨rfl, hpop, hfin⟩), rfl, hlive⟩
  · rintro ⟨x₀, f, hl, rfl, hlive⟩
    refine ⟨?_, hlive⟩
    rcases left_snoc.mp hl with ⟨hl, hinv⟩ | ⟨ho, hpop, rfl⟩
    · exact Or.inl ⟨⟨x₀, f, hl, rfl, Memory.isLive_of_le hle hlive⟩, hinv x rfl⟩
    · cases ho
      exact Or.inr ⟨hpop, by rw [hfin]⟩

theorem accounted_sceneAfter (henabled : settings.enabled = true)
    (hclock : start + passed past < Memory.horizon) :
    Accounted settings start past (sceneAfter settings start past) := by
  induction past using List.reverseRecOn with
  | nil =>
    refine ⟨Memory.distinct_nil, fun e => ?_⟩
    simp [sceneAfter, Memory.live, not_left_nil]
  | append_singleton past o ih =>
    rw [passed_snoc, ← Nat.add_assoc] at hclock
    have hpast := ih (Nat.lt_of_le_of_lt (Nat.le_add_right _ _) hclock)
    rw [sceneAfter_snoc]
    cases o with
    | pause d => exact accounted_pause hpast
    | exchange x => exact accounted_exchange henabled hclock hpast

/-! ## Reads -/

theorem serves_iff_left {run : Run} {key : Key} {x₀ : Exchange} :
    (∃ earlier later, run.past = earlier ++ .exchange x₀ :: later ∧
      Serves settings run.start earlier x₀ later key) ↔
    ∃ f, Left settings run.start run.past x₀ f ∧ x₀.key settings = key ∧
      Memory.isLive (run.scene settings).clock (x₀.entry settings f) = true := by
  have hin : (run.scene settings).clock < Memory.horizon := by
    rw [Run.scene, clock_sceneAfter]
    exact run.inTime
  have hlive : ∀ earlier later, run.past = earlier ++ .exchange x₀ :: later →
      (Memory.isLive (run.scene settings).clock
        (x₀.entry settings (run.start + passed earlier + x₀.lasting)) = true ↔
          passed later < settings.ttl) := by
    intro earlier later hpast
    have hsum : passed run.past = passed earlier + (x₀.lasting + passed later) := by
      rw [hpast, passed_append]
      rfl
    rw [Exchange.entry, Memory.isLive_deadline_iff hin, Run.scene, clock_sceneAfter, hsum,
      ← Nat.add_assoc, ← Nat.add_assoc]
    exact Nat.add_lt_add_iff_left
  constructor
  · rintro ⟨earlier, later, hpast, hpop, rfl, hfresh, huntouched⟩
    exact ⟨_, ⟨earlier, later, hpast, hpop, rfl, huntouched⟩, rfl,
      (hlive earlier later hpast).mpr hfresh⟩
  · rintro ⟨f, ⟨earlier, later, hpast, hpop, rfl, huntouched⟩, rfl, hl⟩
    exact ⟨earlier, later, hpast, hpop, rfl, (hlive earlier later hpast).mp hl, huntouched⟩

/-- A read of a run is answered from the store exactly if some earlier exchange serves it, and then
with the whole body of that exchange. -/
theorem read_fromStore_iff_serves (settings : Settings) (henabled : settings.enabled = true)
    (run : Run) (x : Exchange) (hget : x.request.method = .get) :
    (x.FromStore settings (run.scene settings) ↔
      ∃ x₀ earlier later, run.past = earlier ++ .exchange x₀ :: later ∧
        Serves settings run.start earlier x₀ later (x.key settings)) ∧
    ∀ x₀ earlier later, run.past = earlier ++ .exchange x₀ :: later →
      Serves settings run.start earlier x₀ later (x.key settings) →
      x.response settings (run.scene settings) = replay x₀.origin.body.bytes ∧
        (x.response settings (run.scene settings)).body.bytes = x₀.origin.body.bytes := by
  have hacc : Accounted settings run.start run.past (run.scene settings) :=
    accounted_sceneAfter henabled run.inTime
  have hlookup : ∀ e, Memory.lookup? (run.scene settings).clock (x.key settings)
      (run.scene settings).memory = some e ↔
        ∃ x₀ f, (Left settings run.start run.past x₀ f ∧ x₀.key settings = x.key settings ∧
          Memory.isLive (run.scene settings).clock (x₀.entry settings f) = true) ∧
          e = x₀.entry settings f := by
    intro e
    rw [Memory.lookup?_eq_some_iff hacc.distinct, hacc.live]
    constructor
    · rintro ⟨⟨x₀, f, hl, rfl, hlive⟩, hkey⟩
      exact ⟨x₀, f, ⟨hl, hkey, hlive⟩, rfl⟩
    · rintro ⟨x₀, f, ⟨hl, hkey, hlive⟩, rfl⟩
      exact ⟨⟨x₀, f, hl, rfl, hlive⟩, hkey⟩
  refine ⟨?_, ?_⟩
  · rw [fromStore_iff_lookup henabled hget]
    simp only [hlookup, serves_iff_left]
    constructor
    · rintro ⟨_, x₀, f, hleft, rfl⟩
      exact ⟨x₀, f, hleft⟩
    · rintro ⟨x₀, f, hleft⟩
      exact ⟨_, x₀, f, hleft, rfl⟩
  · intro x₀ earlier later hpast hserves
    obtain ⟨f, hleft⟩ := serves_iff_left.mp ⟨earlier, later, hpast, hserves⟩
    have hreplay : x.response settings (run.scene settings) = replay x₀.origin.body.bytes := by
      rw [Exchange.response, respond_of_hit henabled hget ((hlookup _).mpr ⟨x₀, f, hleft, rfl⟩)]
      rfl
    exact ⟨hreplay, by rw [hreplay]; exact Body.bytes_fixed _⟩

/-- A read of the task list whose answer comes in two pieces and is read to its end. -/
def listing : Exchange :=
  ⟨⟨.get, ⟨"/api/v1/tasks".toList, none⟩, [], []⟩, ⟨200, [], [.ok [0x5B], .ok [0x5D]], none⟩, none,
    7⟩

/-- A second reading, a nanosecond before the first has been stored for its time to live. -/
theorem listing_served_again :
    ∃ run : Run, run.past = [.exchange listing, .pause (Settings.standard.ttl - 1)] ∧
      listing.FromStore .standard (run.scene .standard) ∧
      (listing.response .standard (run.scene .standard)).body.bytes = [0x5B, 0x5D] := by
  have hstandard : Settings.standard.enabled = true := rfl
  let run : Run := ⟨0, [.exchange listing, .pause (Settings.standard.ttl - 1)], by decide⟩
  have hserves : Serves .standard 0 [] listing [.pause (Settings.standard.ttl - 1)]
      (listing.key .standard) := by
    refine ⟨⟨rfl, ?_, Or.inl rfl, ?_⟩, rfl, by decide, by simp⟩
    · simp [Exchange.FromStore, Exchange.respond, sceneAfter, Cache.respond,
        course_of_read hstandard (show listing.request.method = .get from rfl),
        run_lookup, Memory.lookup?, Memory.live]
    · exact ⟨⟨by decide, by simp [listing]⟩, by decide⟩
  obtain ⟨hiff, hbody⟩ := read_fromStore_iff_serves .standard hstandard run listing rfl
  exact ⟨run, rfl, hiff.mpr ⟨listing, [], _, rfl, hserves⟩, (hbody listing [] _ rfl hserves).2⟩

end TaskBoard.Cache
