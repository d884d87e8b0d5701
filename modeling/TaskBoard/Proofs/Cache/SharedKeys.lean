import Mathlib
import TaskBoard.Proofs.Cache.History

/-!
# Keys of different callers

A caller stands in a key as it is, with the id and the query after it. A caller whose name goes on
with a colon after the name of another may share the other's key: what is its name in one key is
the id or the query in the other. Callers without colons never do. As long as no key is shared, a
caller gets what it would get if the others had not read anything.
-/

namespace TaskBoard.Cache

open Http Time

/-! ## Up to the caller, and after -/

def KeySpace.upToCaller (space : KeySpace) (t : Target) : List Char :=
  space.collection t.path ++ colonPart t.scope

def Target.afterCaller (t : Target) : List Char :=
  colonPart (resourceId t.path) ++ colonPart (normalizedQuery t.query)

/-- The caller of `u` ends in the id and the query of `t`, and what follows is the same in both. -/
def KeySpace.RunsInto (space : KeySpace) (t u : Target) : Prop :=
  ∃ more, space.upToCaller u = space.upToCaller t ++ more ∧ t.afterCaller = more ++ u.afterCaller

variable {space : KeySpace} {t u : Target} {a b : List Char}

theorem key_text_at_caller (space : KeySpace) (t : Target) :
    (space.key t).text = space.upToCaller t ++ t.afterCaller := by
  rw [key_text, Target.parts, KeySpace.upToCaller, Target.afterCaller, List.append_assoc,
    List.append_assoc]

theorem key_eq_iff_runsInto :
    space.key t = space.key u ↔ space.RunsInto t u ∨ space.RunsInto u t := by
  rw [Key.mk.injEq, key_text_at_caller, key_text_at_caller, List.append_eq_append_iff]
  exact Iff.rfl

theorem afterCaller_nil_or_colon (t : Target) :
    t.afterCaller = [] ∨ ∃ s, t.afterCaller = ':' :: s := by
  unfold Target.afterCaller
  cases resourceId t.path <;> cases normalizedQuery t.query <;> simp [colonPart]

theorem upToCaller_of_scope (ha : t.scope = some a) :
    space.upToCaller t = space.version t.path ++ ':' :: (space.resourceType ++ ':' :: a) := by
  simp [KeySpace.upToCaller, KeySpace.collection, colonPart, ha]

/-- Behind versions without colons, the name of one caller goes on where the other's ends. -/
theorem runsInto_iff (hv : ':' ∉ space.version t.path) (hv' : ':' ∉ space.version u.path)
    (ha : t.scope = some a) (hb : u.scope = some b) (hne : a ≠ b) :
    space.RunsInto t u ↔ space.version t.path = space.version u.path ∧
      ∃ more, b = a ++ ':' :: more ∧ t.afterCaller = ':' :: more ++ u.afterCaller := by
  unfold KeySpace.RunsInto
  rw [upToCaller_of_scope ha, upToCaller_of_scope hb]
  constructor
  · rintro ⟨more, hname, hafter⟩
    rw [List.append_assoc, List.cons_append] at hname
    obtain ⟨hversion, hname⟩ := append_cons_inj hv' hv hname
    rw [List.append_assoc, List.append_cancel_left_eq, List.cons_append] at hname
    obtain rfl := (List.cons.inj hname).2
    cases more with
    | nil => exact absurd (List.append_nil a).symm hne
    | cons c more =>
      obtain rfl : c = ':' := by
        rcases afterCaller_nil_or_colon t with h | ⟨s, h⟩
        · rw [h] at hafter
          cases hafter
        · exact (List.cons.inj (h.symm.trans hafter)).1.symm
      exact ⟨hversion.symm, more, rfl, hafter⟩
  · rintro ⟨hversion, more, rfl, hafter⟩
    exact ⟨':' :: more, by simp [hversion], hafter⟩

theorem not_runsInto_of_colonless (hv : ':' ∉ space.version t.path)
    (hv' : ':' ∉ space.version u.path) (ha : t.scope = some a) (hb : u.scope = some b)
    (hne : a ≠ b) (hcolon : ':' ∉ b) : ¬ space.RunsInto t u := by
  rw [runsInto_iff hv hv' ha hb hne]
  rintro ⟨-, more, rfl, -⟩
  exact hcolon (List.mem_append_right a List.mem_cons_self)

/-! ## Entries of one key -/

variable {settings : Settings} {s s' : Scene} {key : Key} {x y : Exchange}

/-- At the same time, the same entry under the key. -/
structure SameEntry (key : Key) (s s' : Scene) : Prop where
  clock : s.clock = s'.clock
  distinct : s.memory.Distinct
  distinct' : s'.memory.Distinct
  live : ∀ e : Entry, e.key = key →
    (e ∈ Memory.live s.clock s.memory ↔ e ∈ Memory.live s'.clock s'.memory)

theorem SameEntry.lookup (h : SameEntry key s s') :
    Memory.lookup? s.clock key s.memory = Memory.lookup? s'.clock key s'.memory := by
  apply Option.ext
  intro e
  rw [Memory.lookup?_eq_some_iff h.distinct, Memory.lookup?_eq_some_iff h.distinct']
  exact and_congr_left (h.live e)

/-- What a read is answered, and by whom, is decided by the entry of its key. -/
theorem SameEntry.respond (henabled : settings.enabled = true)
    (h : SameEntry (x.key settings) s s') (hget : x.request.method = .get) :
    x.response settings s = x.response settings s' ∧
      (x.FromStore settings s ↔ x.FromStore settings s') := by
  unfold Exchange.response Exchange.FromStore
  cases hl : Memory.lookup? s.clock (x.key settings) s.memory with
  | some e =>
    rw [respond_of_hit henabled hget hl, respond_of_hit henabled hget (h.lookup ▸ hl)]
    exact ⟨rfl, Iff.rfl⟩
  | none =>
    rw [respond_of_miss henabled hget hl, respond_of_miss henabled hget (h.lookup ▸ hl)]
    exact ⟨rfl, Iff.rfl⟩

theorem SameEntry.populates_iff (henabled : settings.enabled = true)
    (h : SameEntry (x.key settings) s s') :
    Populates settings s x ↔ Populates settings s' x := by
  have hiff (hget : x.request.method = .get) := not_congr (h.respond henabled hget).2
  constructor
  · rintro ⟨hget, hmissed, hkept, hcap⟩
    exact ⟨hget, (hiff hget).mp hmissed, hkept, hcap⟩
  · rintro ⟨hget, hmissed, hkept, hcap⟩
    exact ⟨hget, (hiff hget).mpr hmissed, hkept, hcap⟩

/-! ## One occurrence -/

/-- Of the entries of a key, an occurrence leaves what it does whatever the other entries are. -/
theorem SameEntry.next (henabled : settings.enabled = true) {o : Occurrence}
    (hclock : s.clock + o.duration < Memory.horizon) (h : SameEntry key s s') :
    SameEntry key (s.next settings o) (s'.next settings o) := by
  have hclocks : (s.next settings o).clock = (s'.next settings o).clock := by
    rw [clock_next, clock_next, h.clock]
  cases o with
  | pause d =>
    refine ⟨hclocks, h.distinct, h.distinct', fun e he => ?_⟩
    change e ∈ Memory.live (s.clock + d) s.memory ↔ e ∈ Memory.live (s'.clock + d) s'.memory
    rw [Memory.mem_live_of_le (Nat.le_add_right s.clock d),
      Memory.mem_live_of_le (Nat.le_add_right s'.clock d), h.live e he, h.clock]
  | exchange x =>
    have hfinished : x.finished s = x.finished s' := hclocks
    refine ⟨hclocks, distinct_finish henabled h.distinct, distinct_finish henabled h.distinct',
      fun e he => ?_⟩
    change e ∈ Memory.live (x.finished s) (x.finish settings s).memory ↔
      e ∈ Memory.live (x.finished s') (x.finish settings s').memory
    have hown : Populates settings s x ∧ e = x.entry settings (x.finished s) ↔
        Populates settings s' x ∧ e = x.entry settings (x.finished s') := by
      rw [hfinished]
      refine and_congr_left ?_
      rintro rfl
      subst he
      exact h.populates_iff henabled
    rw [mem_live_finish henabled hclock, mem_live_finish henabled (hfinished ▸ hclock),
      h.live e he, hown, hfinished]

/-- A read of another key might as well not have been made. -/
theorem SameEntry.hide (henabled : settings.enabled = true)
    (hclock : s.clock + x.lasting < Memory.horizon) (hget : x.request.method = .get)
    (hne : x.key settings ≠ key) (h : SameEntry key s s') :
    SameEntry key (x.finish settings s) (s'.next settings (.pause x.lasting)) := by
  have hpaused : SameEntry key (s.next settings (.pause x.lasting))
      (s'.next settings (.pause x.lasting)) := h.next henabled hclock
  refine ⟨hpaused.clock, distinct_finish henabled h.distinct, h.distinct', fun e he => ?_⟩
  have hread : ¬ x.Invalidates settings e.key :=
    not_invalidates_of_not_write (by rw [hget]; exact isWrite_get)
  have hother : e ≠ x.entry settings (x.finished s) := by
    rintro rfl
    exact hne he
  rw [← hpaused.live e he]
  change e ∈ Memory.live (x.finished s) (x.finish settings s).memory ↔
    e ∈ Memory.live (s.clock + x.lasting) s.memory
  rw [mem_live_finish henabled hclock, Memory.mem_live_of_le (Nat.le_add_right s.clock x.lasting)]
  simp only [hread, hother, not_false_eq_true, and_true, and_false, or_false]
  exact Iff.rfl

/-- What a read has stored is the answer to the next read of its key, whoever makes it. -/
theorem respond_after_sharer (henabled : settings.enabled = true) (httl : 0 < settings.ttl)
    (hclock : s.clock + x.lasting < Memory.horizon) (hdistinct : s.memory.Distinct)
    (hpop : Populates settings s x) (hget : y.request.method = .get)
    (hkey : x.key settings = y.key settings) :
    y.FromStore settings (x.finish settings s) ∧
      y.response settings (x.finish settings s) = replay x.origin.body.bytes := by
  have hown : x.entry settings (x.finished s) ∈
      Memory.live (x.finished s) (x.finish settings s).memory :=
    (mem_live_finish henabled hclock).mpr ⟨Or.inr ⟨hpop, rfl⟩,
      (Memory.isLive_deadline_iff hclock).mpr (Nat.lt_add_of_pos_right httl)⟩
  have hlookup : Memory.lookup? (x.finish settings s).clock (y.key settings)
      (x.finish settings s).memory = some (x.entry settings (x.finished s)) :=
    (Memory.lookup?_eq_some_iff (distinct_finish henabled hdistinct)).mpr ⟨hown, hkey⟩
  refine ⟨(fromStore_iff_lookup henabled hget).mpr ⟨_, hlookup⟩, ?_⟩
  rw [Exchange.response, respond_of_hit henabled hget hlookup]
  rfl

/-! ## A run without the reads of others -/

/-- A read by a caller who is not `b`. -/
def Exchange.isByOther (b : List Char) (x : Exchange) : Bool :=
  x.request.method.isRead && x.request.caller.any (· ≠ b)

/-- In place of a read by another caller than `b`, the time that it takes. -/
def Occurrence.hideFrom (b : List Char) : Occurrence → Occurrence
  | pause d => pause d
  | exchange x => if x.isByOther b then pause x.lasting else exchange x

theorem get_of_isByOther {b : List Char} (h : x.isByOther b = true) :
    x.request.method = .get :=
  of_decide_eq_true (Bool.and_eq_true_iff.mp h).1

theorem duration_hideFrom (b : List Char) (o : Occurrence) :
    (o.hideFrom b).duration = o.duration := by
  cases o with
  | pause d => rfl
  | exchange x =>
    rw [Occurrence.hideFrom]
    split <;> rfl

theorem passed_hideFrom (b : List Char) (past : List Occurrence) :
    passed (past.map (Occurrence.hideFrom b)) = passed past := by
  induction past with
  | nil => rfl
  | cons o past ih => rw [List.map_cons, passed, passed, ih, duration_hideFrom]

def Run.hideFrom (b : List Char) (run : Run) : Run :=
  ⟨run.start, run.past.map (Occurrence.hideFrom b), by
    rw [passed_hideFrom]
    exact run.inTime⟩

theorem sameEntry_hideFrom (henabled : settings.enabled = true) {start : Instant}
    {past : List Occurrence} (hclock : start + passed past < Memory.horizon)
    (hkeys : ∀ x, .exchange x ∈ past → x.isByOther b = true → x.key settings ≠ key) :
    SameEntry key (sceneAfter settings start past)
      (sceneAfter settings start (past.map (Occurrence.hideFrom b))) := by
  -- On the last occurrence: both runs make it, or one makes it and the other waits.
  induction past using List.reverseRecOn with
  | nil => exact ⟨rfl, Memory.distinct_nil, Memory.distinct_nil, fun _ _ => Iff.rfl⟩
  | append_singleton past o ih =>
    rw [passed_snoc, ← Nat.add_assoc] at hclock
    have hpast := ih (Nat.lt_of_le_of_lt (Nat.le_add_right _ _) hclock)
      fun x hx => hkeys x (List.mem_append_left _ hx)
    rw [List.map_append, List.map_singleton, sceneAfter_snoc, sceneAfter_snoc]
    rw [← clock_sceneAfter settings] at hclock
    cases o with
    | pause d => exact hpast.next henabled hclock
    | exchange x =>
      rw [Occurrence.hideFrom]
      split
      · next hother =>
        exact hpast.hide henabled hclock (get_of_isByOther hother) (hkeys x (by simp) hother)
      · exact hpast.next henabled hclock

theorem respond_of_disabled (h : settings.enabled = false) :
    x.respond settings s = (⟨x.origin, none, []⟩, s.memory, 1) :=
  respond_pass (by simp [course, h])

theorem read_hideFrom (settings : Settings) (hget : y.request.method = .get) (run : Run)
    (hkeys : ∀ x, .exchange x ∈ run.past → x.isByOther b = true →
      x.key settings ≠ y.key settings) :
    y.response settings (run.scene settings) =
        y.response settings ((run.hideFrom b).scene settings) ∧
      (y.FromStore settings (run.scene settings) ↔
        y.FromStore settings ((run.hideFrom b).scene settings)) := by
  cases henabled : settings.enabled with
  | true => exact (sameEntry_hideFrom henabled run.inTime hkeys).respond henabled hget
  | false =>
    unfold Exchange.response Exchange.FromStore
    rw [respond_of_disabled henabled, respond_of_disabled henabled]
    exact ⟨rfl, Iff.rfl⟩

/-! ## Callers -/

/-- A read by the caller `b` shares its key with one by another caller exactly if one of the two
runs into the other. Behind versions without colons, one caller is then the other with a colon and
more, and the id or the query is part of that. Unless a key is shared, the reads of other callers
make no difference to it in any run. -/
theorem callers_share_key_iff (settings : Settings) {y : Exchange} {b : List Char}
    (hget : y.request.method = .get) (hb : y.request.caller = some b) :
    let space := settings.space
    let u := target y.request
    (∀ x : Exchange, ∀ a, x.request.caller = some a → a ≠ b →
      let t := target x.request
      (x.key settings = y.key settings ↔ space.RunsInto t u ∨ space.RunsInto u t) ∧
      (':' ∉ space.version t.path → ':' ∉ space.version u.path →
        (x.key settings = y.key settings ↔ space.version t.path = space.version u.path ∧
          ((∃ more, b = a ++ ':' :: more ∧ t.afterCaller = ':' :: more ++ u.afterCaller) ∨
            ∃ more, a = b ++ ':' :: more ∧ u.afterCaller = ':' :: more ++ t.afterCaller)) ∧
        (':' ∉ a → ':' ∉ b → x.key settings ≠ y.key settings))) ∧
    ∀ run : Run, (∀ x, .exchange x ∈ run.past → x.isByOther b = true →
        x.key settings ≠ y.key settings) →
      y.response settings (run.scene settings) =
          y.response settings ((run.hideFrom b).scene settings) ∧
        (y.FromStore settings (run.scene settings) ↔
          y.FromStore settings ((run.hideFrom b).scene settings)) := by
  intro space u
  refine ⟨fun x a ha hne => ?_, read_hideFrom settings hget⟩
  intro t
  have hiff : x.key settings = y.key settings ↔ space.RunsInto t u ∨ space.RunsInto u t :=
    key_eq_iff_runsInto
  refine ⟨hiff, fun hversion hversion' => ⟨?_, fun hcolon hcolon' => ?_⟩⟩
  · rw [hiff, runsInto_iff hversion hversion' ha hb hne,
      runsInto_iff hversion' hversion hb ha (Ne.symm hne), eq_comm (a := space.version u.path),
      ← and_or_left]
  · rw [Ne, hiff, not_or]
    exact ⟨not_runsInto_of_colonless hversion hversion' ha hb hne hcolon',
      not_runsInto_of_colonless hversion' hversion hb ha (Ne.symm hne) hcolon⟩

/-- A read of the task list whose answer is the caller's name. -/
def listingFor (caller : String) (query : Option String) : Exchange :=
  ⟨⟨.get, ⟨"/api/v1/tasks".toList, query.map (·.toList)⟩, [⟨callerHeader, asciiBytes caller⟩], []⟩,
    ⟨200, [], [.ok (asciiBytes caller)], none⟩, none, 7⟩

/-- What `alice` has read makes no difference to `bob`. -/
theorem bob_does_not_see_alice :
    let x := listingFor "alice" (some "status=a:b")
    let y := listingFor "bob" (some "status=a:b")
    ∃ run : Run, run.past = [.exchange x] ∧ x.key .standard ≠ y.key .standard ∧
      y.response .standard (run.scene .standard) = y.response .standard ⟨7, []⟩ := by
  intro x y
  have hx : x.request.caller = some "alice".toList := by cbv
  have hy : y.request.caller = some "bob".toList := by cbv
  obtain ⟨hkeys, hruns⟩ := callers_share_key_iff .standard (y := y) rfl hy
  have hne : x.key .standard ≠ y.key .standard :=
    ((hkeys x _ hx (by decide)).2 (by decide) (by decide)).2 (by decide) (by decide)
  let run : Run := ⟨0, [.exchange x], by decide⟩
  refine ⟨run, rfl, hne, (hruns run ?_).1.trans ?_⟩
  · intro x' hx' _
    obtain rfl : x' = x := by simpa [run] using hx'
    exact hne
  · have hother : x.isByOther "bob".toList = true := by cbv
    have hscene : (run.hideFrom "bob".toList).scene .standard = ⟨7, []⟩ := by
      change sceneAfter .standard 0 [(Occurrence.exchange x).hideFrom "bob".toList] = _
      rw [Occurrence.hideFrom, if_pos hother]
      rfl
    rw [hscene]

/-- The caller `alice:page=2` is served the second page of `alice`. -/
theorem alice_answers_another_caller :
    let x := listingFor "alice" (some "page=2")
    let y := listingFor "alice:page=2" none
    let s := x.finish .standard ⟨0, []⟩
    x.request.method = .get ∧ y.request.method = .get ∧
      x.request.caller = some "alice".toList ∧ y.request.caller = some "alice:page=2".toList ∧
      x.key .standard = y.key .standard ∧ y.FromStore .standard s ∧
      (y.response .standard s).body.bytes = asciiBytes "alice" := by
  intro x y s
  have hkey : x.key .standard = y.key .standard := by cbv
  have hpop : Populates .standard ⟨0, []⟩ x := by
    refine ⟨rfl, ?_, Or.inl rfl, ⟨by decide, by simp [x, listingFor]⟩, by decide⟩
    rw [fromStore_iff_lookup rfl rfl]
    simp [Memory.lookup?, Memory.live]
  obtain ⟨hstore, hreplay⟩ := respond_after_sharer (s := ⟨0, []⟩) rfl (by decide) (by decide)
    Memory.distinct_nil hpop (show y.request.method = .get from rfl) hkey
  refine ⟨rfl, rfl, by cbv, by cbv, hkey, hstore, ?_⟩
  rw [hreplay]
  exact Body.bytes_fixed (asciiBytes "alice")

end TaskBoard.Cache
