import TaskBoard.Proofs.Cache.Invalidation

/-!
# Invalidation of a store that fails now and then

Any listing and any deletion may fail, and an invalidation goes on. A key that could not be deleted
has another chance under every later pattern that covers it, and a key that was deleted is left
alone.
-/

namespace TaskBoard.Cache

open Time

/-! ## Failing calls -/

/-- A call and whether it succeeded. -/
structure Outcome where
  call : Call
  ok : Bool
deriving DecidableEq, Repr

/-- What the next call meets, given the calls so far. -/
structure Schedule where
  time : List Outcome → Instant
  failure : List Outcome → Call → Option StoreError

/-- The store in memory, except that a call that is to fail does so and has no effect. -/
def Schedule.answer (schedule : Schedule) (past : List Outcome) : Store Memory := fun c m =>
  match schedule.failure past c with
  | some e => (.error e, m)
  | none => Memory.store (schedule.time past) c m

def Memory.faulty (schedule : Schedule) : Store (Memory × List Outcome) := fun c (m, past) =>
  let (r, m) := schedule.answer past c m
  (r, m, past ++ [⟨c, r.isOk⟩])

def Outcome.deleted? : Outcome → Option Key
  | ⟨.delete key, true⟩ => some key
  | _ => none

def deleted (calls : List Outcome) : List Key := calls.filterMap Outcome.deleted?

theorem deleted_append (calls calls' : List Outcome) :
    deleted (calls ++ calls') = deleted calls ++ deleted calls' :=
  List.filterMap_append

theorem deleted_snoc (calls : List Outcome) {o : Outcome} (ho : o.deleted? = none) :
    deleted (calls ++ [o]) = deleted calls := by
  rw [deleted_append]
  unfold deleted
  rw [List.filterMap_cons_none ho, List.filterMap_nil, List.append_nil]

/-! ## The calls for one pattern -/

section Listing

variable {now : Instant} {m₀ : Memory} {gone : List Key} {pattern : Pattern} {key : Key}

theorem mem_listing :
    key ∈ (Memory.keys now (m₀.without gone)).filter pattern.covers ↔
      key ∈ Memory.keys now m₀ ∧ key ∉ gone ∧ pattern.covers key = true := by
  rw [List.mem_filter, Memory.mem_keys_without, and_assoc]

theorem nodup_listing (h : m₀.Distinct) :
    ((Memory.keys now (m₀.without gone)).filter pattern.covers).Nodup := by
  have hkeys : (Memory.keys now (m₀.without gone)).Nodup := (h.filter _).filter _
  exact hkeys.filter _

end Listing

structure Round where
  pattern : Pattern
  /-- Whether the keys could be listed. -/
  listed : Bool
  /-- The keys that were to be deleted, and whether they were. -/
  deletions : List (Key × Bool)

namespace Round

def deletion (d : Key × Bool) : Outcome := ⟨.delete d.1, d.2⟩

def outcomes (r : Round) : List Outcome :=
  ⟨.keysMatching r.pattern, r.listed⟩ :: r.deletions.map deletion

/-- The round failed to remove a key: it was not listed, or its deletion failed. -/
def Spares (r : Round) (key : Key) : Prop := r.listed = false ∨ (key, false) ∈ r.deletions

/-- What the round deletes are keys of the memory, listed under its pattern and not gone before;
all that are live to the end are among them. -/
structure Fits (later : Instant) (m₀ : Memory) (gone : List Key) (r : Round) : Prop where
  distinct : (r.deletions.map Prod.fst).Nodup
  fresh : ∀ key ∈ r.deletions.map Prod.fst, key ∉ gone
  held : ∀ key ∈ r.deletions.map Prod.fst, key ∈ m₀.map (·.key) ∧ r.pattern.covers key = true
  unlisted : r.listed = false → r.deletions = []
  complete : r.listed = true → ∀ key ∈ Memory.keys later m₀, key ∉ gone →
    r.pattern.covers key = true → key ∈ r.deletions.map Prod.fst

theorem mem_deleted_iff {r : Round} {key : Key} :
    key ∈ deleted r.outcomes ↔ (key, true) ∈ r.deletions := by
  simp only [deleted, outcomes, List.mem_filterMap, List.mem_cons, List.mem_map]
  constructor
  · rintro ⟨o, rfl | ⟨⟨k, _ | _⟩, hd, rfl⟩, ho⟩
    · cases ho
    · cases ho
    · obtain rfl : k = key := by simpa [Outcome.deleted?, deletion] using ho
      exact hd
  · intro hd
    exact ⟨deletion (key, true), Or.inr ⟨_, hd, rfl⟩, rfl⟩

theorem deleted_sublist (r : Round) : (deleted r.outcomes).Sublist (r.deletions.map Prod.fst) := by
  have hcons : deleted r.outcomes = deleted (r.deletions.map deletion) := rfl
  rw [hcons]
  generalize r.deletions = deletions
  induction deletions with
  | nil => exact List.Sublist.slnil
  | cons d deletions ih =>
    match d with
    | (key, true) => exact ih.cons_cons key
    | (key, false) => exact ih.cons key

variable {later : Instant} {m₀ : Memory} {gone : List Key} {r : Round}

theorem fits_of_unlisted {pattern : Pattern} : Fits later m₀ gone ⟨pattern, false, []⟩ :=
  ⟨List.nodup_nil, nofun, nofun, fun _ => rfl, nofun⟩

theorem fits_of_listed {now : Instant} {pattern : Pattern} {deletions : List (Key × Bool)}
    (hdistinct : m₀.Distinct) (hle : now ≤ later)
    (hmap : deletions.map Prod.fst =
      (Memory.keys now (m₀.without gone)).filter pattern.covers) :
    Fits later m₀ gone ⟨pattern, true, deletions⟩ where
  distinct := hmap ▸ nodup_listing hdistinct
  fresh := by
    intro key hkey
    rw [hmap] at hkey
    exact (mem_listing.mp hkey).2.1
  held := by
    intro key hkey
    rw [hmap] at hkey
    obtain ⟨hkey, -, hcovers⟩ := mem_listing.mp hkey
    obtain ⟨e, he, rfl⟩ := Memory.mem_keys_iff.mp hkey
    exact ⟨List.mem_map_of_mem (Memory.mem_live_iff.mp he).1, hcovers⟩
  unlisted := nofun
  complete := by
    intro _ key hkey hgone hcovers
    obtain ⟨e, he, rfl⟩ := Memory.mem_keys_iff.mp hkey
    have hlive : e ∈ Memory.live now m₀ := ((Memory.mem_live_of_le hle).mp he).1
    rw [hmap]
    exact mem_listing.mpr ⟨Memory.mem_keys_iff.mpr ⟨e, hlive, rfl⟩, hgone, hcovers⟩

theorem Fits.held_of_deleted (h : r.Fits later m₀ gone) {key : Key}
    (hkey : key ∈ deleted r.outcomes) : key ∈ m₀.map (·.key) ∧ r.pattern.covers key = true :=
  h.held key (r.deleted_sublist.subset hkey)

theorem Fits.nodup (h : r.Fits later m₀ gone) (hgone : gone.Nodup) :
    (gone ++ deleted r.outcomes).Nodup := by
  refine List.nodup_append'.mpr ⟨hgone, h.distinct.sublist r.deleted_sublist, ?_⟩
  intro key hbefore hnow
  exact h.fresh key (r.deleted_sublist.subset hnow) hbefore

theorem Fits.not_deleted_iff (h : r.Fits later m₀ gone) {key : Key}
    (hkey : key ∈ Memory.keys later m₀) (hgone : key ∉ gone) :
    key ∉ deleted r.outcomes ↔ (r.pattern.covers key = true → r.Spares key) := by
  constructor
  · intro hnot hcovers
    cases hlisted : r.listed with
    | false => exact Or.inl hlisted
    | true =>
      obtain ⟨⟨k, ok⟩, hd, rfl⟩ := List.mem_map.mp (h.complete hlisted key hkey hgone hcovers)
      cases ok with
      | false => exact Or.inr hd
      | true => exact absurd (mem_deleted_iff.mpr hd) hnot
  · intro hspares hdeleted
    have htrue : (key, true) ∈ r.deletions := mem_deleted_iff.mp hdeleted
    rcases hspares (h.held_of_deleted hdeleted).2 with hunlisted | hfalse
    · rw [h.unlisted hunlisted] at htrue
      cases htrue
    · -- No key is to be deleted twice in one round.
      have hd := List.inj_on_of_nodup_map h.distinct htrue hfalse rfl
      cases hd

end Round

/-- The rounds of an invalidation: in each, what went in the rounds before it is gone. -/
def Rounds (later : Instant) (m₀ : Memory) : List Key → List Round → Prop
  | _, [] => True
  | gone, r :: rounds =>
    r.Fits later m₀ gone ∧ Rounds later m₀ (gone ++ deleted r.outcomes) rounds

variable {schedule : Schedule} {later : Instant} {m₀ m : Memory} {gone : List Key}
  {rounds : List Round} {sweep : Sweep} {past : List Outcome}

theorem deleted_rounds (r : Round) (rounds : List Round) :
    deleted ((r :: rounds).flatMap Round.outcomes) =
      deleted r.outcomes ++ deleted (rounds.flatMap Round.outcomes) := by
  rw [List.flatMap_cons, deleted_append]

theorem Rounds.nodup (h : Rounds later m₀ gone rounds) (hgone : gone.Nodup) :
    (gone ++ deleted (rounds.flatMap Round.outcomes)).Nodup := by
  induction rounds generalizing gone with
  | nil => simpa [deleted] using hgone
  | cons r rounds ih =>
    rw [deleted_rounds, ← List.append_assoc]
    exact ih h.2 (h.1.nodup hgone)

theorem Rounds.held (h : Rounds later m₀ gone rounds) {key : Key}
    (hkey : key ∈ deleted (rounds.flatMap Round.outcomes)) :
    key ∈ m₀.map (·.key) ∧ ∃ r ∈ rounds, r.pattern.covers key = true := by
  induction rounds generalizing gone with
  | nil => cases hkey
  | cons r rounds ih =>
    rw [deleted_rounds] at hkey
    rcases List.mem_append.mp hkey with hnow | hlater
    · obtain ⟨hheld, hcovers⟩ := h.1.held_of_deleted hnow
      exact ⟨hheld, r, List.mem_cons_self, hcovers⟩
    · obtain ⟨hheld, r', hr', hcovers⟩ := ih h.2 hlater
      exact ⟨hheld, r', List.mem_cons_of_mem r hr', hcovers⟩

theorem Rounds.not_deleted_iff (h : Rounds later m₀ gone rounds) {key : Key}
    (hkey : key ∈ Memory.keys later m₀) (hgone : key ∉ gone) :
    key ∉ deleted (rounds.flatMap Round.outcomes) ↔
      ∀ r ∈ rounds, r.pattern.covers key = true → r.Spares key := by
  induction rounds generalizing gone with
  | nil => simp [deleted]
  | cons r rounds ih =>
    -- A key that this round deletes is not spared by it, so later rounds do not matter.
    have hround := h.1.not_deleted_iff hkey hgone
    rw [deleted_rounds, List.mem_append, not_or, List.forall_mem_cons, ← hround]
    refine and_congr_right fun hnot => ih h.2 ?_
    rw [List.mem_append, not_or]
    exact ⟨hgone, hnot⟩

/-! ## The progress of an invalidation -/

/-- What is in the memory and what the invalidation believes to have removed both follow from the
calls so far. -/
structure Recorded (m₀ : Memory) (progress : Sweep × Memory × List Outcome) : Prop where
  removed : progress.1.removed = deleted progress.2.2
  memory : progress.2.1 = m₀.without (deleted progress.2.2)

theorem Recorded.snoc (h : Recorded m₀ (sweep, m, past)) {o : Outcome} (ho : o.deleted? = none)
    {sweep' : Sweep} (hsweep : sweep'.removed = sweep.removed) :
    Recorded m₀ (sweep', m, past ++ [o]) := by
  have hdeleted : deleted (past ++ [o]) = deleted past := deleted_snoc past ho
  exact ⟨hdeleted ▸ hsweep.trans h.removed, hdeleted ▸ h.memory⟩

theorem recorded_dropKey (schedule : Schedule) (h : Recorded m₀ (sweep, m, past)) {key : Key}
    (hkey : key ∉ deleted past) :
    let after := (dropKey sweep key).run (Memory.faulty schedule) (m, past)
    Recorded m₀ after ∧ ∃ ok, after.2.2 = past ++ [Round.deletion (key, ok)] := by
  have hnew : ¬ sweep.removed.contains key = true := by
    rw [h.removed]
    simpa using hkey
  unfold dropKey
  rw [if_neg hnew]
  simp only [Program.run, Memory.faulty, Schedule.answer]
  cases schedule.failure past (.delete key) with
  | some e => exact ⟨h.snoc rfl rfl, false, rfl⟩
  | none =>
    have hdeleted : deleted (past ++ [Round.deletion (key, true)]) = deleted past ++ [key] :=
      deleted_append _ _
    have hmemory : Memory.remove key m = m₀.without (deleted past ++ [key]) := by
      rw [show m = _ from h.memory, Memory.remove_without]
    refine ⟨⟨?_, ?_⟩, true, rfl⟩
    · exact (congrArg (· ++ [key]) h.removed).trans hdeleted.symm
    · exact hmemory.trans (congrArg m₀.without hdeleted.symm)

theorem recorded_dropKeys (schedule : Schedule) (h : Recorded m₀ (sweep, m, past)) {keys : List Key}
    (hnodup : keys.Nodup) (hnew : ∀ key ∈ keys, key ∉ deleted past) :
    let after := (dropKeys sweep keys).run (Memory.faulty schedule) (m, past)
    Recorded m₀ after ∧ ∃ deletions : List (Key × Bool),
      deletions.map Prod.fst = keys ∧ after.2.2 = past ++ deletions.map Round.deletion := by
  induction keys generalizing sweep m past with
  | nil => exact ⟨h, [], rfl, (List.append_nil past).symm⟩
  | cons key keys ih =>
    obtain ⟨hkey, hkeys⟩ := List.forall_mem_cons.mp hnew
    obtain ⟨hnot, hrest⟩ := List.nodup_cons.mp hnodup
    rw [dropKeys, Program.run_bind]
    obtain ⟨hkept, ok, hpast⟩ := recorded_dropKey schedule h hkey
    generalize (dropKey sweep key).run (Memory.faulty schedule) (m, past) = next at hkept hpast
    obtain ⟨sweep', m', past'⟩ := next
    obtain rfl : past' = _ := hpast
    -- None of the other keys has gone by this deletion.
    have hstill : ∀ k ∈ keys, k ∉ deleted (past ++ [Round.deletion (key, ok)]) := by
      intro k hk hdeleted
      rw [deleted_append] at hdeleted
      rcases List.mem_append.mp hdeleted with hbefore | hjust
      · exact hkeys k hk hbefore
      · cases ok with
        | false => cases hjust
        | true =>
          obtain rfl := List.mem_singleton.mp hjust
          exact hnot hk
    obtain ⟨hafter, deletions, hmap, hrecord⟩ := ih hkept hrest hstill
    refine ⟨hafter, (key, ok) :: deletions, by rw [List.map_cons, hmap], ?_⟩
    rw [hrecord, List.append_assoc]
    rfl

theorem recorded_dropMatching (h : Recorded m₀ (sweep, m, past)) (hdistinct : m₀.Distinct)
    (hle : ∀ past, schedule.time past ≤ later) (pattern : Pattern) :
    let after := (dropMatching sweep pattern).run (Memory.faulty schedule) (m, past)
    Recorded m₀ after ∧ ∃ r : Round, r.pattern = pattern ∧ r.Fits later m₀ (deleted past) ∧
      after.2.2 = past ++ r.outcomes := by
  unfold dropMatching
  simp only [Program.run, Memory.faulty, Schedule.answer]
  cases schedule.failure past (.keysMatching pattern) with
  | some e => exact ⟨h.snoc rfl rfl, ⟨pattern, false, []⟩, rfl, Round.fits_of_unlisted, rfl⟩
  | none =>
    obtain rfl : m = m₀.without (deleted past) := h.memory
    have hkept : Recorded m₀
        (sweep, m₀.without (deleted past), past ++ [⟨.keysMatching pattern, true⟩]) :=
      h.snoc rfl rfl
    have hnew : ∀ key ∈ (Memory.keys (schedule.time past) (m₀.without (deleted past))).filter
        pattern.covers, key ∉ deleted (past ++ [⟨.keysMatching pattern, true⟩]) := by
      intro key hkey
      rw [deleted_snoc past rfl]
      exact (mem_listing.mp hkey).2.1
    obtain ⟨hafter, deletions, hmap, hrecord⟩ :=
      recorded_dropKeys schedule hkept (nodup_listing hdistinct) hnew
    refine ⟨hafter, ⟨pattern, true, deletions⟩, rfl, ?_, hrecord.trans (List.append_assoc ..)⟩
    exact Round.fits_of_listed hdistinct (hle past) hmap

theorem recorded_sweepAll (h : Recorded m₀ (sweep, m, past)) (hdistinct : m₀.Distinct)
    (hle : ∀ past, schedule.time past ≤ later) (patterns : List Pattern) :
    let after := (sweepAll sweep patterns).run (Memory.faulty schedule) (m, past)
    Recorded m₀ after ∧ ∃ rounds : List Round, rounds.map (·.pattern) = patterns ∧
      Rounds later m₀ (deleted past) rounds ∧
      after.2.2 = past ++ rounds.flatMap Round.outcomes := by
  induction patterns generalizing sweep m past with
  | nil => exact ⟨h, [], rfl, trivial, (List.append_nil past).symm⟩
  | cons pattern patterns ih =>
    rw [sweepAll, Program.run_bind]
    obtain ⟨hkept, r, hpattern, hfits, hpast⟩ := recorded_dropMatching h hdistinct hle pattern
    generalize (dropMatching sweep pattern).run (Memory.faulty schedule) (m, past) = next
      at hkept hpast
    obtain ⟨sweep', m', past'⟩ := next
    obtain rfl : past' = _ := hpast
    obtain ⟨hafter, rounds, hpatterns, hrounds, hrecord⟩ := ih hkept
    rw [deleted_append] at hrounds
    refine ⟨hafter, r :: rounds, by rw [List.map_cons, hpattern, hpatterns], ⟨hfits, hrounds⟩, ?_⟩
    rw [hrecord, List.append_assoc, List.flatMap_cons]

theorem length_without {removed : List Key} (hdistinct : m.Distinct) (hnodup : removed.Nodup)
    (hheld : ∀ key ∈ removed, key ∈ m.map (·.key)) :
    removed.length + (m.without removed).length = m.length := by
  have hperm : ((m.filter fun e => e.key ∈ removed).map (·.key)).Perm removed := by
    refine (List.perm_ext_iff_of_nodup (hdistinct.filter _) hnodup).mpr fun key => ?_
    constructor
    · intro hkey
      obtain ⟨e, he, rfl⟩ := List.mem_map.mp hkey
      exact of_decide_eq_true (List.mem_filter.mp he).2
    · intro hkey
      obtain ⟨e, he, rfl⟩ := List.mem_map.mp (hheld key hkey)
      exact List.mem_map_of_mem (List.mem_filter.mpr ⟨he, decide_eq_true hkey⟩)
  have hlength : (m.filter fun e => e.key ∈ removed).length = removed.length := by
    rw [← hperm.length_eq, List.length_map]
  have hparts := List.length_eq_length_filter_add (l := m) fun e => decide (e.key ∈ removed)
  simp only [← decide_not] at hparts
  unfold Memory.without
  omega

/-- Whichever calls fail, the invalidation works the patterns off in order. A live key survives if
and only if, under each pattern that covers it, either the listing or its deletion failed. Entries
that no pattern covers stay as they are. No key is deleted twice, and what is reported as removed
are the keys that are gone. -/
theorem invalidate_despite_failures (schedule : Schedule) {later : Instant}
    (hle : ∀ past, schedule.time past ≤ later) (patterns : List Pattern) (m : Memory)
    (hdistinct : m.Distinct) :
    let (sweep, m', record) := (invalidate patterns).run (Memory.faulty schedule) (m, [])
    ∃ rounds : List Round, rounds.map (·.pattern) = patterns ∧
      record = rounds.flatMap Round.outcomes ∧
      (∀ key ∈ Memory.keys later m, key ∈ Memory.keys later m' ↔
        ∀ r ∈ rounds, r.pattern.covers key = true →
          r.listed = false ∨ (key, false) ∈ r.deletions) ∧
      m'.Sublist m ∧
      (∀ e ∈ m, (¬ ∃ p ∈ patterns, p.covers e.key = true) → e ∈ m') ∧
      (deleted record).Nodup ∧ sweep.removed = deleted record ∧
      sweep.removed.length + m'.length = m.length := by
  have hstart : Recorded m ({}, m, []) := ⟨rfl, by simp [deleted, Memory.without]⟩
  obtain ⟨hkept, rounds, hpatterns, hrounds, hrecord⟩ :=
    recorded_sweepAll hstart hdistinct hle patterns
  unfold invalidate
  generalize (sweepAll {} patterns).run (Memory.faulty schedule) (m, []) = after at hkept hrecord
  obtain ⟨sweep, m', record⟩ := after
  obtain rfl : record = rounds.flatMap Round.outcomes := hrecord
  obtain rfl : m' = m.without (deleted (rounds.flatMap Round.outcomes)) := hkept.memory
  have hremoved : sweep.removed = deleted (rounds.flatMap Round.outcomes) := hkept.removed
  have hnodup := hrounds.nodup List.nodup_nil
  refine ⟨rounds, hpatterns, rfl, ?_, List.filter_sublist, ?_, hnodup, hremoved, ?_⟩
  · intro key hkey
    rw [Memory.mem_keys_without, hrounds.not_deleted_iff hkey List.not_mem_nil]
    exact and_iff_right hkey
  · intro e he huncovered
    refine List.mem_filter.mpr ⟨he, decide_eq_true fun hdeleted => huncovered ?_⟩
    obtain ⟨-, r, hr, hcovers⟩ := hrounds.held hdeleted
    exact ⟨r.pattern, hpatterns ▸ List.mem_map_of_mem hr, hcovers⟩
  · rw [hremoved]
    exact length_without hdistinct hnodup fun key hkey => (hrounds.held hkey).1

def Schedule.failing (calls : List Nat) : Schedule :=
  ⟨fun _ => 0, fun past _ => if past.length ∈ calls then some (.unavailable "down") else none⟩

/-- The deletion of one key fails and is made up for under a later pattern. A failed listing and a
failed deletion spare two others. -/
theorem made_up_for_later :
    let keys := ["a:1", "a:2", "b", "c"].map fun text => (⟨text.toList⟩ : Key)
    let patterns := ["a:*", "*", "a:1", "c"].map fun text => (⟨text.toList⟩ : Pattern)
    let m : Memory := keys.map fun key => ⟨key, [], none⟩
    let after := (invalidate patterns).run (Memory.faulty (.failing [1, 3, 7])) (m, [])
    after.1.removed = [keys[1], keys[0]] ∧ Memory.keys 0 after.2.1 = [keys[2], keys[3]] ∧
      (deleted after.2.2).Nodup := by
  intro keys patterns m after
  have hdistinct : m.Distinct := by
    unfold Memory.Distinct
    decide
  obtain ⟨rounds, -, -, -, -, -, hnodup, -⟩ :=
    invalidate_despite_failures (.failing [1, 3, 7]) (fun _ => Nat.le_refl 0) patterns m hdistinct
  exact ⟨by decide +kernel, by decide +kernel, hnodup⟩

end TaskBoard.Cache
