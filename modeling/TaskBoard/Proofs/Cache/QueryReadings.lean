import Mathlib
import TaskBoard.Proofs.Cache.QueryText
import TaskBoard.Proofs.Text.Form

/-!
# Readings of a query's text

A key holds decoded values, joined by the same characters that may stand in them. So the text of a
query can often be cut into pairs in more than one way, and each way is that of some query.
-/

namespace TaskBoard.Cache

open Text
open scoped List

/-- The first parameter stands before the second one in every key. -/
def Precedes (name later : List Char) : Prop := [name, later] <+ keyedParams

/-- The value that the second query gives to a parameter goes on where in the first one the value
ends and another pair follows. -/
def RunsOver (q q' : Option (List Char)) : Prop :=
  ∃ name later value rest, Precedes name later ∧ param name q = some value ∧
    (param later q).isSome ∧ param name q' = some (value ++ '&' :: later ++ '=' :: rest)

/-- A text that can be cut into pairs after the first parameter's value, or go on with it. -/
def Divisible (text : List Char) : Prop :=
  ∃ name later value rest, Precedes name later ∧
    text = name ++ '=' :: (value ++ '&' :: later ++ '=' :: rest)

variable {ps qs : List (List Char × List Char)} {q q' : Option (List Char)}
  {text name later value rest w : List Char}

theorem Precedes.mem_left (h : Precedes name later) : name ∈ keyedParams := h.subset (by simp)

theorem Precedes.mem_right (h : Precedes name later) : later ∈ keyedParams := h.subset (by simp)

theorem Precedes.ne (h : Precedes name later) : name ≠ later := by
  have hnodup : keyedParams.Nodup := by decide
  simpa using hnodup.sublist h

/-! ## Two ways to cut a text -/

/-- Of two cuts of one text the second one goes on where the first one ends a value. -/
def CutsLater (ps qs : List (List Char × List Char)) : Prop :=
  ∃ name value later u rest, [(name, value), (later, u)] <+ ps ∧
    (name, value ++ '&' :: later ++ '=' :: rest) ∈ qs

theorem CutsLater.cons (h : CutsLater ps qs) (p q : List Char × List Char) :
    CutsLater (p :: ps) (q :: qs) := by
  obtain ⟨name, value, later, u, rest, hps, hqs⟩ := h
  exact ⟨name, value, later, u, rest, hps.cons p, List.mem_cons_of_mem q hqs⟩

/-- Where pairs follow a value, a longer value takes in all of the next name. -/
theorem cutsLater_of_append (hps : ∀ pair ∈ ps, pair.1 ∈ keyedParams)
    (hqs : ∀ pair ∈ qs, pair.1 ∈ keyedParams) (hw : w ≠ [])
    (h : pairsRest ps = w ++ pairsRest qs) (name value : List Char) :
    CutsLater ((name, value) :: ps) ((name, value ++ w) :: qs) := by
  cases ps with
  | nil => exact absurd (List.append_eq_nil_iff.mp h.symm).1 hw
  | cons p ps =>
    obtain ⟨later, u⟩ := p
    rw [pairsRest_cons] at h
    obtain ⟨rest, rfl⟩ :=
      prefix_of_follows (hps _ List.mem_cons_self) hw (follows_pairsRest hqs) h
    refine ⟨name, value, later, u, rest, by simp, ?_⟩
    simp

theorem eq_or_cutsLater (hps : ∀ pair ∈ ps, pair.1 ∈ keyedParams)
    (hqs : ∀ pair ∈ qs, pair.1 ∈ keyedParams) (h : pairsRest ps = pairsRest qs) :
    ps = qs ∨ CutsLater ps qs ∨ CutsLater qs ps := by
  induction ps generalizing qs with
  | nil =>
    cases qs with
    | nil => exact .inl rfl
    | cons q qs => cases h
  | cons p ps ih =>
    cases qs with
    | nil => cases h
    | cons q qs =>
      obtain ⟨name, value⟩ := p
      obtain ⟨name', value'⟩ := q
      have htext := pairsText_of_rest h
      rw [List.forall_mem_cons] at hps hqs
      rw [pairsText_cons, pairsText_cons] at htext
      simp only at htext
      obtain ⟨rfl, hvalue⟩ := append_cons_inj (equals_not_mem_of_keyed hps.1)
        (equals_not_mem_of_keyed hqs.1) htext
      by_cases hsame : value = value'
      · subst hsame
        rcases ih hps.2 hqs.2 (List.append_cancel_left hvalue) with rfl | hlater | hlater
        · exact .inl rfl
        · exact .inr (.inl (hlater.cons _ _))
        · exact .inr (.inr (hlater.cons _ _))
      · rcases List.append_eq_append_iff.mp hvalue with ⟨w, rfl, hw⟩ | ⟨w, rfl, hw⟩
        · have hne : w ≠ [] := by simpa using hsame
          exact .inr (.inl (cutsLater_of_append hps.2 hqs.2 hne hw name value))
        · have hne : w ≠ [] := by simpa using hsame
          exact .inr (.inr (cutsLater_of_append hqs.2 hps.2 hne hw name value'))

/-! ## The pairs that a query selects -/

theorem names_sublist {α β : Type} (f : α → Option β) (l : List α) :
    (l.filterMap fun a => (f a).map (a, ·)).map (·.1) <+ l := by
  induction l with
  | nil => exact .slnil
  | cons a l ih =>
    cases h : f a with
    | none => simpa [List.filterMap_cons, h] using ih.cons a
    | some b => simpa [List.filterMap_cons, h] using ih

theorem runsOver_of_cutsLater (h : CutsLater (selected q) (selected q')) : RunsOver q q' := by
  obtain ⟨name, value, later, u, rest, hq, hq'⟩ := h
  have hname : (name, value) ∈ selected q := hq.subset (by simp)
  have hlater : (later, u) ∈ selected q := hq.subset (by simp)
  refine ⟨name, later, value, rest, ?_, (mem_selected_iff.mp hname).2, ?_,
    (mem_selected_iff.mp hq').2⟩
  · exact (hq.map (·.1)).trans (names_sublist (param · q) keyedParams)
  · rw [(mem_selected_iff.mp hlater).2]
    rfl

/-! ## A query for each cut -/

theorem filterMap_lookup {names : List (List Char)} (hnodup : names.Nodup)
    (h : ps.map (·.1) <+ names) :
    (names.filterMap fun name => (ps.lookup name).map (name, ·)) = ps := by
  induction names generalizing ps with
  | nil =>
    obtain rfl : ps = [] := List.map_eq_nil_iff.mp (List.sublist_nil.mp h)
    rfl
  | cons first names ih =>
    rw [List.nodup_cons] at hnodup
    cases ps with
    | nil => exact List.filterMap_eq_nil_iff.mpr fun _ _ => rfl
    | cons p ps =>
      obtain ⟨name, value⟩ := p
      rw [List.map_cons, List.cons_sublist_cons'] at h
      rcases h with h | ⟨rfl, h⟩
      · have hfirst : ((name, value) :: ps).lookup first = none := by
          rw [List.lookup_eq_none_iff]
          intro pair hpair
          have hmem : pair.1 ∈ names := h.subset (List.mem_map_of_mem hpair)
          simpa using fun heq : first = pair.1 => hnodup.1 (heq ▸ hmem)
        rw [List.filterMap_cons_none (by rw [hfirst]; rfl)]
        exact ih hnodup.2 h
      · have hrest : ∀ other ∈ names, ((name, value) :: ps).lookup other = ps.lookup other := by
          intro other hother
          have hne : other ≠ name := fun heq => hnodup.1 (heq ▸ hother)
          rw [List.lookup_cons, beq_eq_false_iff_ne.mpr hne]
        rw [List.filterMap_cons_some (b := (name, value)) (by simp)]
        rw [List.filterMap_congr fun other hother => by rw [hrest other hother], ih hnodup.2 h]

/-- Readable values for some of the keyed parameters are what some query selects. -/
theorem selected_render (hnames : ps.map (·.1) <+ keyedParams)
    (hreadable : ∀ pair ∈ ps, isReadable pair = true) : selected (some (Form.render ps)) = ps := by
  have hpairs : readablePairs (some (Form.render ps)) = ps := by
    rw [readablePairs, Option.getD_some, Form.parse_render, List.filter_eq_self.mpr hreadable]
  simp only [selected, param, hpairs]
  exact filterMap_lookup (by decide) hnames

theorem normalizedQuery_eq_some_iff :
    normalizedQuery q = some text ↔ selected q ≠ [] ∧ pairsText (selected q) = text := by
  rw [normalizedQuery_eq]
  split <;> simp_all

theorem isReadable_of_mem_selected {pair : List Char × List Char} (h : pair ∈ selected q) :
    isReadable pair = true := by
  have hvalue : param pair.1 q = some pair.2 := (mem_selected_iff.mp h).2
  obtain ⟨before, after, hpairs, -⟩ := List.lookup_eq_some_iff.mp hvalue
  have hmem : pair ∈ readablePairs q := by rw [hpairs]; simp
  exact (List.mem_filter.mp hmem).2

/-- Pairs are readable where their text is. -/
theorem replacement_not_mem_pairsText :
    '\uFFFD' ∉ pairsText ps ↔ ∀ pair ∈ ps, isReadable pair = true := by
  induction ps with
  | nil => simp [pairsText]
  | cons p ps ih =>
    have hrest : '\uFFFD' ∉ pairsRest ps ↔ '\uFFFD' ∉ pairsText ps := by
      cases ps with
      | nil => simp [pairsRest, pairsText]
      | cons _ _ => simp [pairsRest]
    rw [List.forall_mem_cons, ← ih, ← hrest, pairsText_cons]
    simp [isReadable, and_assoc]

theorem replacement_not_mem_of_text (h : normalizedQuery q = some text) : '\uFFFD' ∉ text := by
  obtain ⟨-, rfl⟩ := normalizedQuery_eq_some_iff.mp h
  exact replacement_not_mem_pairsText.mpr fun _ => isReadable_of_mem_selected

theorem exists_query_of_pairs (htext : pairsText ps = text) (hreadable : '\uFFFD' ∉ text)
    (hne : ps ≠ []) (hnames : ps.map (·.1) <+ keyedParams) :
    ∃ q, normalizedQuery q = some text ∧ selected q = ps := by
  subst htext
  have hselected := selected_render hnames (replacement_not_mem_pairsText.mp hreadable)
  refine ⟨some (Form.render ps), normalizedQuery_eq_some_iff.mpr ?_, hselected⟩
  rw [hselected]
  exact ⟨hne, rfl⟩

/-! ## One reading or more -/

/-- A divisible text is that of a query with one value and of a query with two. -/
theorem exists_two_readings (h : Divisible text) (hreadable : '\uFFFD' ∉ text) :
    ∃ name ∈ keyedParams, ∃ whole parted, normalizedQuery whole = some text ∧
      normalizedQuery parted = some text ∧ param name whole ≠ param name parted := by
  obtain ⟨name, later, value, rest, hbefore, htext⟩ := h
  have hone : pairsText [(name, value ++ '&' :: later ++ '=' :: rest)] = text := by
    simp [pairsText, htext]
  have htwo : pairsText [(name, value), (later, rest)] = text := by
    simp [pairsText, List.intercalate_cons_cons, htext]
  obtain ⟨whole, hwhole, honlyName⟩ := exists_query_of_pairs hone hreadable
    (List.cons_ne_nil _ _) (List.singleton_sublist.mpr hbefore.mem_left)
  obtain ⟨parted, hparted, hboth⟩ :=
    exists_query_of_pairs htwo hreadable (List.cons_ne_nil _ _) hbefore
  refine ⟨later, hbefore.mem_right, whole, parted, hwhole, hparted, ?_⟩
  have hvalue : param later parted = some rest := by
    refine (mem_selected_iff.mp ?_).2
    rw [hboth]
    simp
  intro hsame
  have hmem := mem_selected_iff.mpr ⟨hbefore.mem_right, hsame.trans hvalue⟩
  rw [honlyName] at hmem
  exact hbefore.ne (congrArg Prod.fst (List.mem_singleton.mp hmem)).symm

theorem selected_singleton (h : normalizedQuery q = some text) (hwhole : ¬ Divisible text) :
    ∃ name ∈ keyedParams, ∃ value, selected q = [(name, value)] ∧ text = name ++ '=' :: value := by
  obtain ⟨hne, htext⟩ := normalizedQuery_eq_some_iff.mp h
  have hnames := names_sublist (param · q) keyedParams
  change (selected q).map (·.1) <+ keyedParams at hnames
  match hpairs : selected q with
  | [] => exact absurd hpairs hne
  | [(name, value)] =>
    have hmem : (name, value) ∈ selected q := by rw [hpairs]; exact List.mem_singleton_self _
    refine ⟨name, keyed_of_mem_selected hmem, value, rfl, ?_⟩
    simp [← htext, hpairs, pairsText]
  | (name, value) :: (later, u) :: ps =>
    refine absurd ⟨name, later, value, u ++ pairsRest ps, ?_, ?_⟩ hwhole
    · rw [hpairs] at hnames
      exact (List.sublist_append_left [name, later] _).trans hnames
    · rw [← htext, hpairs, pairsText_cons, pairsRest_cons]
      simp

/-- Queries of one text have the same values unless a value of one of them runs over a pair of the
other one. -/
theorem param_eq_or_runsOver (h : normalizedQuery q = some text)
    (h' : normalizedQuery q' = some text) :
    (∀ name ∈ keyedParams, param name q' = param name q) ↔ ¬ RunsOver q q' ∧ ¬ RunsOver q' q := by
  constructor
  · intro hsame
    have hnot : ∀ {q q' : Option (List Char)},
        (∀ name ∈ keyedParams, param name q' = param name q) → ¬ RunsOver q q' := by
      rintro q q' hsame ⟨name, later, value, rest, hbefore, hshort, -, hlong⟩
      have heq := hsame name hbefore.mem_left
      rw [hshort, hlong, Option.some_inj] at heq
      simpa using congrArg List.length heq
    exact ⟨hnot hsame, hnot fun name hname => (hsame name hname).symm⟩
  · rintro ⟨hnot, hnot'⟩ name hname
    obtain ⟨hne, htext⟩ := normalizedQuery_eq_some_iff.mp h
    obtain ⟨hne', htext'⟩ := normalizedQuery_eq_some_iff.mp h'
    have hrest : pairsRest (selected q) = pairsRest (selected q') := by
      rw [pairsRest.eq_2 _ hne, pairsRest.eq_2 _ hne', htext, htext']
    rcases eq_or_cutsLater (fun _ => keyed_of_mem_selected) (fun _ => keyed_of_mem_selected)
      hrest with heq | hlater | hlater
    · exact param_eq_of_selected_eq heq.symm hname
    · exact absurd (runsOver_of_cutsLater hlater) hnot
    · exact absurd (runsOver_of_cutsLater hlater) hnot'

/-- Two queries of one text give every parameter the same value unless a value of one runs over a
pair of the other, and all queries of a text do so exactly if it cannot be cut after a value. -/
theorem param_eq_of_text_iff (h : normalizedQuery q = some text) :
    (∀ q', normalizedQuery q' = some text →
      ((∀ name ∈ keyedParams, param name q' = param name q) ↔
        ¬ RunsOver q q' ∧ ¬ RunsOver q' q)) ∧
    ((∀ q', normalizedQuery q' = some text →
      ∀ name ∈ keyedParams, param name q' = param name q) ↔ ¬ Divisible text) := by
  refine ⟨fun q' h' => param_eq_or_runsOver h h', ?_, ?_⟩
  · intro hsame hdivisible
    obtain ⟨name, hname, whole, parted, hwhole, hparted, hne⟩ :=
      exists_two_readings hdivisible (replacement_not_mem_of_text h)
    exact hne ((hsame whole hwhole name hname).trans (hsame parted hparted name hname).symm)
  · intro hindivisible q' h' name hname
    obtain ⟨first, hfirst, value, hpairs, htext⟩ := selected_singleton h hindivisible
    obtain ⟨first', hfirst', value', hpairs', htext'⟩ := selected_singleton h' hindivisible
    obtain ⟨rfl, rfl⟩ := append_cons_inj (equals_not_mem_of_keyed hfirst)
      (equals_not_mem_of_keyed hfirst') (htext.symm.trans htext')
    exact param_eq_of_selected_eq (hpairs'.trans hpairs.symm) hname

/-- An encoded ampersand in the status starts no pair, since no parameter stands after it. -/
theorem encoded_ampersand_in_status :
    let query := some "status=x%26page=1".toList
    let text := "status=x&page=1".toList
    normalizedQuery query = some text ∧ ∀ q', normalizedQuery q' = some text →
      ∀ name ∈ keyedParams, param name q' = param name query := by
  intro query text
  have htext : normalizedQuery query = some text := by cbv
  refine ⟨htext, (param_eq_of_text_iff htext).2.mpr ?_⟩
  rintro ⟨name, later, value, rest, hbefore, hcut⟩
  have hlast : ∀ later ∈ keyedParams, ¬ ["status".toList, later] <+ keyedParams := by decide
  have hstatus : text = "status".toList ++ '=' :: "x&page=1".toList := by decide
  obtain ⟨rfl, -⟩ := append_cons_inj (equals_not_mem_of_keyed (by decide))
    (equals_not_mem_of_keyed hbefore.mem_left) (hstatus.symm.trans hcut)
  exact hlast later hbefore.mem_right hbefore

/-- An encoded ampersand in the limit makes a page of what stands after it. -/
theorem encoded_ampersand_in_limit :
    let encoded := some "limit=1%26page=2".toList
    let parted := some "limit=1&page=2".toList
    normalizedQuery encoded = some "limit=1&page=2".toList ∧
      normalizedQuery parted = some "limit=1&page=2".toList ∧
      "page".toList ∈ keyedParams ∧ param "page".toList encoded = none ∧
      param "page".toList parted = some ['2'] := by
  exact ⟨by cbv, by cbv, by decide, by cbv, by cbv⟩

end TaskBoard.Cache
