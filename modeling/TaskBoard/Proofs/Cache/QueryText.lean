import TaskBoard.Proofs.Cache.KeyText

/-!
# The text of a query in a key

A key holds the selected pairs of a query as they are, without escapes. The text gives the pairs
back as long as no value looks like the start of another pair.
-/

namespace TaskBoard.Cache

def pairsText (pairs : List (List Char × List Char)) : List Char :=
  ['&'].intercalate (pairs.map fun (name, value) => name ++ '=' :: value)

/-- What stands after a pair: nothing, or the rest of the pairs after an ampersand. -/
def pairsRest : List (List Char × List Char) → List Char
  | [] => []
  | pairs => '&' :: pairsText pairs

/-- The value does not look like the start of another pair anywhere. -/
def Plain (value : List Char) : Prop :=
  ∀ name ∈ keyedParams, ¬ '&' :: name ++ ['='] <:+: value

/-- No value that a key takes from the query looks like the start of another pair. -/
def Separable (query : Option (List Char)) : Prop := ∀ pair ∈ selected query, Plain pair.2

variable {ps qs : List (List Char × List Char)} {q₁ q₂ : Option (List Char)}

theorem pairsText_cons (pair : List Char × List Char) (ps : List (List Char × List Char)) :
    pairsText (pair :: ps) = pair.1 ++ '=' :: (pair.2 ++ pairsRest ps) := by
  cases ps with
  | nil => simp [pairsText, pairsRest]
  | cons p ps =>
    simp [pairsText, pairsRest, List.intercalate_cons_cons]

theorem pairsRest_cons (pair : List Char × List Char) (ps : List (List Char × List Char)) :
    pairsRest (pair :: ps) = '&' :: pair.1 ++ '=' :: (pair.2 ++ pairsRest ps) :=
  congrArg ('&' :: ·) (pairsText_cons pair ps)

theorem normalizedQuery_eq (query : Option (List Char)) :
    normalizedQuery query =
      if selected query = [] then none else some (pairsText (selected query)) := by
  unfold normalizedQuery
  cases h : selected query with
  | nil => rfl
  | cons p ps => rfl

theorem pairsText_of_rest (h : pairsRest ps = pairsRest qs) : pairsText ps = pairsText qs := by
  cases ps <;> cases qs
  · rfl
  · cases h
  · cases h
  · exact (List.cons.inj h).2

/-! ## Names -/

theorem equals_not_mem_of_keyed {name : List Char} (h : name ∈ keyedParams) : '=' ∉ name := by
  revert name
  decide

theorem ampersand_not_mem_of_keyed {name : List Char} (h : name ∈ keyedParams) : '&' ∉ name := by
  revert name
  decide

/-! ## Where a value ends -/

/-- After a value a text is at its end or goes on with a keyed name. -/
def Follows (rest : List Char) : Prop :=
  rest = [] ∨ ∃ name ∈ keyedParams, ∃ more, rest = '&' :: name ++ '=' :: more

theorem follows_pairsRest (h : ∀ pair ∈ ps, pair.1 ∈ keyedParams) : Follows (pairsRest ps) := by
  cases ps with
  | nil => exact Or.inl rfl
  | cons p ps =>
    exact Or.inr ⟨p.1, h p List.mem_cons_self, p.2 ++ pairsRest ps, pairsRest_cons p ps⟩

/-- A text that goes on with a keyed name is not cut inside that name by another such text. -/
theorem prefix_of_follows {name more w rest' : List Char} (hname : name ∈ keyedParams)
    (hw : w ≠ []) (hrest' : Follows rest') (h : '&' :: name ++ '=' :: more = w ++ rest') :
    '&' :: name ++ ['='] <+: w := by
  have hsplit : ('&' :: name ++ ['=']) ++ more = w ++ rest' := by simpa using h
  rcases List.append_eq_append_iff.mp hsplit with ⟨x, rfl, -⟩ | ⟨x, hx, rfl⟩
  · exact List.prefix_append _ _
  · cases x with
    | nil => exact ⟨[], by simpa using hx⟩
    | cons c x =>
      -- The other text would go on inside the name, and that has no ampersand.
      obtain rfl : c = '&' := by
        rcases hrest' with h | ⟨_, -, _, h⟩
        · cases h
        · exact (List.cons.inj h).1
      cases w with
      | nil => exact absurd rfl hw
      | cons d w =>
        have htail : name ++ ['='] = w ++ '&' :: x := (List.cons.inj hx).2
        have hmem : '&' ∈ name ++ ['='] := by rw [htail]; simp
        simp [ampersand_not_mem_of_keyed hname] at hmem

theorem infix_of_follows {w rest rest' : List Char} (hw : w ≠ []) (hrest : Follows rest)
    (hrest' : Follows rest') (h : rest = w ++ rest') :
    ∃ name ∈ keyedParams, '&' :: name ++ ['='] <:+: w := by
  rcases hrest with rfl | ⟨name, hname, more, rfl⟩
  · exact absurd (List.append_eq_nil_iff.mp h.symm).1 hw
  · exact ⟨name, hname, (prefix_of_follows hname hw hrest' h).isInfix⟩

/-- Plain values end where the text goes on with a keyed name. -/
theorem append_follows_inj {v v' rest rest' : List Char} (hv : Plain v) (hv' : Plain v')
    (hrest : Follows rest) (hrest' : Follows rest') (h : v ++ rest = v' ++ rest') :
    v = v' ∧ rest = rest' := by
  have hnil : ∀ {a w r r' : List Char}, Plain (a ++ w) → Follows r → Follows r' →
      r = w ++ r' → w = [] := by
    intro a w r r' hplain hr hr' heq
    by_contra hw
    obtain ⟨name, hname, hin⟩ := infix_of_follows hw hr hr' heq
    exact hplain name hname (hin.trans (List.suffix_append a w).isInfix)
  rcases List.append_eq_append_iff.mp h with ⟨w, rfl, hr⟩ | ⟨w, rfl, hr⟩
  · obtain rfl := hnil hv' hrest hrest' hr
    exact ⟨(List.append_nil v).symm, hr⟩
  · obtain rfl := hnil hv hrest' hrest hr
    exact ⟨List.append_nil v', hr.symm⟩

/-- The text of keyed pairs with plain values gives the pairs back. -/
theorem pairsText_inj (hkeyed : ∀ pair ∈ ps, pair.1 ∈ keyedParams)
    (hplain : ∀ pair ∈ ps, Plain pair.2) (hkeyed' : ∀ pair ∈ qs, pair.1 ∈ keyedParams)
    (hplain' : ∀ pair ∈ qs, Plain pair.2) (h : pairsText ps = pairsText qs) : ps = qs := by
  induction ps generalizing qs with
  | nil =>
    cases qs with
    | nil => rfl
    | cons q qs => simp [pairsText_cons, show pairsText [] = [] from rfl] at h
  | cons p ps ih =>
    cases qs with
    | nil => simp [pairsText_cons, show pairsText [] = [] from rfl] at h
    | cons q qs =>
      rw [List.forall_mem_cons] at hkeyed hplain hkeyed' hplain'
      rw [pairsText_cons, pairsText_cons] at h
      obtain ⟨hname, hvalue⟩ := append_cons_inj (equals_not_mem_of_keyed hkeyed.1)
        (equals_not_mem_of_keyed hkeyed'.1) h
      obtain ⟨hvalue, hrest⟩ := append_follows_inj hplain.1 hplain'.1
        (follows_pairsRest hkeyed.2) (follows_pairsRest hkeyed'.2) hvalue
      rw [Prod.ext hname hvalue, ih hkeyed.2 hplain.2 hkeyed'.2 hplain'.2 (pairsText_of_rest hrest)]

/-! ## Queries of one text -/

theorem keyed_of_mem_selected {pair : List Char × List Char} {query : Option (List Char)}
    (h : pair ∈ selected query) : pair.1 ∈ keyedParams := by
  obtain ⟨name, hname, hpair⟩ := List.mem_filterMap.mp h
  obtain ⟨value, -, rfl⟩ := Option.map_eq_some_iff.mp hpair
  exact hname

theorem mem_selected_iff {name value : List Char} {query : Option (List Char)} :
    (name, value) ∈ selected query ↔ name ∈ keyedParams ∧ param name query = some value := by
  simp only [selected, List.mem_filterMap, Option.map_eq_some_iff, Prod.mk.injEq]
  constructor
  · rintro ⟨_, hname, _, hvalue, rfl, rfl⟩
    exact ⟨hname, hvalue⟩
  · rintro ⟨hname, hvalue⟩
    exact ⟨name, hname, value, hvalue, rfl, rfl⟩

theorem selected_eq_of_text_eq (h : normalizedQuery q₁ = normalizedQuery q₂) (h₁ : Separable q₁)
    (h₂ : Separable q₂) : selected q₁ = selected q₂ := by
  rw [normalizedQuery_eq, normalizedQuery_eq] at h
  by_cases hnil₁ : selected q₁ = []
  · by_cases hnil₂ : selected q₂ = []
    · rw [hnil₁, hnil₂]
    · simp [hnil₁, hnil₂] at h
  · by_cases hnil₂ : selected q₂ = []
    · simp [hnil₁, hnil₂] at h
    · rw [if_neg hnil₁, if_neg hnil₂, Option.some_inj] at h
      exact pairsText_inj (fun _ => keyed_of_mem_selected) h₁ (fun _ => keyed_of_mem_selected) h₂ h

theorem param_eq_of_selected_eq {name : List Char} (h : selected q₁ = selected q₂)
    (hname : name ∈ keyedParams) : param name q₁ = param name q₂ := by
  refine Option.ext fun value => ?_
  have hmem : (name, value) ∈ selected q₁ ↔ (name, value) ∈ selected q₂ := by rw [h]
  simpa only [mem_selected_iff, hname, true_and] using hmem

/-- Separable queries of one text have the same value for every keyed parameter. -/
theorem param_eq_of_text_eq (h : normalizedQuery q₁ = normalizedQuery q₂) (h₁ : Separable q₁)
    (h₂ : Separable q₂) {name : List Char} (hname : name ∈ keyedParams) :
    param name q₁ = param name q₂ :=
  param_eq_of_selected_eq (selected_eq_of_text_eq h h₁ h₂) hname

end TaskBoard.Cache
