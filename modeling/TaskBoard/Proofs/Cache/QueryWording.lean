import Mathlib
import TaskBoard.Cache.Key
import TaskBoard.Proofs.Text.Form

/-!
# Wordings of a query

A key does not tell apart the ways of writing a query in which every keyed parameter has the same
first readable value: the pieces may be mixed, as long as those of one name stay in their order,
pieces may be added or left out that no key looks at, and a parameter may be given again after its
value is settled.
-/

namespace TaskBoard.Cache

open Text

/-- What stands between the ampersands of a query. No query counts as an empty one. -/
def pieces (query : Option (List Char)) : List (List Char) := splitAll '&' (query.getD [])

def pieceName (piece : List Char) : List Char := (Form.decoded piece).1

/-- Decoding the piece loses something. -/
def Garbled (piece : List Char) : Prop :=
  '\uFFFD' ∈ (Form.decoded piece).1 ∨ '\uFFFD' ∈ (Form.decoded piece).2

/-- One change to the pieces of a query. -/
inductive Reworded : List (List Char) → List (List Char) → Prop
  | reorder {ps qs : List (List Char)} : ps.Perm qs →
    (∀ name, ps.filter (pieceName · = name) = qs.filter (pieceName · = name)) → Reworded ps qs
  | insert (ps qs : List (List Char)) {p : List Char} :
    p = [] ∨ pieceName p ∉ keyedParams ∨ Garbled p → Reworded (ps ++ qs) (ps ++ p :: qs)
  | remove (ps qs : List (List Char)) {p : List Char} :
    p = [] ∨ pieceName p ∉ keyedParams ∨ Garbled p → Reworded (ps ++ p :: qs) (ps ++ qs)
  | again (ps qs : List (List Char)) {p u : List Char} : u ∈ ps → pieceName u ∈ keyedParams →
    ¬ Garbled u → pieceName p = pieceName u → Reworded (ps ++ qs) (ps ++ p :: qs)

/-! ## Values by name -/

/-- The value that a piece gives to a parameter, if it is about it and can be read. -/
def valueFor (name piece : List Char) : Option (List Char) :=
  if pieceName piece = name ∧ isReadable (Form.decoded piece) = true then
    some (Form.decoded piece).2
  else none

def values (name : List Char) (pieces : List (List Char)) : List (List Char) :=
  pieces.filterMap (valueFor name)

variable {name piece : List Char} {ps qs : List (List Char)}

theorem isReadable_iff_not_garbled : isReadable (Form.decoded piece) = true ↔ ¬ Garbled piece := by
  simp [isReadable, Garbled]

theorem valueFor_of_other (h : pieceName piece ≠ name) : valueFor name piece = none :=
  if_neg fun hvalue => h hvalue.1

theorem valueFor_of_garbled (h : Garbled piece) : valueFor name piece = none :=
  if_neg fun hvalue => isReadable_iff_not_garbled.mp hvalue.2 h

theorem pieceName_nil : pieceName [] = [] := by
  simp [pieceName, Form.decoded, Form.pair, splitFirst?, Form.decode, Form.percentDecode,
    Utf8.decodeLossy]

theorem ne_nil_of_keyed (h : name ∈ keyedParams) : name ≠ [] := by
  rintro rfl
  revert h
  decide

theorem valueFor_of_unkeyed (hname : name ∈ keyedParams)
    (h : piece = [] ∨ pieceName piece ∉ keyedParams ∨ Garbled piece) :
    valueFor name piece = none := by
  rcases h with rfl | h | h
  · refine valueFor_of_other ?_
    rw [pieceName_nil]
    exact (ne_nil_of_keyed hname).symm
  · exact valueFor_of_other fun heq => h (heq ▸ hname)
  · exact valueFor_of_garbled h

/-- A keyed parameter has the first value that a piece gives to it. -/
theorem param_eq_head?_values (query : Option (List Char)) (hname : name ∈ keyedParams) :
    param name query = (values name (pieces query)).head? := by
  have hlookup : ∀ piece : List Char,
      (if (!piece.isEmpty) = true then
        (if isReadable (Form.decoded piece) = true then
          if (name == (Form.decoded piece).1) = true then some (Form.decoded piece).2 else none
        else none)
      else none) = valueFor name piece := by
    intro piece
    cases hpiece : piece.isEmpty with
    | true => simp [List.isEmpty_iff.mp hpiece, valueFor_of_unkeyed hname (.inl rfl)]
    | false => grind [valueFor, pieceName]
  rw [param, readablePairs, Form.parse_eq_map_decoded, List.lookup_eq_findSome?,
    ← List.head?_filterMap, List.filterMap_filter, List.filterMap_map, List.filterMap_filter]
  simp only [Function.comp_def, hlookup]
  rfl

theorem values_filter (name : List Char) (ps : List (List Char)) :
    values name (ps.filter (pieceName · = name)) = values name ps := by
  rw [values, List.filterMap_filter]
  refine List.filterMap_congr fun p _ => ?_
  split
  · rfl
  · next h => exact (valueFor_of_other (by simpa using h)).symm

theorem values_insert (h : valueFor name piece = none) (ps qs : List (List Char)) :
    values name (ps ++ piece :: qs) = values name (ps ++ qs) := by
  rw [values, values, List.filterMap_append, List.filterMap_append, List.filterMap_cons_none h]

/-- Where a value is settled, nothing that comes later counts. -/
theorem head?_values_append (h : values name ps ≠ []) (qs : List (List Char)) :
    (values name (ps ++ qs)).head? = (values name ps).head? := by
  rw [values, List.filterMap_append]
  exact List.head?_append_of_ne_nil _ h

theorem values_ne_nil (hmem : piece ∈ ps) (hname : pieceName piece = name)
    (h : ¬ Garbled piece) : values name ps ≠ [] := by
  have hvalue : valueFor name piece = some (Form.decoded piece).2 :=
    if_pos ⟨hname, isReadable_iff_not_garbled.mpr h⟩
  exact List.ne_nil_of_mem (List.mem_filterMap.mpr ⟨piece, hmem, hvalue⟩)

/-! ## Keys -/

/-- A change leaves every keyed parameter its first value. -/
theorem Reworded.head?_values_eq (h : Reworded ps qs) (hname : name ∈ keyedParams) :
    (values name ps).head? = (values name qs).head? := by
  cases h with
  | reorder _ hfilter => rw [← values_filter name ps, hfilter name, values_filter]
  | insert ps qs hp => rw [values_insert (valueFor_of_unkeyed hname hp)]
  | remove ps qs hp => rw [values_insert (valueFor_of_unkeyed hname hp)]
  | @again ps qs p u hmem _ hreadable hsame =>
    by_cases hp : pieceName p = name
    · have hsettled : values name ps ≠ [] := values_ne_nil hmem (hsame ▸ hp) hreadable
      rw [head?_values_append hsettled, head?_values_append hsettled]
    · rw [values_insert (valueFor_of_other hp)]

theorem head?_values_eq_of_reworded (h : Relation.ReflTransGen Reworded ps qs)
    (hname : name ∈ keyedParams) : (values name ps).head? = (values name qs).head? := by
  induction h with
  | refl => rfl
  | tail _ hstep ih => rw [ih, hstep.head?_values_eq hname]

theorem key_congr (space : KeySpace) (path : List Char) (scope : Option (List Char))
    {q₁ q₂ : Option (List Char)} (h : ∀ name ∈ keyedParams, param name q₁ = param name q₂) :
    space.key ⟨path, q₁, scope⟩ = space.key ⟨path, q₂, scope⟩ := by
  have hselected : selected q₁ = selected q₂ :=
    List.filterMap_congr fun name hname => by rw [h name hname]
  have hquery : normalizedQuery q₁ = normalizedQuery q₂ := by
    rw [normalizedQuery, normalizedQuery, hselected]
  rw [KeySpace.key, KeySpace.key, KeySpace.components, KeySpace.components, hquery]

/-- Queries that come from one another by such changes have one key. -/
theorem key_eq_of_reworded (space : KeySpace) (path : List Char) (scope : Option (List Char))
    {q₁ q₂ : Option (List Char)}
    (h : Relation.ReflTransGen Reworded (pieces q₁) (pieces q₂)) :
    space.key ⟨path, q₁, scope⟩ = space.key ⟨path, q₂, scope⟩ := by
  refine key_congr space path scope fun name hname => ?_
  rw [param_eq_head?_values q₁ hname, param_eq_head?_values q₂ hname,
    head?_values_eq_of_reworded h hname]

/-- Two pieces change places, and others come in: one that is garbled before the page, one that no
key looks at, an empty one, and at the end a second page. -/
theorem mixed_and_padded_query :
    let space : KeySpace := ⟨"v1".toList, "tasks".toList⟩
    let path := "/api/v1/tasks".toList
    let plain := some "status=a&page=1".toList
    let padded := some "page=%FF&page=1&utm=x&status=a&&pa%67e=2".toList
    Relation.ReflTransGen Reworded (pieces plain) (pieces padded) ∧
      space.key ⟨path, plain, none⟩ = space.key ⟨path, padded, none⟩ := by
  intro space path plain padded
  have hstatus : Form.decoded "status=a".toList = ("status".toList, ['a']) := by cbv
  have hpage : Form.decoded "page=1".toList = ("page".toList, ['1']) := by cbv
  have hbadPage : Form.decoded "page=%FF".toList = ("page".toList, ['\uFFFD']) := by cbv
  have hunkeyed : pieceName "utm=x".toList = "utm".toList := by cbv
  have hsecond : pieceName "pa%67e=2".toList = "page".toList := by cbv
  have hplain : pieces plain = ["status=a".toList, "page=1".toList] := by cbv
  have hpadded : pieces padded = ["page=%FF".toList, "page=1".toList, "utm=x".toList,
    "status=a".toList, [], "pa%67e=2".toList] := by cbv
  generalize "status=a".toList = status at *
  generalize "page=1".toList = page at *
  generalize "page=%FF".toList = badPage at *
  generalize "utm=x".toList = unkeyed at *
  generalize "pa%67e=2".toList = second at *
  have hreworded : Relation.ReflTransGen Reworded (pieces plain) (pieces padded) := by
    rw [hplain, hpadded]
    refine .head (b := [page, status]) (.reorder (.swap _ _ _) fun name => ?_) ?_
    · have hne : pieceName status ≠ pieceName page := by
        rw [pieceName, pieceName, hstatus, hpage]
        decide
      by_cases h : pieceName status = name
      · simp [← h, hne.symm]
      · simp [List.filter_cons, h]
    refine .head (.insert [] [page, status] (p := badPage) (.inr (.inr (.inr ?_)))) ?_
    · rw [hbadPage]
      exact List.mem_singleton_self _
    refine .head (.insert [badPage, page] [status] (p := unkeyed) (.inr (.inl ?_))) ?_
    · rw [hunkeyed]
      decide
    refine .head (.insert [badPage, page, unkeyed, status] [] (.inl rfl)) ?_
    refine .head (.again [badPage, page, unkeyed, status, []] [] (p := second) (u := page)
      (by simp) ?_ ?_ ?_) .refl
    · rw [pieceName, hpage]
      decide
    · rw [Garbled, hpage]
      decide
    · rw [hsecond, pieceName, hpage]
  exact ⟨hreworded, key_eq_of_reworded space path none hreworded⟩

end TaskBoard.Cache
