import Mathlib
import TaskBoard.Proofs.Cache.QueryText

/-!
# Reading a key back

The parts of a key stand in it one after another, without names and without escapes. Where neither
the caller nor the resource id holds a colon or an equals sign, the query is the first part with an
equals sign, and the key gives every part back, unless the caller of one request is the resource id
of the other.
-/

namespace TaskBoard.Cache

/-! ## Parts -/

/-- The part ends at the next colon and is not taken for a query. -/
def Unmarked (part : List Char) : Prop := ':' ∉ part ∧ '=' ∉ part

instance (part : List Char) : Decidable (Unmarked part) :=
  inferInstanceAs (Decidable (':' ∉ part ∧ '=' ∉ part))

/-- Parts of a key, each after a colon. -/
def partsText : List (List Char) → List Char
  | [] => []
  | part :: parts => ':' :: (part ++ partsText parts)

/-- The caller and the resource id of a key, as far as the request has them. -/
def Target.named (t : Target) : List (List Char) := t.scope.toList ++ (resourceId t.path).toList

theorem parts_eq (t : Target) :
    t.parts = partsText t.named ++ colonPart (normalizedQuery t.query) := by
  unfold Target.parts Target.named
  cases t.scope <;> cases resourceId t.path <;> simp [colonPart, partsText]

theorem partsText_cons_append (part : List Char) (parts : List (List Char)) (rest : List Char) :
    partsText (part :: parts) ++ rest = ':' :: (part ++ (partsText parts ++ rest)) := by
  simp [partsText]

theorem partsText_append_colonPart (parts : List (List Char)) (query : Option (List Char)) :
    partsText parts ++ colonPart query = [] ∨
      ∃ s, partsText parts ++ colonPart query = ':' :: s := by
  cases parts <;> cases query <;> simp [partsText, colonPart]

/-! ## Queries -/

/-- Something stands before the first colon that holds an equals sign. -/
def Headed (query : Option (List Char)) : Prop :=
  ∀ text, query = some text → ∃ name rest, text = name ++ '=' :: rest ∧ ':' ∉ name

theorem colon_not_mem_of_keyed {name : List Char} (h : name ∈ keyedParams) : ':' ∉ name := by
  revert name
  decide

theorem headed_normalizedQuery (query : Option (List Char)) : Headed (normalizedQuery query) := by
  intro text htext
  rw [normalizedQuery_eq] at htext
  cases hsel : selected query with
  | nil => simp [hsel] at htext
  | cons pair pairs =>
    simp only [hsel, reduceCtorEq, if_false, Option.some_inj] at htext
    have hkeyed : pair.1 ∈ keyedParams := keyed_of_mem_selected (hsel ▸ List.mem_cons_self)
    exact ⟨pair.1, _, htext ▸ pairsText_cons pair pairs, colon_not_mem_of_keyed hkeyed⟩

theorem takeWhile_colonless {part rest : List Char} (hpart : ':' ∉ part)
    (hrest : rest = [] ∨ ∃ s, rest = ':' :: s) :
    (part ++ rest).takeWhile (· ≠ ':') = part := by
  rw [List.takeWhile_append_of_pos]
  · rcases hrest with rfl | ⟨s, rfl⟩ <;> simp
  · intro c hc
    exact decide_eq_true fun h => hpart (h ▸ hc)

/-- What stands before the first colon of a query is no name of a caller or a resource. -/
theorem unmarked_append_ne_headed {part rest text : List Char} (hpart : Unmarked part)
    (hrest : rest = [] ∨ ∃ s, rest = ':' :: s) (htext : Headed (some text)) :
    part ++ rest ≠ text := by
  rintro rfl
  obtain ⟨name, more, htext, hname⟩ := htext _ rfl
  have hfirst := takeWhile_colonless hpart.1 hrest
  have hkept : ∀ c ∈ name, decide (c ≠ ':') = true := fun c hc =>
    decide_eq_true fun h => hname (h ▸ hc)
  rw [htext, List.takeWhile_append_of_pos hkept] at hfirst
  apply hpart.2
  rw [← hfirst]
  simp

/-! ## Keys -/

/-- Parts and the query after them can be told from the text that they make. -/
theorem partsText_append_inj {ps qs : List (List Char)} {query query' : Option (List Char)}
    (hps : ∀ p ∈ ps, Unmarked p) (hqs : ∀ q ∈ qs, Unmarked q) (hquery : Headed query)
    (hquery' : Headed query')
    (h : partsText ps ++ colonPart query = partsText qs ++ colonPart query') :
    ps = qs ∧ query = query' := by
  -- One list is used up first: then a query would have to begin with a part of the other.
  have hclash : ∀ {part : List Char} {parts : List (List Char)} {q q' : Option (List Char)},
      Unmarked part → Headed q →
        colonPart q ≠ partsText (part :: parts) ++ colonPart q' := by
    intro part parts q q' hpart hq heq
    cases q with
    | none => cases heq
    | some text =>
      rw [partsText_cons_append] at heq
      exact unmarked_append_ne_headed hpart (partsText_append_colonPart parts q') hq
        (List.cons.inj heq).2.symm
  induction ps generalizing qs with
  | nil =>
    cases qs with
    | nil => exact ⟨rfl, colonPart_inj.mp h⟩
    | cons q qs => exact absurd h (hclash (hqs q List.mem_cons_self) hquery)
  | cons p ps ih =>
    cases qs with
    | nil => exact absurd h.symm (hclash (hps p List.mem_cons_self) hquery')
    | cons q qs =>
      rw [List.forall_mem_cons] at hps hqs
      rw [partsText_cons_append, partsText_cons_append] at h
      obtain ⟨rfl, hrest⟩ := append_colonless_inj hps.1.1 hqs.1.1
        (partsText_append_colonPart ps query) (partsText_append_colonPart qs query')
        (List.cons.inj h).2
      obtain ⟨rfl, hq⟩ := ih hps.2 hqs.2 hrest
      exact ⟨rfl, hq⟩

/-- What is expected of a request for its key to be read back: a version without colons, and a
caller and a resource id without colons and equals signs. -/
structure Legible (space : KeySpace) (t : Target) : Prop where
  version : ':' ∉ space.version t.path
  named : ∀ part ∈ t.named, Unmarked part

instance (space : KeySpace) (t : Target) : Decidable (Legible space t) :=
  decidable_of_iff (':' ∉ space.version t.path ∧ ∀ part ∈ t.named, Unmarked part)
    ⟨fun h => ⟨h.1, h.2⟩, fun h => ⟨h.version, h.named⟩⟩

/-- The caller of one request and the resource id of the other are all that can be mistaken for
each other. -/
theorem named_inj {t u : Target} (h : t.named = u.named)
    (hapart : ∀ caller ∈ t.scope, caller ∉ resourceId u.path)
    (hapart' : ∀ caller ∈ u.scope, caller ∉ resourceId t.path) :
    t.scope = u.scope ∧ resourceId t.path = resourceId u.path := by
  unfold Target.named at h
  cases ht : t.scope <;> cases hi : resourceId t.path <;> cases hu : u.scope <;>
    cases hj : resourceId u.path <;> simp_all

/-- Legible requests have the same key exactly if they have the same version, caller, resource id
and query, as long as the caller of neither is the resource id of the other. -/
theorem key_eq_iff_parts_eq (space : KeySpace) {t u : Target} (ht : Legible space t)
    (hu : Legible space u)
    (hapart : ∀ caller ∈ t.scope, caller ∉ resourceId u.path)
    (hapart' : ∀ caller ∈ u.scope, caller ∉ resourceId t.path) :
    space.key t = space.key u ↔
      space.version t.path = space.version u.path ∧ t.scope = u.scope ∧
        resourceId t.path = resourceId u.path ∧
        normalizedQuery t.query = normalizedQuery u.query := by
  rw [Key.mk.injEq, key_text, key_text]
  constructor
  · intro h
    rw [KeySpace.collection, KeySpace.collection, List.append_assoc, List.append_assoc,
      List.cons_append, List.cons_append] at h
    obtain ⟨hversion, hrest⟩ := append_cons_inj ht.version hu.version h
    rw [List.append_cancel_left_eq, parts_eq, parts_eq] at hrest
    obtain ⟨hnamed, hquery⟩ := partsText_append_inj ht.named hu.named
      (headed_normalizedQuery t.query) (headed_normalizedQuery u.query) hrest
    obtain ⟨hcaller, hresource⟩ := named_inj hnamed hapart hapart'
    exact ⟨hversion, hcaller, hresource, hquery⟩
  · rintro ⟨hversion, hcaller, hresource, hquery⟩
    rw [KeySpace.collection, KeySpace.collection, Target.parts, Target.parts, hversion, hcaller,
      hresource, hquery]

/-- A query with colons and equals signs, written in two ways, and read by a caller and about a
resource. -/
theorem colons_in_query_do_no_harm :
    let space : KeySpace := ⟨"v1".toList, "tasks".toList⟩
    let byAnn : Target := ⟨"/api/v1/tasks".toList, some "page=1&status=a:b=c".toList,
      some "ann".toList⟩
    let again : Target := ⟨"//api/v1/tasks/".toList, some "status=a%3Ab%3Dc&utm=x&page=1".toList,
      some "ann".toList⟩
    let aboutBen : Target := ⟨"/api/v1/tasks/ben".toList, some "page=1&status=a:b=c".toList, none⟩
    space.key byAnn = space.key again ∧ space.key byAnn ≠ space.key aboutBen := by
  intro space byAnn again aboutBen
  have hbyAnn : Legible space byAnn := by decide
  have hagain : Legible space again := by decide
  have haboutBen : Legible space aboutBen := by decide
  constructor
  · refine (key_eq_iff_parts_eq space hbyAnn hagain (by decide) (by decide)).mpr ?_
    exact ⟨by decide, rfl, by decide, by cbv⟩
  · intro h
    have hparts :=
      (key_eq_iff_parts_eq space hbyAnn haboutBen (by decide) (by decide)).mp h
    exact absurd hparts.2.1 (by decide)

end TaskBoard.Cache
