import TaskBoard.Cache.Key
import Mathlib.Data.List.Basic

/-!
# The text of a key

A key is the name of its collection, followed by the parts that the request has, each after a
colon.
-/

namespace TaskBoard.Cache

def KeySpace.collection (space : KeySpace) (path : List Char) : List Char :=
  space.version path ++ ':' :: space.resourceType

/-- A part of a key with the colon before it, or nothing where the request has no such part. -/
def colonPart : Option (List Char) → List Char
  | some s => ':' :: s
  | none => []

/-- What stands in a key after the name of its collection. -/
def Target.parts (t : Target) : List Char :=
  colonPart t.scope ++ colonPart (resourceId t.path) ++ colonPart (normalizedQuery t.query)

theorem key_text (space : KeySpace) (t : Target) :
    (space.key t).text = space.collection t.path ++ t.parts := by
  unfold KeySpace.key KeySpace.components KeySpace.collection Target.parts
  cases t.scope <;> cases resourceId t.path <;> cases normalizedQuery t.query <;>
    simp [colonPart, List.intercalate_cons_cons]

theorem parts_nil_or_colon (t : Target) : t.parts = [] ∨ ∃ s, t.parts = ':' :: s := by
  unfold Target.parts
  cases t.scope <;> cases resourceId t.path <;> cases normalizedQuery t.query <;>
    simp [colonPart]

theorem colonPart_inj {a b : Option (List Char)} : colonPart a = colonPart b ↔ a = b := by
  cases a <;> cases b <;> simp [colonPart]

/-- A text without a separator can be told from what follows it after the separator. -/
theorem append_cons_inj {c : Char} {a b u v : List Char} (ha : c ∉ a) (hb : c ∉ b)
    (h : a ++ c :: u = b ++ c :: v) : a = b ∧ u = v := by
  induction a generalizing b with
  | nil =>
    cases b with
    | nil => exact ⟨rfl, (List.cons.inj h).2⟩
    | cons d b =>
      obtain ⟨rfl, -⟩ := List.cons.inj h
      exact absurd List.mem_cons_self hb
  | cons d a ih =>
    cases b with
    | nil =>
      obtain ⟨rfl, -⟩ := List.cons.inj h
      exact absurd List.mem_cons_self ha
    | cons d' b =>
      obtain ⟨rfl, htail⟩ := List.cons.inj h
      obtain ⟨rfl, hu⟩ :=
        ih (List.not_mem_of_not_mem_cons ha) (List.not_mem_of_not_mem_cons hb) htail
      exact ⟨rfl, hu⟩

/-- A text without colons ends at the first colon, or where the whole text ends. -/
theorem append_colonless_inj {a b u v : List Char} (ha : ':' ∉ a) (hb : ':' ∉ b)
    (hu : u = [] ∨ ∃ s, u = ':' :: s) (hv : v = [] ∨ ∃ s, v = ':' :: s)
    (h : a ++ u = b ++ v) : a = b ∧ u = v := by
  -- One more colon at the end gives both texts a colon to stop at.
  have hstop : ∀ w : List Char, w = [] ∨ (∃ s, w = ':' :: s) → ∃ s, w ++ [':'] = ':' :: s := by
    rintro w (rfl | ⟨s, rfl⟩)
    · exact ⟨[], rfl⟩
    · exact ⟨s ++ [':'], rfl⟩
  obtain ⟨s, hs⟩ := hstop u hu
  obtain ⟨s', hs'⟩ := hstop v hv
  have hlong : a ++ ':' :: s = b ++ ':' :: s' := by
    rw [← hs, ← hs', ← List.append_assoc, ← List.append_assoc, h]
  obtain ⟨rfl, -⟩ := append_cons_inj ha hb hlong
  exact ⟨rfl, List.append_cancel_left h⟩

end TaskBoard.Cache
