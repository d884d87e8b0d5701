import Mathlib
import TaskBoard.Cache.Overlay
import TaskBoard.Proofs.Cache.KeyText
import TaskBoard.Proofs.Text.Ascii

/-!
# Callers in keys

The caller of a read has a place of its own in the key. Only a header value of visible ASCII
characters names a caller: a value with any other byte counts as none at all.
-/

namespace TaskBoard.Cache

open Http Text

/-! ## The caller of a request -/

theorem lt_of_isVisible {b : UInt8} (h : isVisible b = true) : b < 0x80 := by
  simp only [isVisible, Bool.or_eq_true, Bool.and_eq_true, decide_eq_true_eq] at h
  rcases h with ⟨-, h⟩ | rfl
  · exact Nat.lt_of_le_of_lt h (by decide)
  · decide

theorem headerText?_of_visible {v : Bytes} (h : v.all isVisible = true) :
    headerText? v = Utf8.decode? v := by
  have hascii : ∀ b ∈ v, b < 0x80 := fun b hb => lt_of_isVisible (List.all_eq_true.mp h b hb)
  rw [Utf8.decode?_ascii hascii, headerText?, if_pos h]
  rfl

theorem caller_of_visible {r : Request} {v : Bytes} {t : List Char}
    (hv : firstValue? r.headers callerHeader = some v) (hd : Utf8.decode? v = some t)
    (hvis : v.all isVisible = true) (hblank : trim t ≠ []) : r.caller = some (trim t) := by
  have htext : r.callerText = some t := by
    rw [Request.callerText, hv, Option.bind_some, headerText?_of_visible hvis, hd]
  rw [Request.caller, htext, Option.map_some, Option.filter_some, if_pos]
  simpa using hblank

theorem caller_of_not_visible {r : Request} {v : Bytes}
    (hv : firstValue? r.headers callerHeader = some v) (hvis : v.all isVisible = false) :
    r.caller = none := by
  have htext : r.callerText = none := by
    rw [Request.callerText, hv, Option.bind_some, headerText?, if_neg (by simp [hvis])]
  rw [Request.caller, htext]
  rfl

/-! ## Keys of one path and query -/

theorem key_eq_iff_scope_eq (space : KeySpace) {t₁ t₂ : Target} (hp : t₁.path = t₂.path)
    (hq : t₁.query = t₂.query) : space.key t₁ = space.key t₂ ↔ t₁.scope = t₂.scope := by
  rw [Key.mk.injEq, key_text, key_text, Target.parts, Target.parts, hp, hq,
    List.append_cancel_left_eq, List.append_cancel_right_eq, List.append_cancel_right_eq,
    colonPart_inj]

/-- Two callers that a header names in UTF-8, neither blank nor the same, share the key of a read
exactly if neither of the values is visible ASCII. -/
theorem key_eq_iff_not_visible (space : KeySpace) {r₁ r₂ : Request} {v₁ v₂ : Bytes}
    {t₁ t₂ : List Char} (huri : r₁.uri = r₂.uri)
    (hv₁ : firstValue? r₁.headers callerHeader = some v₁)
    (hv₂ : firstValue? r₂.headers callerHeader = some v₂)
    (hd₁ : Utf8.decode? v₁ = some t₁) (hd₂ : Utf8.decode? v₂ = some t₂)
    (hblank₁ : trim t₁ ≠ []) (hblank₂ : trim t₂ ≠ []) (hne : trim t₁ ≠ trim t₂) :
    space.key (target r₁) = space.key (target r₂) ↔
      v₁.all isVisible = false ∧ v₂.all isVisible = false := by
  have hpath : (target r₁).path = (target r₂).path := congrArg Uri.path huri
  have hquery : (target r₁).query = (target r₂).query := congrArg Uri.query huri
  rw [key_eq_iff_scope_eq space hpath hquery]
  change r₁.caller = r₂.caller ↔ _
  cases h₁ : v₁.all isVisible <;> cases h₂ : v₂.all isVisible
  · simp [caller_of_not_visible hv₁ h₁, caller_of_not_visible hv₂ h₂]
  · simp [caller_of_not_visible hv₁ h₁, caller_of_visible hv₂ hd₂ h₂ hblank₂]
  · simp [caller_of_visible hv₁ hd₁ h₁ hblank₁, caller_of_not_visible hv₂ h₂]
  · simp [caller_of_visible hv₁ hd₁ h₁ hblank₁, caller_of_visible hv₂ hd₂ h₂ hblank₂, hne]

def listingBy (caller : Bytes) : Request :=
  ⟨.get, ⟨"/api/v1/tasks".toList, none⟩, [⟨callerHeader, caller⟩], []⟩

/-- `al` and `é` are told apart: one visible value is enough. -/
theorem plain_and_accented_callers_differ :
    Settings.standard.space.key (target (listingBy [0x61, 0x6C])) ≠
      Settings.standard.space.key (target (listingBy [0xC3, 0xA9])) := by
  have hplain : Utf8.decode? [0x61, 0x6C] = some ['a', 'l'] := by cbv
  have haccent : Utf8.decode? [0xC3, 0xA9] = some ['é'] := by cbv
  have hiff := key_eq_iff_not_visible Settings.standard.space
    (show (listingBy [0x61, 0x6C]).uri = (listingBy [0xC3, 0xA9]).uri from rfl) rfl rfl
    hplain haccent (by decide) (by decide) (by decide)
  intro h
  exact absurd (hiff.mp h).1 (by decide)

/-- `é` and `ü` are two callers that share an entry. -/
theorem accented_callers_share_a_key :
    (listingBy [0xC3, 0xA9]).uri = (listingBy [0xC3, 0xBC]).uri ∧
    Utf8.decode? [0xC3, 0xA9] = some ['é'] ∧ Utf8.decode? [0xC3, 0xBC] = some ['ü'] ∧
    trim ['é'] ≠ [] ∧ trim ['ü'] ≠ [] ∧ trim ['é'] ≠ trim ['ü'] ∧
    Settings.standard.space.key (target (listingBy [0xC3, 0xA9])) =
      Settings.standard.space.key (target (listingBy [0xC3, 0xBC])) := by
  refine ⟨rfl, by cbv, by cbv, by decide, by decide, by decide, ?_⟩
  exact (key_eq_iff_scope_eq _ rfl rfl).mpr rfl

end TaskBoard.Cache
