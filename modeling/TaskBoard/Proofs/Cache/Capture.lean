import TaskBoard.Cache.Memory
import TaskBoard.Cache.Overlay
import TaskBoard.Proofs.Http.Body

/-!
# What is captured of a body

A body is stored when the client has read it to its clean end and it is no longer than may be kept,
however it is cut into pieces; and then it is stored whole.
-/

namespace TaskBoard.Cache

open Http Time

/-- One piece of a body is captured, a failure is passed over. -/
def captureItem (limit : Nat) (captured : Option Bytes) : Except String Bytes → Option Bytes
  | .ok chunk => capture limit captured chunk
  | .error _ => captured

theorem captureAll_eq_foldl (limit : Nat) (items : Body) :
    captureAll limit items = items.foldl (captureItem limit) (some []) := by
  unfold captureAll
  congr 1

theorem foldl_captureItem_none (limit : Nat) (items : Body) :
    items.foldl (captureItem limit) none = none := by
  induction items with
  | nil => rfl
  | cons item items ih => cases item <;> exact ih

/-- The limit is on the sum, so that it does not matter where the pieces end. -/
theorem foldl_captureItem {limit : Nat} {items : Body} (hclean : items.failure? = none)
    {bytes : Bytes} (hbytes : bytes.length ≤ limit) :
    items.foldl (captureItem limit) (some bytes) =
      if bytes.length + items.bytes.length ≤ limit then some (bytes ++ items.bytes) else none := by
  induction items generalizing bytes with
  | nil => simp [Body.bytes, hbytes]
  | cons item items ih =>
    cases item with
    | error e => cases hclean
    | ok chunk =>
      rw [Body.bytes_cons_ok, List.length_append, ← Nat.add_assoc, ← List.append_assoc,
        ← List.length_append]
      change items.foldl (captureItem limit) (capture limit (some bytes) chunk) = _
      unfold capture
      simp only
      by_cases h : bytes.length + chunk.length ≤ limit
      · rw [if_pos h]
        exact ih hclean (by rwa [List.length_append])
      · rw [if_neg h, foldl_captureItem_none, if_neg (by rw [List.length_append]; omega)]

theorem captureAll_of_clean {limit : Nat} {items : Body} (hclean : items.failure? = none) :
    captureAll limit items =
      if items.bytes.length ≤ limit then some items.bytes else none := by
  rw [captureAll_eq_foldl, foldl_captureItem hclean (Nat.zero_le limit)]
  simp

/-- The client reads an answer to a read in a way that lets it be stored. -/
def Settings.Captures (settings : Settings) (limit : Option Nat) (body : Body) : Prop :=
  body.Completes limit ∧ body.bytes.length ≤ settings.maxBodyBytes

theorem afterReading_of_captures {settings : Settings} {limit : Option Nat} {body : Body}
    (key : Key) (h : settings.Captures limit body) :
    afterReading settings key (body.read limit) = commit settings key body.bytes := by
  unfold afterReading
  rw [Body.read_of_completes h.1]
  simp only [h.1.1, captureAll_of_clean h.1.1, if_pos h.2, if_true]

/-- Nothing is asked of the store for any other body. -/
theorem afterReading_of_not_captures {settings : Settings} {limit : Option Nat} {body : Body}
    (key : Key) (h : ¬ settings.Captures limit body) :
    ∃ events, afterReading settings key (body.read limit) = .done events := by
  unfold afterReading
  cases hf : (body.read limit).items.failure? with
  | some reason => exact ⟨_, rfl⟩
  | none =>
    simp only
    by_cases hended : (body.read limit).ended = true
    · have hcomp := Body.completes_of_ended hended
      have hlong : ¬ body.bytes.length ≤ settings.maxBodyBytes := fun hle => h ⟨hcomp, hle⟩
      rw [Body.read_of_completes hcomp, if_pos rfl]
      simp only [captureAll_of_clean hcomp.1, if_neg hlong]
      exact ⟨_, rfl⟩
    · rw [if_neg hended]
      exact ⟨_, rfl⟩

end TaskBoard.Cache
