import TaskBoard.Cache.Memory
import Mathlib.Data.List.Nodup

/-!
# The live entries of the store in memory

A caller of the store sees its live entries and nothing else: this module says what each operation
does to them, from the moment of the operation on.
-/

namespace TaskBoard.Cache.Memory

open Time

variable {now later : Instant} {key : Key} {value : Bytes} {ttl : Duration} {m : Memory} {e : Entry}

theorem mem_live_iff : e ∈ live now m ↔ e ∈ m ∧ isLive now e = true := List.mem_filter

theorem isLive_of_le (hle : now ≤ later) (h : isLive later e = true) : isLive now e = true := by
  unfold isLive at h ⊢
  cases hd : e.deadline with
  | none => rfl
  | some d =>
    simp only [hd, decide_eq_true_eq] at h ⊢
    exact Nat.lt_of_le_of_lt hle h

theorem mem_live_of_le (hle : now ≤ later) :
    e ∈ live later m ↔ e ∈ live now m ∧ isLive later e = true := by
  rw [mem_live_iff, mem_live_iff]
  exact ⟨fun ⟨hm, hl⟩ => ⟨⟨hm, isLive_of_le hle hl⟩, hl⟩, fun ⟨⟨hm, _⟩, hl⟩ => ⟨hm, hl⟩⟩

theorem live_live (hle : now ≤ later) : live later (live now m) = live later m := by
  unfold live
  rw [List.filter_filter]
  refine List.filter_congr fun e _ => ?_
  cases hlater : isLive later e with
  | false => rfl
  | true => rw [isLive_of_le hle hlater]; rfl

theorem live_filter (p : Entry → Bool) : live now (m.filter p) = (live now m).filter p :=
  List.filter_comm ..

/-- On a clock that has not run out, an entry is alive for less than its time to live. -/
theorem isLive_deadline_iff (h : later < horizon) :
    isLive later ⟨key, value, deadline now ttl⟩ = true ↔ later < now + ttl := by
  unfold isLive deadline
  by_cases hd : now + ttl < horizon
  · simp [hd]
  · have hlt : later < now + ttl := Nat.lt_of_lt_of_le h (Nat.not_lt.mp hd)
    simp [hd, hlt]

/-! ## Operations -/

theorem mem_live_put (hle : now ≤ later) :
    e ∈ live later (put now key value ttl m) ↔
      (e ∈ live later m ∧ e.key ≠ key) ∨
        (e = ⟨key, value, deadline now ttl⟩ ∧ isLive later e = true) := by
  unfold put
  rw [mem_live_iff, List.mem_append, List.mem_filter, List.mem_singleton, decide_eq_true_eq,
    mem_live_of_le hle, or_and_right]
  tauto

theorem mem_live_filter {p : Entry → Bool} :
    e ∈ live now (m.filter p) ↔ e ∈ live now m ∧ p e = true := by
  rw [mem_live_iff, List.mem_filter, mem_live_iff]
  tauto

theorem mem_keys_iff {k : Key} : k ∈ keys now m ↔ ∃ e ∈ live now m, e.key = k := List.mem_map

/-! ## One entry for each key -/

/-- No two entries have the same key. -/
def Distinct (m : Memory) : Prop := (m.map (·.key)).Nodup

theorem distinct_nil : Distinct [] := List.nodup_nil

theorem Distinct.filter (h : Distinct m) (p : Entry → Bool) : Distinct (m.filter p) :=
  h.sublist (List.filter_sublist.map _)

theorem Distinct.put (h : Distinct m) : Distinct (put now key value ttl m) := by
  have hkept : Distinct ((live now m).filter (·.key ≠ key)) := (h.filter _).filter _
  unfold Distinct Memory.put
  rw [List.map_append, List.nodup_append]
  refine ⟨hkept, List.nodup_singleton _, ?_⟩
  intro a ha b hb heq
  obtain ⟨e, he, rfl⟩ := List.mem_map.mp ha
  obtain rfl := List.mem_singleton.mp hb
  exact of_decide_eq_true (List.mem_filter.mp he).2 heq

theorem Distinct.eq_of_key_eq (h : Distinct m) {e' : Entry} (he : e ∈ live now m)
    (he' : e' ∈ live now m) (hk : e.key = e'.key) : e = e' :=
  List.inj_on_of_nodup_map h (mem_live_iff.mp he).1 (mem_live_iff.mp he').1 hk

theorem lookup?_eq_none_iff : lookup? now key m = none ↔ ∀ e ∈ live now m, e.key ≠ key := by
  simp [lookup?, List.find?_eq_none]

theorem lookup?_eq_some_iff (h : Distinct m) :
    lookup? now key m = some e ↔ e ∈ live now m ∧ e.key = key := by
  constructor
  · intro hf
    exact ⟨List.mem_of_find?_eq_some hf, by simpa using List.find?_some hf⟩
  · rintro ⟨he, rfl⟩
    cases hf : lookup? now e.key m with
    | none => exact absurd rfl (lookup?_eq_none_iff.mp hf e he)
    | some e' =>
      have hk : e'.key = e.key := by simpa using List.find?_some hf
      rw [h.eq_of_key_eq (List.mem_of_find?_eq_some hf) he hk]

end TaskBoard.Cache.Memory
