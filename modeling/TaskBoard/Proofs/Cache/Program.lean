import TaskBoard.Cache.Store

/-!
# The calls of a program

Which calls a program makes depends on how the store answers them. What all of them have in common,
and what each of them keeps of the store, holds of every run.
-/

namespace TaskBoard.Cache

variable {α β σ : Type}

/-- A store that writes down the calls made on it, in order. -/
def Store.logged (store : Store σ) : Store (σ × List Call) := fun c s =>
  let (r, t) := store c s.1
  (r, t, s.2 ++ [c])

namespace Program

theorem run_bind (store : Store σ) (p : Program α) (f : α → Program β) (s : σ) :
    (p.bind f).run store s = (f (p.run store s).1).run store (p.run store s).2 := by
  induction p generalizing s with
  | done a => rfl
  | ask c next ih => exact ih (store c s).1 (store c s).2

/-- Writing down the calls changes nothing else. -/
theorem run_logged (store : Store σ) (p : Program α) (s : σ) (calls : List Call) :
    (p.run store.logged (s, calls)).1 = (p.run store s).1 ∧
      (p.run store.logged (s, calls)).2.1 = (p.run store s).2 := by
  induction p generalizing s calls with
  | done a => exact ⟨rfl, rfl⟩
  | ask c next ih => exact ih (store c s).1 (store c s).2 (calls ++ [c])

/-- Whatever it is answered, the program makes only calls of one kind. -/
def Asks (kind : Call → Prop) : Program α → Prop
  | done _ => True
  | ask c next => kind c ∧ ∀ r, (next r).Asks kind

variable {kind : Call → Prop} {p : Program α}

theorem Asks.bind {f : α → Program β} (h : p.Asks kind) (hf : ∀ a, (f a).Asks kind) :
    (p.bind f).Asks kind := by
  induction p with
  | done a => exact hf a
  | ask c next ih => exact ⟨h.1, fun r => ih r (h.2 r)⟩

/-- What every call of a kind keeps, a program keeps that makes no others. -/
theorem Asks.run_keeps {store : Store σ} (keeps : σ → Prop) (h : p.Asks kind)
    (hcall : ∀ c s, kind c → keeps s → keeps (store c s).2) {s : σ} (hs : keeps s) :
    keeps (p.run store s).2 := by
  induction p generalizing s with
  | done a => exact hs
  | ask c next ih => exact ih _ (h.2 _) (hcall c s h.1 hs)

/-- The calls that a program writes down are of the kind that it makes. -/
theorem Asks.run_logged {store : Store σ} (h : p.Asks kind) (s : σ) :
    ∀ c ∈ (p.run store.logged (s, [])).2.2, kind c := by
  refine h.run_keeps (fun t : σ × List Call => ∀ c ∈ t.2, kind c) ?_ (by simp)
  intro c t hc ht c' hc'
  rcases List.mem_append.mp hc' with hc' | hc'
  · exact ht c' hc'
  · exact List.mem_singleton.mp hc' ▸ hc

end Program

end TaskBoard.Cache
