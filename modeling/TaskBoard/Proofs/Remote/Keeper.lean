import Mathlib.Logic.Function.Basic
import TaskBoard.Proofs.Text.Numeral
import TaskBoard.Proofs.Text.Utf8
import TaskBoard.Remote.Store

/-!
# Servers that keep values

A server that always answers, and keeps every value for as many milliseconds as it is told to. Over
such a server the remote store reads and changes what the server holds.
-/

namespace TaskBoard.Remote

open Cache Time Text

variable {σ : Type}

/-! ## Holdings -/

/-- A value that is kept, and the milliseconds that it still has. -/
abbrev Holding := Bytes × Nat

abbrev Holdings := Bytes → Option Holding

/-- A value is there until its last millisecond has passed. -/
def passed (millis : Nat) : Option Holding → Option Holding
  | some (value, left) => if millis < left then some (value, left - millis) else none
  | none => none

def Holdings.after (holdings : Holdings) (millis : Nat) : Holdings :=
  fun key => passed millis (holdings key)

def replyOf : Option Holding → Reply
  | some (value, _) => .bulk value
  | none => .nil

def command (name : String) (arguments : List Bytes) : Command :=
  Utf8.encode name.toList :: arguments

/-- 30 days. -/
def longestMillis : Nat := 2592000000

/-- The server answers the commands by what it holds. -/
structure Keeps (server : Server σ) (wait : Nat → σ → σ) (holds : σ → Holdings) : Prop where
  wait : ∀ millis s, holds (wait millis s) = (holds s).after millis
  get : ∀ key s, ∃ t, server (command "GET" [key]) s = (some (replyOf (holds s key)), t) ∧
    holds t = holds s
  set : ∀ key value millis s, 0 < millis → millis ≤ longestMillis →
    ∃ t, server (command "PSETEX" [key, numberBytes millis, value]) s =
      (some (.simple "OK".toList), t) ∧
      holds t = Function.update (holds s) key (some (value, millis))
  delete : ∀ key s, ∃ n t, server (command "DEL" [key]) s = (some (.int n), t) ∧
    holds t = Function.update (holds s) key none
  clear : ∀ s, ∃ t, server (command "FLUSHDB" []) s = (some (.simple "OK".toList), t) ∧
    holds t = fun _ => none

/-! ## The store over such a server -/

theorem send_eq {α : Type} {server : Server σ} {name : String} {arguments : List Bytes} {s t : σ}
    {reply : Reply} (h : server (command name arguments) s = (some reply, t))
    (hok : reply.error? = none) (timeout : Duration) (take : Reply → Taken α) :
    send server timeout name arguments take s = ((take reply).mapError unavailable, t) := by
  unfold command at h
  simp only [send, h, hok]

theorem ofMillis_pos {millis : Nat} (h : 0 < millis) : 0 < Duration.ofMillis millis :=
  Nat.mul_pos h (by decide)

theorem expiryMillis_ofMillis {millis : Nat} (h : millis ≤ longestMillis) :
    expiryMillis (Duration.ofMillis millis) = millis := by
  have hwhole : (Duration.ofMillis millis).wholeMillis = millis :=
    Nat.mul_div_cancel millis (by decide)
  have hmax : longestMillis ≤ maxU64 := by decide
  rw [expiryMillis, hwhole, Nat.min_eq_left (Nat.le_trans h hmax)]

namespace Keeps

variable {server : Server σ} {wait : Nat → σ → σ} {holds : σ → Holdings}

theorem store_get (h : Keeps server wait holds) (timeout : Duration) (key : Key) (s : σ) :
    ∃ t, store server timeout (.get key) s =
      (opened (.ok ((holds s (keyBytes key)).map Prod.fst)), t) ∧ holds t = holds s := by
  obtain ⟨t, hreply, ht⟩ := h.get (keyBytes key) s
  refine ⟨t, ?_, ht⟩
  cases hheld : holds s (keyBytes key) <;>
  · rw [hheld] at hreply
    rw [store, send_eq hreply rfl]
    rfl

theorem store_set (h : Keeps server wait holds) (timeout : Duration) (key : Key) (value : Bytes)
    {millis : Nat} (hpos : 0 < millis) (hle : millis ≤ longestMillis) (s : σ) :
    ∃ t, store server timeout (.set key value (Duration.ofMillis millis)) s = (.ok (), t) ∧
      holds t = Function.update (holds s) (keyBytes key)
        (some (Envelope.encode value, millis)) := by
  obtain ⟨t, hreply, ht⟩ := h.set (keyBytes key) (Envelope.encode value) millis s hpos hle
  refine ⟨t, ?_, ht⟩
  have httl : Duration.ofMillis millis ≠ 0 := Nat.ne_of_gt (ofMillis_pos hpos)
  simp only [store, if_neg httl, expiryMillis_ofMillis hle]
  rw [send_eq hreply rfl]
  rfl

theorem store_delete (h : Keeps server wait holds) (timeout : Duration) (key : Key) (s : σ) :
    ∃ t, store server timeout (.delete key) s = (.ok (), t) ∧
      holds t = Function.update (holds s) (keyBytes key) none := by
  obtain ⟨n, t, hreply, ht⟩ := h.delete (keyBytes key) s
  refine ⟨t, ?_, ht⟩
  rw [store, send_eq hreply rfl]
  rfl

theorem store_clear (h : Keeps server wait holds) (timeout : Duration) (s : σ) :
    ∃ t, store server timeout .clear s = (.ok (), t) ∧ holds t = fun _ => none := by
  obtain ⟨t, hreply, ht⟩ := h.clear s
  refine ⟨t, ?_, ht⟩
  rw [store, send_eq hreply rfl]
  rfl

end Keeps

/-! ## A keeper -/

def unknownCommand : Reply := .error "ERR unknown command".toList

/-- The plainest server of this kind: its state is what it holds. -/
def keeper : Server Holdings
  | [name], holdings =>
    if name = Utf8.encode "FLUSHDB".toList then (some (.simple "OK".toList), fun _ => none)
    else (some unknownCommand, holdings)
  | [name, key], holdings =>
    if name = Utf8.encode "GET".toList then (some (replyOf (holdings key)), holdings)
    else if name = Utf8.encode "DEL".toList then
      (some (.int (holdings key).toList.length), Function.update holdings key none)
    else (some unknownCommand, holdings)
  | [name, key, millis, value], holdings =>
    if name = Utf8.encode "PSETEX".toList then
      match (Utf8.decode? millis).bind digits? with
      | some (n + 1) =>
        (some (.simple "OK".toList), Function.update holdings key (some (value, n + 1)))
      | some 0 | none => (some (.error "ERR invalid expire time".toList), holdings)
    else (some unknownCommand, holdings)
  | _, holdings => (some unknownCommand, holdings)

theorem digits?_numberBytes (n : Nat) :
    (Utf8.decode? (numberBytes n)).bind digits? = some n := by
  rw [numberBytes, Utf8.decode?_eq_some_iff.mpr rfl, Option.bind_some, digits?_decimal]

theorem keeps_keeper : Keeps keeper (fun millis holdings => holdings.after millis) id where
  wait _ _ := rfl
  get key holdings := ⟨holdings, rfl, rfl⟩
  set key value millis holdings hpos _ := by
    obtain ⟨n, rfl⟩ := Nat.exists_eq_add_one.mpr hpos
    refine ⟨_, ?_, rfl⟩
    simp only [keeper, command, digits?_numberBytes, if_true]
    rfl
  delete key holdings := ⟨_, _, rfl, rfl⟩
  clear holdings := ⟨_, rfl, rfl⟩

end TaskBoard.Remote
