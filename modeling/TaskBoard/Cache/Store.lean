import TaskBoard.Cache.Pattern
import TaskBoard.Time.Duration

/-!
# Cache stores

A store is whatever answers the calls of the cache: it may fail any of them, at any time. A program
that uses a store is written down apart from it, so that it can be run over every store, and so
that the calls of several programs can be interleaved.
-/

namespace TaskBoard.Cache

open Time

inductive StoreError where
  | notFound
  | unavailable (reason : String)
  | invalidTtl (ttl : Duration)
  | undecodable (reason : String)
deriving DecidableEq, Repr

def StoreError.message : StoreError → String
  | notFound => "cache key not found"
  | unavailable reason => s!"cache store unavailable: {reason}"
  | invalidTtl ttl => s!"invalid ttl {ttl.text}: must be greater than zero"
  | undecodable reason => s!"cached value could not be decoded: {reason}"

inductive Call where
  | get (key : Key)
  | set (key : Key) (value : Bytes) (ttl : Duration)
  | keysMatching (pattern : Pattern)
  | delete (key : Key)
  | clear
  | ping
deriving DecidableEq, Repr

/-- What a store gives back if a call succeeds. -/
@[reducible] def Call.Result : Call → Type
  | get _ => Bytes
  | keysMatching _ => List Key
  | set .. | delete _ | clear | ping => Unit

abbrev Call.Reply (c : Call) : Type := Except StoreError c.Result

abbrev Store (σ : Type) := (c : Call) → σ → c.Reply × σ

/-- A program that makes calls on a store. -/
inductive Program (α : Type) where
  | done (a : α)
  | ask (c : Call) (next : c.Reply → Program α)

namespace Program

def bind {α β : Type} : Program α → (α → Program β) → Program β
  | done a, f => f a
  | ask c next, f => ask c fun r => (next r).bind f

instance : Monad Program where
  pure := done
  bind := bind

def call (c : Call) : Program c.Reply := ask c done

def run {α σ : Type} (store : Store σ) : Program α → σ → α × σ
  | done a, s => (a, s)
  | ask c next, s => let (r, s) := store c s; (next r).run store s

end Program

end TaskBoard.Cache
