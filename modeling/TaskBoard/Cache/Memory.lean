import TaskBoard.Cache.Store

/-!
# The store in memory

Entries with deadlines. An entry past its deadline is as if it were not there; it is dropped when
something else is stored.
-/

namespace TaskBoard.Cache

open Time

structure Entry where
  key : Key
  value : Bytes
  deadline : Option Instant
deriving DecidableEq, Repr

abbrev Memory := List Entry

namespace Memory

/-- The end of the clock: an entry that would live longer lives for ever. -/
def horizon : Instant := Duration.ofSeconds 9223372036854775808

def deadline (now : Instant) (ttl : Duration) : Option Instant :=
  if now + ttl < horizon then some (now + ttl) else none

def isLive (now : Instant) (e : Entry) : Bool :=
  match e.deadline with
  | some d => now < d
  | none => true

def live (now : Instant) (m : Memory) : Memory := m.filter (isLive now)

def lookup? (now : Instant) (key : Key) (m : Memory) : Option Entry :=
  (live now m).find? (·.key = key)

def put (now : Instant) (key : Key) (value : Bytes) (ttl : Duration) (m : Memory) : Memory :=
  (live now m).filter (·.key ≠ key) ++ [⟨key, value, deadline now ttl⟩]

def remove (key : Key) (m : Memory) : Memory := m.filter (·.key ≠ key)

def keys (now : Instant) (m : Memory) : List Key := (live now m).map (·.key)

def count (now : Instant) (m : Memory) : Nat := (keys now m).length

def store (now : Instant) : Store Memory
  | .get key, m =>
    match lookup? now key m with
    | some e => (.ok e.value, m)
    | none => (.error .notFound, m)
  | .set key value ttl, m =>
    if ttl = 0 then (.error (.invalidTtl ttl), m) else (.ok (), put now key value ttl m)
  | .keysMatching pattern, m => (.ok ((keys now m).filter pattern.covers), m)
  | .delete key, m => (.ok (), remove key m)
  | .clear, _ => (.ok (), [])
  | .ping, m => (.ok (), m)

end Memory

end TaskBoard.Cache
